import Dialogue.Tags.Branch
import Dialogue.Tags.Recall
import Dialogue.Tags.Report
import Dialogue.Tags.Shape

/-!
# The standard tags

The tags that every bot understands. Legacy tags are not among them: they are expanded.
-/

namespace Dialogue

def standardHandlers : List Handler :=
  [Tags.star, Tags.thatStar, Tags.topicStar, Tags.input, Tags.that, Tags.get, Tags.set, Tags.bot,
   Tags.think, Tags.uppercase, Tags.lowercase, Tags.formal, Tags.sentence, Tags.person,
   Tags.person2, Tags.gender, Tags.random, Tags.condition, Tags.srai, Tags.date, Tags.id,
   Tags.size, Tags.version]

def Registry.standard : Registry := ⟨standardHandlers, by decide⟩

def standardVersion : Text := "1.0.1".toList

end Dialogue
