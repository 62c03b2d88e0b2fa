import Dialogue.Evaluation.Handler
import Dialogue.Tags.Index

/-!
# Tags that recall

What the wildcards stood for, what was said before, and what the bot knows about the user
and about itself.
-/

namespace Dialogue.Tags

def index? (i : Invocation) : Option Text := i.attribute? "index".toList

def name? (i : Invocation) : Option Text := i.attribute? "name".toList

/-! ## Wildcards -/

/-- What a wildcard of the input pattern stands for. -/
def star : Handler :=
  ⟨"star".toList, fun i => .done (elementAt i.context.stars.input (place (index? i)))⟩

def thatStar : Handler :=
  ⟨"thatstar".toList, fun i => .done (elementAt i.context.stars.that (place (index? i)))⟩

def topicStar : Handler :=
  ⟨"topicstar".toList, fun i => .done (elementAt i.context.stars.topic (place (index? i)))⟩

/-! ## Histories -/

def sentenceOf (kind : HistoryKind) (i : Invocation) : Evaluation Text :=
  let (entry, sentence) := placeOfSentence (index? i)
  .historySentence i.settings i.context.session kind entry sentence

def input : Handler := ⟨"input".toList, sentenceOf .input⟩

def that : Handler := ⟨"that".toList, sentenceOf .that⟩

/-! ## Predicates and properties -/

/-- The value of a predicate. Without a name it gives nothing. -/
def get : Handler where
  label := "get".toList
  process i :=
    match name? i with
    | some name => .predicate i.settings i.context.session name
    | none => .done []

/-- Gives a predicate the trimmed content as its value, and gives the value itself. Without a
name nothing is stored. -/
def set : Handler where
  label := "set".toList
  process i := do
    let value := Text.trim (← i.content)
    match name? i with
    | some name =>
      Evaluation.setPredicate i.context.session name value
      return value
    | none => return value

def bot : Handler where
  label := "bot".toList
  process i := .done (((name? i).bind i.settings.botProperties.get?).getD [])

end Dialogue.Tags
