import Dialogue.Evaluation.Handler
import Dialogue.Text.Casing
import Dialogue.Text.Pronoun
import Dialogue.Text.Sentence

/-!
# Tags that shape their content

These tags evaluate their content and change the text it gives.
-/

namespace Dialogue.Tags

/-- A tag that changes the text of its content. -/
def shape (label : Text) (change : Settings → Text → Text) : Handler where
  label := label
  process i := do
    return change i.settings (← i.content)

/-- The content for its effects only. -/
def think : Handler := shape "think".toList fun _ _ => []

def uppercase : Handler := shape "uppercase".toList fun _ => Text.upper

def lowercase : Handler := shape "lowercase".toList fun _ => Text.lower

def formal : Handler := shape "formal".toList fun _ => Text.capitalizeWords

def sentence : Handler :=
  shape "sentence".toList fun settings => Text.capitalizeSentences settings.sentenceSplitters

/-- A tag that shifts the pronouns of its content. A self-closing tag is a shorthand. -/
def shift (label : Text) (table : Substitutions → SubstitutionTable) : Handler where
  label := label
  process i :=
    if i.node.isSelfClosing then i.expandShorthand
    else do
      return Text.shiftPronouns (table i.settings.substitutions) (← i.content)

def person : Handler := shift "person".toList (·.personTable .firstThird)

def person2 : Handler := shift "person2".toList (·.personTable .firstSecond)

def gender : Handler := shift "gender".toList (·.genderTable)

end Dialogue.Tags
