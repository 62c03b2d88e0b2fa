import Dialogue.Evaluation.Handler
import Dialogue.Pattern.Match
import Dialogue.Text.Normal

/-!
# Tags that choose

A random item, or the first item whose condition holds; and the self-query, which goes on
with another template.
-/

namespace Dialogue.Tags

open Markup

/-- The content of a random item. Only a choice between two or more is random. -/
def random : Handler where
  label := "random".toList
  process i :=
    match i.items with
    | [] => .done []
    | [item] => item.content
    | item :: other :: rest => do
      let k ← Evaluation.choice (rest.length + 1)
      ((item :: other :: rest).get k).content

/-! ## Conditions -/

/-- The predicate matches the value, both in the form of a pattern. A value that is no
pattern matches nothing. -/
def predicateMatches (settings : Settings) (session : SessionId) (name value : Text) :
    Evaluation Bool := do
  let current ← Evaluation.predicate settings session name
  match Pattern.parse? (Text.fitPattern value) with
  | .ok p => return p.isMatch true (Text.fitPattern current)
  | .error _ => return false

inductive Guard where
  /-- Always. -/
  | always
  /-- Never, as the name or the value is missing. -/
  | never
  /-- When the predicate matches the value. -/
  | matches (name value : Text)
deriving DecidableEq, Repr

/-- The guard of an item. The condition itself may name the predicate for all items. -/
def guardOf (name : Option Text) (item : Attributes) : Guard :=
  match name, item.value? "name".toList, item.value? "value".toList with
  | some name, _, some value => .matches name value
  | some _, _, none => .always
  | none, some name, some value => .matches name value
  | none, none, none => .always
  | none, _, _ => .never

def firstHolding (settings : Settings) (session : SessionId) (name : Option Text) :
    List Child → Evaluation Text
  | [] => .done []
  | item :: rest =>
    match guardOf name item.node.attributes with
    | .always => item.content
    | .never => firstHolding settings session name rest
    | .matches name' value => do
      if ← predicateMatches settings session name' value then item.content
      else firstHolding settings session name rest

/-- With a name and a value, the content if the predicate matches the value; otherwise the
first item whose guard holds. -/
def condition : Handler where
  label := "condition".toList
  process i :=
    match i.attribute? "name".toList, i.attribute? "value".toList with
    | some name, some value => do
      if ← predicateMatches i.settings i.context.session name value then i.content
      else return []
    | name, _ => firstHolding i.settings i.context.session name i.items

/-! ## Self-queries -/

/-- What the bot answers to the content. A self-query that nests too deep gives a fixed
text. -/
def srai : Handler where
  label := "srai".toList
  process i := do
    let text ← i.content
    (i.selfQuery text).orIfTooDeep i.settings.recursionFallback

end Dialogue.Tags
