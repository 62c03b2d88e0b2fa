import Dialogue.Text.Basic

/-!
# Indices

The `index` attribute picks one of several things, counted from 1, or a sentence of one of
several entries. An index that cannot be read is the first one.
-/

namespace Dialogue

/-- The number with the given decimal digits, of which there has to be one. -/
def Text.readDigits? (t : Text) : Option Nat :=
  if !t.isEmpty && t.all Char.isDigit then
    some (t.foldl (fun n c => n * 10 + (c.toNat - '0'.toNat)) 0)
  else none

/-- The number in a text with white space around it. A plus sign may stand before it, and it
has to fit 64 bits. -/
def Text.readIndex? (t : Text) : Option Nat :=
  let digits :=
    match trim t with
    | '+' :: rest => rest
    | t => t
  (readDigits? digits).filter (· < UInt64.size)

namespace Tags

def place (index : Option Text) : Nat := (index.bind Text.readIndex?).getD 1

/-- The entry and the sentence that an index of one or two numbers names. -/
def placeOfSentence (index : Option Text) : Nat × Nat :=
  match index.map fun t => (Text.splitWhen (· == ',') t).map Text.readIndex? with
  | some [some entry] => (entry, 1)
  | some [some entry, some sentence] => (entry, sentence)
  | _ => (1, 1)

/-- The element at a place counted from 1. -/
def elementAt (ts : List Text) : Nat → Text
  | 0 => []
  | i + 1 => ts[i]?.getD []

end Tags

end Dialogue
