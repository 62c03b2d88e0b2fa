import Dialogue.Text.Basic

/-!
# JSON values

The values of a JSON text. Numbers other than natural numbers have no use here and are not
told apart. A string whose escapes leave half of a surrogate pair is well formed and yet no
text; it stands as `none`.
-/

namespace Dialogue

/-- A JSON value. -/
inductive Json where
  | null
  | bool (value : Bool)
  | natural (value : Nat)
  | otherNumber
  | string (text : Option Text)
  | array (elements : List Json)
  | object (fields : List (Option Text × Json))
deriving Repr

namespace Json

def ofText (t : Text) : Json := .string (some t)

def ofNat? : Option Nat → Json
  | some n => .natural n
  | none => .null

def record (fields : List (Text × Json)) : Json :=
  .object (fields.map fun (name, value) => (some name, value))

/-! ## Reading values -/

def text? : Json → Option Text
  | .string t => t
  | _ => none

def bool? : Json → Option Bool
  | .bool b => some b
  | _ => none

/-- The value of a number that fits 64 bits. -/
def word? : Json → Option Nat
  | .natural n => if n < UInt64.size then some n else none
  | _ => none

/-- The elements of an array, each read by `read?`. -/
def list? {α : Type} (read? : Json → Option α) : Json → Option (List α)
  | .array elements => elements.mapM read?
  | _ => none

def textPair? : Json → Option (Text × Text)
  | .array [a, b] => return (← a.text?, ← b.text?)
  | _ => none

/-- Nothing for null, and otherwise what `read?` reads. -/
def orNull? {α : Type} (read? : Json → Option α) : Json → Option (Option α)
  | .null => some none
  | j => (read? j).map some

/-- The value of one field of a record: nothing if the field is missing. A field that stands
twice is refused. -/
def fieldValue? (fields : List (Text × Json)) (name : Text) : Option (Option Json) :=
  match fields.filter (fun f => f.1 == name) with
  | [] => some none
  | [f] => some (some f.2)
  | _ => none

/-- The values of a record's fields, in the order of the names. A record is an object, whose
other fields are ignored, or an array of the first values in this order. -/
def record? (names : List Text) : Json → Option (List (Option Json))
  | .object fields => do
    let fields ← fields.mapM fun f => f.1.map (·, f.2)
    names.mapM (fieldValue? fields)
  | .array elements =>
    if elements.length ≤ names.length then
      some (elements.map some ++ List.replicate (names.length - elements.length) none)
    else none
  | _ => none

/-- What `read?` reads, or the default if the field is missing. -/
def fieldOr {α : Type} (default : α) (read? : Json → Option α) : Option Json → Option α
  | some j => read? j
  | none => some default

end Json

end Dialogue
