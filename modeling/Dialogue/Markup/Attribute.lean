import Dialogue.Text.Entity

/-!
# Attributes

The attribute text of a tag is read only when an attribute is asked for. Reading takes
`name="value"` pairs from the left and stops at the first thing that is not one; the rest is
ignored. Between the parts of a pair only spaces, tabs and line ends may stand.
-/

namespace Dialogue.Markup

open Unicode

abbrev Attributes := List (Text × Text)

/-- The value of the first attribute with the given name. -/
def Attributes.value? (attributes : Attributes) (name : Text) : Option Text :=
  (attributes.find? (fun a => a.1 == name)).map (·.2)

def isBlank (c : Char) : Bool := c == ' ' || c == '\t' || c == '\r' || c == '\n'

def isNameChar (c : Char) : Bool :=
  isAlphanumeric c || c == '_' || c == '-' || c == ':' || c == '.'

/-- What follows the blanks at the beginning of a source. -/
def skipBlanks (source : Text) : Text := source.dropWhile isBlank

/-- A value in quotes, as it is written, and what follows it. -/
def readQuoted : Text → Option (Text × Text)
  | quote :: rest =>
    if quote = '"' ∨ quote = '\'' then Text.breakOn [quote] rest else none
  | [] => none

/-- The first attribute of a source, with its value unescaped, and what follows it. -/
def readAttribute (source : Text) : Option ((Text × Text) × Text) :=
  match (skipBlanks source).takeWhile isNameChar with
  | [] => none
  | name =>
    match skipBlanks ((skipBlanks source).dropWhile isNameChar) with
    | '=' :: rest =>
      (readQuoted (skipBlanks rest)).map fun (value, rest) => ((name, Text.unescape value), rest)
    | _ => none

theorem length_skipBlanks_le (source : Text) : (skipBlanks source).length ≤ source.length :=
  List.IsSuffix.length_le (List.dropWhile_suffix _)

theorem length_of_readQuoted {source value rest : Text}
    (h : readQuoted source = some (value, rest)) : rest.length < source.length := by
  cases source with
  | nil => simp [readQuoted] at h
  | cons quote tail =>
    rw [readQuoted] at h
    split at h
    · have := Text.length_of_breakOn h
      simp at this ⊢
      omega
    · cases h

/-- What follows an attribute is shorter than the source. -/
theorem length_of_readAttribute {source rest : Text} {a : Text × Text}
    (h : readAttribute source = some (a, rest)) : rest.length < source.length := by
  rw [readAttribute] at h
  split at h
  · cases h
  · split at h
    · rename_i afterEquals heq
      obtain ⟨⟨value, after⟩, hq, he⟩ := Option.map_eq_some_iff.1 h
      cases he
      have h₁ := length_of_readQuoted hq
      have h₂ := length_skipBlanks_le afterEquals
      have h₃ := length_skipBlanks_le ((skipBlanks source).dropWhile isNameChar)
      have h₄ : ((skipBlanks source).dropWhile isNameChar).length ≤ (skipBlanks source).length :=
        (List.dropWhile_suffix _).length_le
      have h₅ := length_skipBlanks_le source
      rw [heq] at h₃
      simp at h₃
      omega
    · cases h

/-- The attributes at the beginning of a source. -/
def readAttributes (source : Text) : Attributes :=
  match _h : readAttribute source with
  | some (a, rest) => a :: readAttributes rest
  | none => []
termination_by source.length
decreasing_by exact length_of_readAttribute _h

/-- The attribute text that holds the given attributes, each after a space and in double
quotes. -/
def writeAttributes (attributes : Attributes) : Text :=
  attributes.flatMap fun (name, value) =>
    [' '] ++ name ++ "=\"".toList ++ Text.escape value ++ "\"".toList

end Dialogue.Markup
