import Dialogue.Unicode.Property

/-!
# Text

A text is a list of characters. This module holds what every other module asks of texts:
their size in bytes, trimming, words, and the first occurrence of a delimiter.
-/

namespace Dialogue

open Unicode

/-- A sequence of Unicode characters. -/
abbrev Text := List Char

/-- Puts `x` in front of the first list. -/
def consHead {α : Type} (x : α) : List (List α) → List (List α)
  | [] => [[x]]
  | p :: ps => (x :: p) :: ps

namespace Text

def byteLength : Text → Nat
  | [] => 0
  | c :: rest => c.utf8Size + byteLength rest

/-- The bytes of two texts in sequence. -/
theorem byteLength_append (s t : Text) : byteLength (s ++ t) = byteLength s + byteLength t := by
  induction s with
  | nil => simp [byteLength]
  | cons c rest ih => simp [byteLength, ih, Nat.add_assoc]

/-- The texts one after the other, with `separator` between any two. -/
def join (separator : Text) (parts : List Text) : Text := List.intercalate separator parts

def ofNat (n : Nat) : Text := Nat.toDigits 10 n

/-! ## Trimming -/

def trimStart (t : Text) : Text := t.dropWhile isWhiteSpace

def trimEnd (t : Text) : Text := (t.reverse.dropWhile isWhiteSpace).reverse

def trim (t : Text) : Text := trimEnd (trimStart t)

/-! ## Cutting -/

/-- The pieces of a text between the characters for which `p` holds. There is always one
piece more than there are such characters. -/
def splitWhen (p : Char → Bool) : Text → List Text
  | [] => [[]]
  | c :: rest => if p c then [] :: splitWhen p rest else consHead c (splitWhen p rest)

/-- The maximal runs of characters that are not white space. -/
def words (t : Text) : List Text := (splitWhen isWhiteSpace t).filter (fun w => !w.isEmpty)

/-- What stands before and what stands after the first occurrence of `delimiter`. -/
def breakOn (delimiter : Text) : Text → Option (Text × Text)
  | [] => if delimiter.isEmpty then some ([], []) else none
  | c :: rest =>
    if delimiter.isPrefixOf (c :: rest) then some ([], (c :: rest).drop delimiter.length)
    else (breakOn delimiter rest).map fun (before, after) => (c :: before, after)

/-- A text is what stands before the delimiter, the delimiter, and what stands after it. -/
theorem eq_append_of_breakOn {delimiter t before after : Text}
    (h : breakOn delimiter t = some (before, after)) : t = before ++ delimiter ++ after := by
  induction t generalizing before with
  | nil => grind [breakOn]
  | cons c rest ih =>
    rw [breakOn] at h
    split at h
    · rename_i hp
      obtain ⟨tail, ht⟩ := List.isPrefixOf_iff_prefix.1 hp
      simp only [Option.some.injEq, Prod.mk.injEq] at h
      obtain ⟨rfl, rfl⟩ := h
      simp [← ht]
    · obtain ⟨⟨b, a⟩, hb, he⟩ := Option.map_eq_some_iff.1 h
      simp only [Prod.mk.injEq] at he
      obtain ⟨rfl, rfl⟩ := he
      simp [ih hb]

/-- What stands after the first delimiter is shorter than the text by at least the delimiter. -/
theorem length_of_breakOn {delimiter t before after : Text}
    (h : breakOn delimiter t = some (before, after)) :
    delimiter.length + after.length ≤ t.length := by
  have := congrArg List.length (eq_append_of_breakOn h)
  simp at this; omega

end Text

end Dialogue
