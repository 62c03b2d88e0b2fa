import Dialogue.Proofs.Markup.Attribute
import Dialogue.Proofs.Unicode
import Dialogue.Tags.Index

/-!
# Indices in digits

The digits of a number stand in an attribute as they are (`attributes_indexed`), and the index
that they make is the number (`placeOfSentence_ofNat`). Only where the number does not fit 64 bits
is there no index to be read, and the place is the first one.
-/

namespace Dialogue

open Unicode Text

namespace Text

theorem isDigit_of_mem_ofNat {n : Nat} {c : Char} (h : c ∈ ofNat n) : c.isDigit = true :=
  Nat.isDigit_of_mem_toDigits (by decide) (by decide) h

theorem ofNat_ne_nil (n : Nat) : ofNat n ≠ [] := Nat.toDigits_ne_nil

/-- What is no digit stands in no number. -/
theorem not_mem_ofNat {c : Char} (hc : c.isDigit = false) (n : Nat) : c ∉ ofNat n := by
  intro h
  rw [isDigit_of_mem_ofNat h] at hc
  cases hc

theorem readDigits?_ofNat (n : Nat) : readDigits? (ofNat n) = some n := by
  have hdigits : (!(ofNat n).isEmpty && (ofNat n).all Char.isDigit) = true := by
    rw [Bool.and_eq_true, Bool.not_eq_true', List.isEmpty_eq_false_iff, List.all_eq_true]
    exact ⟨ofNat_ne_nil n, fun c => isDigit_of_mem_ofNat⟩
  have hvalue : (ofNat n).foldl (fun n c => n * 10 + (c.toNat - '0'.toNat)) 0 = n := by
    have hten : Nat.ofDigitChars 10 (ofNat n) 0 = n := Nat.ofDigitChars_ten_toDigits
    rw [Nat.ofDigitChars_eq_foldl] at hten
    simpa only [Nat.mul_comm] using hten
  rw [readDigits?, if_pos hdigits, hvalue]

theorem trim_ofNat (n : Nat) : trim (ofNat n) = ofNat n := by
  have hdigit : ∀ c ∈ ofNat n, isWhiteSpace c = false := by
    intro c hc
    have hrange : inRanges [('0'.toNat, '9'.toNat)] c.toNat = true := by
      obtain ⟨hfirst, hlast⟩ := Char.isDigit_iff_toNat.1 (isDigit_of_mem_ofNat hc)
      rw [inRanges, if_pos hlast]
      exact decide_eq_true hfirst
    exact not_inRanges_of_disjoint (by decide) hrange
  apply trim_of_trimmed
  constructor
  · exact fun c hc => hdigit c (List.mem_of_mem_head? hc)
  · exact fun c hc => hdigit c (List.mem_of_mem_getLast? hc)

/-- A number is read from its digits if it fits 64 bits. -/
theorem readIndex?_ofNat (n : Nat) :
    readIndex? (ofNat n) = if n < UInt64.size then some n else none := by
  have hplus : ∀ rest, ofNat n ≠ '+' :: rest := by
    intro rest h
    exact not_mem_ofNat (by decide) n (h ▸ List.mem_cons_self)
  have hindex : readIndex? (ofNat n) = (readDigits? (ofNat n)).filter (· < UInt64.size) := by
    rw [readIndex?, trim_ofNat]
    split
    · rename_i rest h
      exact absurd h (hplus rest)
    · rfl
  rw [hindex, readDigits?_ofNat]
  by_cases hn : n < UInt64.size <;> simp [hn, Option.filter]

end Text

/-- A number that does not fit 64 bits is no index, and the place is the first one. -/
theorem placeOfSentence_ofNat (n : Nat) :
    Tags.placeOfSentence (some (ofNat n)) = (if n < UInt64.size then n else 1, 1) := by
  have hsplit : splitWhen (· == ',') (ofNat n) = [ofNat n] := by
    apply splitWhen_eq_singleton
    intro c hc
    rw [beq_eq_false_iff_ne]
    rintro rfl
    exact not_mem_ofNat (by decide) n hc
  rw [Tags.placeOfSentence, Option.map_some, hsplit, List.map_singleton, readIndex?_ofNat]
  by_cases hn : n < UInt64.size
  · rw [if_pos hn, if_pos hn]
  · rw [if_neg hn, if_neg hn]

namespace Markup

/-- The tag `<name index="n"/>`. -/
def Node.indexed (name : Text) (n : Nat) : Node :=
  .selfClosing ⟨name, " index=\"".toList ++ ofNat n ++ ['"']⟩

theorem attributes_indexed (name : Text) (n : Nat) :
    (Node.indexed name n).attributes = [("index".toList, ofNat n)] := by
  have hescape : escape (ofNat n) = ofNat n := by
    have hdigit : ∀ c ∈ reserved, c.isDigit = false := forall_mem_reserved.2 (by decide)
    exact escape_eq_self fun c hc hreserved => not_mem_ofNat (hdigit c hreserved) n hc
  have hwritten : writeAttributes [("index".toList, ofNat n)] =
      " index=\"".toList ++ ofNat n ++ ['"'] := by
    rw [writeAttributes, List.flatMap_singleton]
    dsimp only
    rw [hescape]
    rfl
  show (Tag.mk name (" index=\"".toList ++ ofNat n ++ ['"'])).attributes = _
  rw [← hwritten]
  exact Tag.attributes_withAttribute name (by decide) (ofNat n)

end Markup

end Dialogue
