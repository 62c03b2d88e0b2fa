import Dialogue.Proofs.Text.Words
import Dialogue.Proofs.Unicode.Uppercase
import Dialogue.Text.Normal

/-!
# What normalization leaves

The normal form of a text is empty only if there is no letter or digit in it
(`normalizeInput_eq_nil_iff`), and there is never a wildcard in it (`star_not_mem_normalizeInput`).
It consists of words in uppercase, and the normal form of such a text is what it has of letters,
numbers and white space (`normalizeInput_join`): the uppercase forms of some letters have combining
marks in them, and these go.

A text in the form of a pattern is made of words without white space, whose characters are those of
the uppercase forms of the characters that may stand in a pattern (`mem_fitPattern_iff`).
-/

namespace Dialogue.Text

open Unicode

theorem upper_eq_nil_iff {t : Text} : upper t = [] ↔ t = [] := by
  cases t <;> simp [upper, upperChar_ne_nil]

theorem normalizeWords_eq_nil_iff {t : Text} :
    normalizeWords t = [] ↔ t.any isAlphanumeric = false := by
  rw [normalizeWords, join_words_eq_nil_iff, List.any_eq_false]
  constructor
  · intro h c hc halnum
    have hspace := h c (List.mem_filter.2 ⟨hc, by rw [halnum, Bool.true_or]⟩)
    rw [not_isWhiteSpace_of_isAlphanumeric halnum] at hspace
    cases hspace
  · intro h c hc
    obtain ⟨hc, hkept⟩ := List.mem_filter.1 hc
    rw [Bool.or_eq_true] at hkept
    rcases hkept with halnum | hspace
    · exact absurd halnum (h c hc)
    · exact hspace

/-- **Nothing is left of a text only if there is no letter or digit in it.** -/
theorem normalizeInput_eq_nil_iff {t : Text} :
    normalizeInput t = [] ↔ t.any isAlphanumeric = false := by
  rw [normalizeInput, upper_eq_nil_iff, normalizeWords_eq_nil_iff]

/-- **No wildcard comes out of normalization.** -/
theorem star_not_mem_normalizeInput (t : Text) : '*' ∉ normalizeInput t := by
  intro h
  obtain ⟨c, hc, hstar⟩ := List.mem_flatMap.1 h
  obtain rfl := eq_of_mem_upperChar (by decide) (by decide) hstar
  rcases mem_join hc with hc | hc
  · revert hc
    decide
  · rw [flatten_words] at hc
    obtain ⟨hc, -⟩ := List.mem_filter.1 hc
    obtain ⟨-, hkept⟩ := List.mem_filter.1 hc
    revert hkept
    decide +kernel

/-! ## The normal form of a normal form -/

def kept (t : Text) : Text := t.filter fun c => isAlphanumeric c || isWhiteSpace c

theorem kept_join (ws : List Text) : kept (join [' '] ws) = join [' '] (ws.map kept) := by
  have hspace : kept [' '] = [' '] := by decide +kernel
  have happend : ∀ s t, kept (s ++ t) = kept s ++ kept t := fun s t => List.filter_append s t
  rw [map_join rfl happend, hspace]

theorem kept_join_eq_self {ws : List Text} (h : ∀ w ∈ ws, kept w = w) :
    kept (join [' '] ws) = join [' '] ws := by
  rw [kept_join, List.map_congr_left h, List.map_id']

theorem upper_join (ws : List Text) : upper (join [' '] ws) = join [' '] (ws.map upper) := by
  have hspace : upper [' '] = [' '] := by decide +kernel
  have happend : ∀ s t, upper (s ++ t) = upper s ++ upper t := fun s t => List.flatMap_append
  rw [map_join rfl happend, hspace]

theorem normalizeInput_eq (t : Text) :
    normalizeInput t = join [' '] ((words (kept t)).map upper) := upper_join _

/-- A word with a letter or number in it and with all its characters in uppercase. Besides letters
and numbers it may have marks in it, but no white space. -/
structure IsNormalWord (w : Text) : Prop where
  letter : ∃ c ∈ w, isAlphanumeric c = true
  char : ∀ c ∈ w, isWhiteSpace c = false ∧ upperChar c = [c]

theorem isNormalWord_upper {w : Text} (hne : w ≠ []) (hw : ∀ c ∈ w, isAlphanumeric c = true) :
    IsNormalWord (upper w) where
  letter := by
    obtain ⟨c, hc⟩ := List.exists_mem_of_ne_nil w hne
    obtain ⟨d, hd, hletter⟩ := exists_isAlphanumeric_mem_upperChar (hw c hc)
    exact ⟨d, List.mem_flatMap.2 ⟨c, hc, hd⟩, hletter⟩
  char d hd := by
    obtain ⟨c, hc, hdc⟩ := List.mem_flatMap.1 hd
    have hspace := not_isWhiteSpace_of_isAlphanumeric (hw c hc)
    exact ⟨not_isWhiteSpace_of_mem_upperChar hspace hdc, upperChar_of_mem_upperChar hdc⟩

theorem mem_kept_iff {t : Text} {c : Char} (hc : isWhiteSpace c = false) :
    c ∈ kept t ↔ c ∈ t ∧ isAlphanumeric c = true := by
  rw [kept, List.mem_filter, hc, Bool.or_false]

/-- What is kept of a text has words of letters and numbers. -/
theorem mem_words_kept {t w : Text} (hw : w ∈ words (kept t)) :
    w ≠ [] ∧ ∀ c ∈ w, isAlphanumeric c = true := by
  obtain ⟨hne, hchars⟩ := mem_words hw
  refine ⟨hne, fun c hc => ?_⟩
  obtain ⟨hmem, hspace⟩ := hchars c hc
  exact ((mem_kept_iff hspace).1 hmem).2

theorem exists_normalWords (t : Text) :
    ∃ ws, normalizeInput t = join [' '] ws ∧ ∀ w ∈ ws, IsNormalWord w := by
  refine ⟨_, normalizeInput_eq t, List.forall_mem_map.2 fun w hw => ?_⟩
  obtain ⟨hne, hletters⟩ := mem_words_kept hw
  exact isNormalWord_upper hne hletters

namespace IsNormalWord

variable {w : Text}

theorem ne_nil (h : IsNormalWord w) : w ≠ [] := by
  obtain ⟨c, hc, -⟩ := h.letter
  exact List.ne_nil_of_mem hc

theorem kept_ne_nil (h : IsNormalWord w) : kept w ≠ [] := by
  obtain ⟨c, hc, hletter⟩ := h.letter
  exact List.ne_nil_of_mem ((mem_kept_iff (h.char c hc).1).2 ⟨hc, hletter⟩)

theorem not_isWhiteSpace_of_mem_kept (h : IsNormalWord w) {c : Char} (hc : c ∈ kept w) :
    isWhiteSpace c = false :=
  (h.char c (List.mem_of_mem_filter hc)).1

theorem upper_kept (h : IsNormalWord w) : upper (kept w) = kept w := by
  have hchars : ∀ c ∈ kept w, upperChar c = [c] :=
    fun c hc => (h.char c (List.mem_of_mem_filter hc)).2
  rw [upper, List.flatMap_congr hchars]
  exact List.flatMap_singleton' _

end IsNormalWord

/-- **The normal form of words in uppercase** is what they have of letters, numbers and white
space. -/
theorem normalizeInput_join {ws : List Text} (hws : ∀ w ∈ ws, IsNormalWord w) :
    normalizeInput (join [' '] ws) = kept (join [' '] ws) := by
  have hwords : words (join [' '] (ws.map kept)) = ws.map kept :=
    words_join (List.forall_mem_map.2 fun w hw =>
      ⟨(hws w hw).kept_ne_nil, fun c hc => (hws w hw).not_isWhiteSpace_of_mem_kept hc⟩)
  have hupper : (ws.map kept).map upper = ws.map kept := by
    rw [List.map_map]
    exact List.map_congr_left fun w hw => (hws w hw).upper_kept
  rw [normalizeInput_eq, kept_join, hwords, hupper]

theorem mem_normalizeInput_iff {t : Text} {d : Char} (hd : d ≠ ' ') :
    d ∈ normalizeInput t ↔ ∃ c ∈ t, isAlphanumeric c = true ∧ d ∈ upperChar c := by
  rw [normalizeInput, upper, List.mem_flatMap]
  have hwords : ∀ c, d ∈ upperChar c →
      (c ∈ normalizeWords t ↔ c ∈ t ∧ isAlphanumeric c = true) := by
    intro c hdc
    have hc : c ≠ ' ' := by
      rintro rfl
      have hspace : upperChar ' ' = [' '] := by decide +kernel
      rw [hspace, List.mem_singleton] at hdc
      exact hd hdc
    rw [normalizeWords, mem_join_words_iff hc, ← kept]
    constructor
    · rintro ⟨hmem, hspace⟩
      exact (mem_kept_iff hspace).1 hmem
    · rintro ⟨hmem, hletter⟩
      have hspace := not_isWhiteSpace_of_isAlphanumeric hletter
      exact ⟨(mem_kept_iff hspace).2 ⟨hmem, hletter⟩, hspace⟩
  constructor
  · rintro ⟨c, hc, hdc⟩
    obtain ⟨hmem, hletter⟩ := (hwords c hdc).1 hc
    exact ⟨c, hmem, hletter, hdc⟩
  · rintro ⟨c, hmem, hletter, hdc⟩
    exact ⟨c, (hwords c hdc).2 ⟨hmem, hletter⟩, hdc⟩

/-- The uppercase forms of all letters and numbers of the text are letters and numbers. -/
def HasPlainUppercase (t : Text) : Prop :=
  ∀ c ∈ t, isAlphanumeric c = true → ∀ d ∈ upperChar c, isAlphanumeric d = true

-- the test runs over the characters of the text, where the general one may try every character
instance (t : Text) : Decidable (HasPlainUppercase t) :=
  decidable_of_iff
    (t.all (fun c => !isAlphanumeric c || (upperChar c).all isAlphanumeric) = true)
    (by simp [HasPlainUppercase, imp_iff_not_or])

theorem kept_normalizeInput_eq_iff {t : Text} :
    kept (normalizeInput t) = normalizeInput t ↔ HasPlainUppercase t := by
  rw [kept, List.filter_eq_self]
  constructor
  · intro h c hc hletter d hd
    have hspace : isWhiteSpace d = false :=
      not_isWhiteSpace_of_mem_upperChar (not_isWhiteSpace_of_isAlphanumeric hletter) hd
    have hne : d ≠ ' ' := by
      rintro rfl
      cases hspace
    have hkept := h d ((mem_normalizeInput_iff hne).2 ⟨c, hc, hletter, hd⟩)
    rwa [hspace, Bool.or_false] at hkept
  · intro h d hd
    by_cases hne : d = ' '
    · rw [hne]
      decide +kernel
    · obtain ⟨c, hc, hletter, hdc⟩ := (mem_normalizeInput_iff hne).1 hd
      rw [h c hc hletter d hdc, Bool.true_or]

/-! ## The form of a pattern -/

theorem not_isWhiteSpace_of_isPatternChar {c : Char} (h : isPatternChar c = true) :
    isWhiteSpace c = false := by
  rw [isPatternChar, Bool.or_eq_true, Bool.or_eq_true, beq_iff_eq, beq_iff_eq] at h
  rcases h with (h | rfl) | rfl
  · exact not_isWhiteSpace_of_isAlphanumeric h
  · decide
  · decide

theorem exists_words_fitPattern (t : Text) :
    ∃ ws, fitPattern t = join [' '] ws ∧ ∀ w ∈ ws, w ≠ [] ∧ ' ' ∉ w := by
  refine ⟨_, rfl, fun w hw => ⟨(mem_words hw).1, fun hspace => ?_⟩⟩
  have hwhite := ((mem_words hw).2 _ hspace).2
  revert hwhite
  decide

/-- What stands in a text that was brought into the form of a pattern. -/
theorem mem_fitPattern_iff {t : Text} {d : Char} (hd : d ≠ ' ') :
    d ∈ fitPattern t ↔ ∃ c ∈ removeMarkup t, isPatternChar c = true ∧ d ∈ upperChar c := by
  rw [fitPattern, mem_join_words_iff hd]
  constructor
  · rintro ⟨hmem, -⟩
    obtain ⟨x, hx, hdx⟩ := List.mem_flatMap.1 hmem
    obtain ⟨c, hc, rfl⟩ := List.mem_map.1 hx
    split at hdx
    · next hpattern => exact ⟨c, hc, hpattern, hdx⟩
    · exact absurd (List.mem_singleton.1 hdx) hd
  · rintro ⟨c, hc, hpattern, hdc⟩
    have hspace := not_isWhiteSpace_of_isPatternChar hpattern
    refine ⟨List.mem_flatMap.2 ⟨c, ?_, hdc⟩, not_isWhiteSpace_of_mem_upperChar hspace hdc⟩
    exact List.mem_map.2 ⟨c, hc, if_pos hpattern⟩

end Dialogue.Text
