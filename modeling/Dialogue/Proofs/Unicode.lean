import Dialogue.Unicode.CaseFolding
import Dialogue.Unicode.CaseMapping
import Dialogue.Unicode.Property

/-!
# The tables of characters

What a lookup finds is in the table, so a property of every entry is one of every answer. In
this way the tables show that no letter or digit is white space, that the uppercase form of a
character is not empty, and that white space and the characters below the letters stand in no
uppercase form but their own.
-/

namespace Dialogue.Unicode

theorem exists_range_of_inRanges {ranges : List Range} {n : Nat} (h : inRanges ranges n = true) :
    ∃ r ∈ ranges, r.1 ≤ n ∧ n ≤ r.2 := by
  induction ranges with
  | nil => cases h
  | cons r ranges ih =>
    rw [inRanges] at h
    split at h
    · exact ⟨r, List.mem_cons_self, by simpa using h, ‹_›⟩
    · obtain ⟨q, hq, hn⟩ := ih h
      exact ⟨q, List.mem_cons_of_mem r hq, hn⟩

/-- Tables whose ranges do not overlap have no code point in common. -/
theorem not_inRanges_of_disjoint {xs ys : List Range}
    (h : ∀ x ∈ xs, ∀ y ∈ ys, x.2 < y.1 ∨ y.2 < x.1) {n : Nat} (hn : inRanges xs n = true) :
    inRanges ys n = false := by
  obtain ⟨x, hx, hfirst, hlast⟩ := exists_range_of_inRanges hn
  rw [Bool.eq_false_iff]
  intro hy
  obtain ⟨y, hy, hfirst', hlast'⟩ := exists_range_of_inRanges hy
  have := h x hx y hy
  omega

theorem not_isWhiteSpace_of_isAlphanumeric {c : Char} (h : isAlphanumeric c = true) :
    isWhiteSpace c = false := by
  have halphabetic : ∀ x ∈ alphabeticRanges, ∀ y ∈ whiteSpaceRanges, x.2 < y.1 ∨ y.2 < x.1 := by
    decide +kernel
  have hnumeric : ∀ x ∈ numericRanges, ∀ y ∈ whiteSpaceRanges, x.2 < y.1 ∨ y.2 < x.1 := by
    decide +kernel
  rw [isAlphanumeric, Bool.or_eq_true] at h
  rcases h with h | h
  · exact not_inRanges_of_disjoint halphabetic h
  · exact not_inRanges_of_disjoint hnumeric h

theorem not_isWhiteSpace_of_isAlphabetic {c : Char} (h : isAlphabetic c = true) :
    isWhiteSpace c = false :=
  not_isWhiteSpace_of_isAlphanumeric (by rw [isAlphanumeric, h, Bool.true_or])

theorem mem_of_lookupExpansion {table : List (Nat × List Nat)} {n : Nat} {cs : List Nat}
    (h : lookupExpansion table n = some cs) : (n, cs) ∈ table := by
  induction table with
  | nil => cases h
  | cons e table ih =>
    obtain ⟨key, ds⟩ := e
    rw [lookupExpansion] at h
    split at h
    · split at h
      · cases h
        subst_vars
        exact List.mem_cons_self
      · cases h
    · exact List.mem_cons_of_mem _ (ih h)

def CaseRun.image (r : CaseRun) : Range := (r.target, r.target + (r.last - r.first))

def CaseRun.LeadsTo (r : CaseRun) (m : Nat) : Prop :=
  ∃ n, r.covers n = true ∧ m = r.target + (n - r.first)

theorem CaseRun.LeadsTo.mem_image {r : CaseRun} {m : Nat} (h : r.LeadsTo m) :
    r.image.1 ≤ m ∧ m ≤ r.image.2 := by
  obtain ⟨n, hn, rfl⟩ := h
  simp only [covers, Bool.and_eq_true, decide_eq_true_iff] at hn
  dsimp only [image]
  omega

theorem exists_leadsTo_of_lookupRuns {runs : List CaseRun} {n m : Nat}
    (h : lookupRuns runs n = some m) : ∃ r ∈ runs, r.LeadsTo m := by
  induction runs with
  | nil => cases h
  | cons r runs ih =>
    rw [lookupRuns] at h
    split at h
    · split at h
      · rename_i hcovers
        cases h
        exact ⟨r, List.mem_cons_self, n, hcovers, rfl⟩
      · cases h
    · obtain ⟨q, hq, hm⟩ := ih h
      exact ⟨q, List.mem_cons_of_mem r hq, hm⟩

theorem upperChar_ne_nil (c : Char) : upperChar c ≠ [] := by
  have htable : ∀ e ∈ upperExpansions, e.2 ≠ [] := by decide +kernel
  rw [upperChar]
  split
  · rename_i cs h
    exact mt List.map_eq_nil_iff.1 (htable _ (mem_of_lookupExpansion h))
  · exact List.cons_ne_nil _ _

/-- A number that is no code point stands for the character zero. -/
theorem toNat_ofNat (n : Nat) : (Char.ofNat n).toNat = n ∨ (Char.ofNat n).toNat = 0 := by
  by_cases h : n.isValidChar
  · left
    rw [Char.ofNat, dif_pos h]
    rfl
  · right
    rw [Char.ofNat, dif_neg h]
    rfl

section Apart

variable {ranges : List Range}

/-- Runs that lead past some ranges send no other character into them than it itself. -/
theorem eq_of_mapByRuns {runs : List CaseRun}
    (hruns : ∀ r ∈ runs, ∀ y ∈ ranges, r.image.2 < y.1 ∨ y.2 < r.image.1)
    (hzero : inRanges ranges 0 = false) {c d : Char} (hd : inRanges ranges d.toNat = true)
    (h : mapByRuns runs c = d) : c = d := by
  rw [mapByRuns] at h
  split at h
  · rename_i n hn
    obtain ⟨r, hr, hleads⟩ := exists_leadsTo_of_lookupRuns hn
    obtain ⟨hfirst, hlast⟩ := hleads.mem_image
    subst h
    rcases toNat_ofNat n with hnat | hnat
    · obtain ⟨y, hy, hfirst', hlast'⟩ := exists_range_of_inRanges hd
      have := hruns r hr y hy
      omega
    · rw [hnat, hzero] at hd
      cases hd
  · exact h

/-- In ranges past which all uppercase forms lead, a character stands in no uppercase form but its
own. -/
theorem eq_of_mem_upperChar_of_apart
    (hexpansions : ∀ e ∈ upperExpansions, ∀ n ∈ e.2, inRanges ranges n = false)
    (hruns : ∀ r ∈ upperRuns, ∀ y ∈ ranges, r.image.2 < y.1 ∨ y.2 < r.image.1)
    (hzero : inRanges ranges 0 = false) {c d : Char} (hd : inRanges ranges d.toNat = true)
    (h : d ∈ upperChar c) : c = d := by
  rw [upperChar] at h
  split at h
  · rename_i cs hcs
    obtain ⟨n, hn, rfl⟩ := List.mem_map.1 h
    have hnot := hexpansions _ (mem_of_lookupExpansion hcs) n hn
    rcases toNat_ofNat n with hnat | hnat
    · rw [hnat, hnot] at hd
      cases hd
    · rw [hnat, hzero] at hd
      cases hd
  · exact eq_of_mapByRuns hruns hzero hd (List.mem_singleton.1 h).symm

end Apart

def belowLetters : List Range := [(1, 0x40)]

theorem inRanges_belowLetters {n : Nat} (hpos : 0 < n) (hn : n < 'A'.toNat) :
    inRanges belowLetters n = true := by
  have hlast : n ≤ 0x40 := Nat.le_of_lt_succ hn
  rw [belowLetters, inRanges, if_pos hlast, decide_eq_true_iff]
  exact hpos

/-- Below the letter `A` a character stands in no uppercase form but its own. -/
theorem eq_of_mem_upperChar {c d : Char} (hpos : 0 < d.toNat) (hd : d.toNat < 'A'.toNat)
    (h : d ∈ upperChar c) : c = d :=
  eq_of_mem_upperChar_of_apart (by decide +kernel) (by decide +kernel) rfl
    (inRanges_belowLetters hpos hd) h

/-- Below the letter `A` no character is equal up to case to another one. -/
theorem eq_of_foldChar_eq {c d : Char} (hpos : 0 < d.toNat) (hd : d.toNat < 'A'.toNat)
    (h : foldChar c = d) : c = d := by
  have hruns : ∀ r ∈ foldRuns, ∀ y ∈ belowLetters, r.image.2 < y.1 ∨ y.2 < r.image.1 := by
    decide +kernel
  exact eq_of_mapByRuns hruns rfl (inRanges_belowLetters hpos hd) h

/-- White space stands in no uppercase form but its own. -/
theorem eq_of_mem_upperChar_of_isWhiteSpace {c d : Char} (hd : isWhiteSpace d = true)
    (h : d ∈ upperChar c) : c = d :=
  eq_of_mem_upperChar_of_apart (by decide +kernel) (by decide +kernel) rfl hd h

/-- What is not white space has no white space in its uppercase form. -/
theorem not_isWhiteSpace_of_mem_upperChar {c d : Char} (hc : isWhiteSpace c = false)
    (h : d ∈ upperChar c) : isWhiteSpace d = false := by
  rw [Bool.eq_false_iff]
  intro hd
  obtain rfl := eq_of_mem_upperChar_of_isWhiteSpace hd h
  rw [hc] at hd
  cases hd

end Dialogue.Unicode
