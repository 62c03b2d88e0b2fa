import Dialogue.Proofs.Unicode

/-!
# Uppercase forms

An uppercase form is its own uppercase form (`upperChar_of_mem_upperChar`), and that of a letter or
number has a letter or number in it (`exists_isAlphanumeric_mem_upperChar`), though it may have
combining marks too. Both are read off the tables run by run, not character by character: a run
leads past another one if their code points are apart, or if they alternate.
-/

namespace Dialogue.Unicode

/-! ## Runs that lead past others -/

/-- The run leads to every second code point, or to a single one. -/
def CaseRun.skips (r : CaseRun) : Bool := r.step == 2 || r.first == r.last

/-- The run leads to no code point of the other one. -/
def CaseRun.misses (r q : CaseRun) : Bool :=
  r.image.2.blt q.first || q.last.blt r.image.1 ||
    (r.skips && q.step == 2 && (r.target + q.first) % 2 == 1)

theorem CaseRun.not_covers_of_misses {r q : CaseRun} (h : r.misses q = true) {m : Nat}
    (hm : r.LeadsTo m) : q.covers m = false := by
  obtain ⟨n, hn, rfl⟩ := hm
  rw [Bool.eq_false_iff]
  intro hcovers
  simp only [misses, skips, image, covers, Bool.or_eq_true, Bool.and_eq_true, Nat.blt_eq,
    beq_iff_eq, decide_eq_true_iff] at h hn hcovers
  obtain ⟨⟨hfirst, hlast⟩, hstep⟩ := hn
  obtain ⟨⟨hfirst', hlast'⟩, hstep'⟩ := hcovers
  rcases h with (hbefore | hbehind) | ⟨⟨hskips, htwo⟩, hparity⟩
  · omega
  · omega
  · rw [htwo] at hstep'
    rcases hskips with htwo' | hpoint
    · rw [htwo'] at hstep
      omega
    · omega

theorem lookupRuns_eq_none {runs : List CaseRun} {m : Nat}
    (h : ∀ q ∈ runs, q.covers m = false) : lookupRuns runs m = none := by
  induction runs with
  | nil => rfl
  | cons q runs ih =>
    obtain ⟨hq, hruns⟩ := List.forall_mem_cons.1 h
    rw [lookupRuns, hq, ih hruns]
    simp

def CaseRun.point (n : Nat) : CaseRun := ⟨n, n, 1, n⟩

theorem CaseRun.leadsTo_point (n : Nat) : (point n).LeadsTo n :=
  ⟨n, by simp [point, covers], by simp [point]⟩

/-! ## An uppercase form is its own -/

theorem upperChar_eq_singleton {c : Char} (hruns : ∀ q ∈ upperRuns, q.covers c.toNat = false)
    (hexpansions : ∀ e ∈ upperExpansions, c.toNat ≠ e.1) : upperChar c = [c] := by
  have hexpansion : lookupExpansion upperExpansions c.toNat = none := by
    cases hfound : lookupExpansion upperExpansions c.toNat with
    | none => rfl
    | some cs => exact absurd rfl (hexpansions _ (mem_of_lookupExpansion hfound))
  rw [upperChar, hexpansion, mapByRuns, lookupRuns_eq_none hruns]

/-- What a run leads to is its own uppercase form if the run leads past everything that has
another one. -/
theorem upperChar_ofNat {r : CaseRun} (hruns : ∀ q ∈ upperRuns, r.misses q = true)
    (hexpansions : ∀ e ∈ upperExpansions, r.misses (.point e.1) = true) {m : Nat}
    (hm : r.LeadsTo m) : upperChar (Char.ofNat m) = [Char.ofNat m] := by
  rcases toNat_ofNat m with hnat | hnat
  · refine upperChar_eq_singleton (fun q hq => ?_) (fun e he heq => ?_)
    · rw [hnat]
      exact CaseRun.not_covers_of_misses (hruns q hq) hm
    · have hcovers := CaseRun.not_covers_of_misses (hexpansions e he) hm
      rw [← hnat, heq] at hcovers
      simp [CaseRun.point, CaseRun.covers] at hcovers
  · -- a number that is no code point stands for the character zero
    have hzero : Char.ofNat m = Char.ofNat 0 := Char.toNat_inj.1 hnat
    rw [hzero]
    decide +kernel

/-- **An uppercase form is its own uppercase form.** -/
theorem upperChar_of_mem_upperChar {c d : Char} (h : d ∈ upperChar c) : upperChar d = [d] := by
  have hruns : (upperRuns.all fun r => upperRuns.all r.misses) = true := by decide +kernel
  have hkeys : (upperRuns.all fun r =>
      upperExpansions.all fun e => r.misses (.point e.1)) = true := by
    decide +kernel
  have hexpanded : (upperExpansions.all fun e => e.2.all fun n =>
      upperRuns.all (CaseRun.point n).misses &&
        upperExpansions.all fun f => (CaseRun.point n).misses (.point f.1)) = true := by
    decide +kernel
  simp only [List.all_eq_true, Bool.and_eq_true] at hruns hkeys hexpanded
  rw [upperChar] at h
  split at h
  · rename_i cs hcs
    obtain ⟨n, hn, rfl⟩ := List.mem_map.1 h
    obtain ⟨hpoint, hpointKeys⟩ := hexpanded _ (mem_of_lookupExpansion hcs) n hn
    exact upperChar_ofNat hpoint hpointKeys (CaseRun.leadsTo_point n)
  · rename_i hexpansion
    rw [List.mem_singleton, mapByRuns] at h
    split at h
    · rename_i m hm
      obtain ⟨r, hr, hleads⟩ := exists_leadsTo_of_lookupRuns hm
      rw [h]
      exact upperChar_ofNat (hruns r hr) (hkeys r hr) hleads
    · rename_i hrun
      rw [h, upperChar, hexpansion, mapByRuns, hrun]

/-! ## Letters and numbers -/

def liesIn : List Range → Range → Bool
  | [], _ => false
  | (first, last) :: rest, r =>
    if r.1 ≤ last then first ≤ r.1 && r.2 ≤ last else liesIn rest r

theorem inRanges_of_liesIn {ranges : List Range} {r : Range} (h : liesIn ranges r = true) {n : Nat}
    (hfirst : r.1 ≤ n) (hlast : n ≤ r.2) : inRanges ranges n = true := by
  induction ranges with
  | nil => cases h
  | cons q ranges ih =>
    rw [liesIn] at h
    rw [inRanges]
    split at h
    · rw [Bool.and_eq_true, decide_eq_true_iff, decide_eq_true_iff] at h
      rw [if_pos (Nat.le_trans hlast h.2), decide_eq_true_iff]
      exact Nat.le_trans h.1 hfirst
    · rename_i hpast
      rw [if_neg fun hn => hpast (Nat.le_trans hfirst hn)]
      exact ih h

def CaseRun.points (r : CaseRun) : List Range :=
  ((List.range (r.last - r.first + 1)).filter fun k => k % r.step == 0).map fun k =>
    (r.target + k, r.target + k)

theorem CaseRun.LeadsTo.mem_points {r : CaseRun} {m : Nat} (h : r.LeadsTo m) :
    (m, m) ∈ r.points := by
  obtain ⟨n, hn, rfl⟩ := h
  simp only [covers, Bool.and_eq_true, decide_eq_true_iff] at hn
  refine List.mem_map.2 ⟨n - r.first, List.mem_filter.2 ⟨List.mem_range.2 ?_, hn.2⟩, rfl⟩
  omega

theorem isAlphanumeric_ofNat {n : Nat} (h : inRanges alphabeticRanges n = true) :
    isAlphanumeric (Char.ofNat n) = true := by
  have hranges : ∀ r ∈ alphabeticRanges, r.2 < 0xD800 ∨ 0xDFFF < r.1 ∧ r.2 < 0x110000 := by
    decide +kernel
  obtain ⟨r, hr, hfirst, hlast⟩ := exists_range_of_inRanges h
  have hvalid : n.isValidChar := by
    have := hranges r hr
    unfold Nat.isValidChar
    omega
  have hnat : (Char.ofNat n).toNat = n := by
    rw [Char.ofNat, dif_pos hvalid]
    rfl
  rw [isAlphanumeric, isAlphabetic, hnat, h, Bool.true_or]

/-- **The uppercase form of a letter or number has a letter or number in it.** -/
theorem exists_isAlphanumeric_mem_upperChar {c : Char} (hc : isAlphanumeric c = true) :
    ∃ d ∈ upperChar c, isAlphanumeric d = true := by
  have hruns : (upperRuns.all fun r =>
      liesIn alphabeticRanges r.image || r.points.all (liesIn alphabeticRanges)) = true := by
    decide +kernel
  have hexpansions : (upperExpansions.all fun e => e.2.any (inRanges alphabeticRanges)) = true := by
    decide +kernel
  rw [List.all_eq_true] at hruns hexpansions
  rw [upperChar]
  split
  · rename_i cs hcs
    obtain ⟨n, hn, halphabetic⟩ :=
      List.any_eq_true.1 (hexpansions _ (mem_of_lookupExpansion hcs))
    exact ⟨_, List.mem_map_of_mem hn, isAlphanumeric_ofNat halphabetic⟩
  · refine ⟨_, List.mem_singleton_self _, ?_⟩
    rw [mapByRuns]
    split
    · rename_i m hm
      obtain ⟨r, hr, hleads⟩ := exists_leadsTo_of_lookupRuns hm
      apply isAlphanumeric_ofNat
      rcases Bool.or_eq_true_iff.1 (hruns r hr) with himage | hpoints
      · exact inRanges_of_liesIn himage hleads.mem_image.1 hleads.mem_image.2
      · exact inRanges_of_liesIn (List.all_eq_true.1 hpoints _ hleads.mem_points) (Nat.le_refl m)
          (Nat.le_refl m)
    · exact hc

end Dialogue.Unicode
