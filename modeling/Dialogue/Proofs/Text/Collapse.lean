import Dialogue.Text.WhiteSpace
import Mathlib.Data.List.TakeWhile

/-!
# Collapsed white space

What it means that every run of white space has become one space, said without the scan
(`Collapses`). Collapsing does exactly this (`collapses_iff`), and nothing changes when it is
done again (`collapse_collapse`). Collapsed text is single-spaced (`singleSpaced_collapseFrom`), and
what has no white space in it stands in the collapsed text only where it stands in the text
(`exists_of_collapseFrom_eq_append`).
-/

namespace Dialogue.Text

open Unicode

/-- The second text is the first one with one space for each run of white space. -/
inductive Collapses : Text → Text → Prop
  | nil : Collapses [] []
  | char {c : Char} {t u : Text} : isWhiteSpace c = false → Collapses t u →
      Collapses (c :: t) (c :: u)
  | run {w t u : Text} : w ≠ [] → (∀ c ∈ w, isWhiteSpace c = true) →
      (∀ c ∈ t.head?, isWhiteSpace c = false) → Collapses t u → Collapses (w ++ t) (' ' :: u)

theorem isWhiteSpace_space : isWhiteSpace ' ' = true := by decide

theorem collapseFrom_cons_of_not {c : Char} (hc : isWhiteSpace c = false) (inRun : Bool)
    (t : Text) : collapseFrom inRun (c :: t) = c :: collapse t := by
  simp [collapse, collapseFrom, hc]

theorem collapse_cons_of_not {c : Char} (hc : isWhiteSpace c = false) (t : Text) :
    collapse (c :: t) = c :: collapse t :=
  collapseFrom_cons_of_not hc false t

theorem collapseFrom_true_cons {c : Char} (hc : isWhiteSpace c = true) (t : Text) :
    collapseFrom true (c :: t) = collapseFrom true t := by
  simp [collapseFrom, hc]

theorem collapseFrom_false_cons {c : Char} (hc : isWhiteSpace c = true) (t : Text) :
    collapseFrom false (c :: t) = ' ' :: collapseFrom true t := by
  simp [collapseFrom, hc]

/-- Inside a run of white space the rest of the run is passed over. -/
theorem collapseFrom_true (t : Text) :
    collapseFrom true t = collapse (t.dropWhile isWhiteSpace) := by
  induction t with
  | nil => rfl
  | cons c rest ih =>
    by_cases hc : isWhiteSpace c = true
    · simp [collapseFrom, hc, ih]
    · simp [collapse, collapseFrom, hc]

/-- A run of white space gives one space. -/
theorem collapse_run {w t : Text} (hne : w ≠ []) (hw : ∀ c ∈ w, isWhiteSpace c = true)
    (ht : ∀ c ∈ t.head?, isWhiteSpace c = false) : collapse (w ++ t) = ' ' :: collapse t := by
  cases w with
  | nil => exact absurd rfl hne
  | cons c w =>
    obtain ⟨hc, hw⟩ := List.forall_mem_cons.1 hw
    have hstop : t.dropWhile isWhiteSpace = t := by
      cases t with
      | nil => rfl
      | cons d t => rw [List.dropWhile_cons_of_neg (by simp [ht d rfl])]
    have hstart : collapse (c :: w ++ t) = ' ' :: collapseFrom true (w ++ t) := by
      simp [collapse, collapseFrom, hc]
    rw [hstart, collapseFrom_true, List.dropWhile_append_of_pos hw, hstop]

/-- **Collapsing makes one space of each run of white space**, and nothing else. -/
theorem collapses_iff {t u : Text} : Collapses t u ↔ u = collapse t := by
  constructor
  · intro h
    induction h with
    | nil => rfl
    | char hc _ ih => rw [collapse_cons_of_not hc, ← ih]
    | run hne hw ht _ ih => rw [collapse_run hne hw ht, ← ih]
  · rintro rfl
    match t with
    | [] => exact .nil
    | c :: rest =>
      by_cases hc : isWhiteSpace c = true
      · have hrun : ∀ d ∈ c :: rest.takeWhile isWhiteSpace, isWhiteSpace d = true :=
          List.forall_mem_cons.2 ⟨hc, fun d hd => List.mem_takeWhile_imp hd⟩
        have hstop : ∀ d ∈ (rest.dropWhile isWhiteSpace).head?, isWhiteSpace d = false := by
          intro d hd
          have hnot := List.head?_dropWhile_not isWhiteSpace rest
          rwa [hd] at hnot
        have hsplit : c :: rest.takeWhile isWhiteSpace ++ rest.dropWhile isWhiteSpace =
            c :: rest := by
          rw [List.cons_append, List.takeWhile_append_dropWhile]
        rw [← hsplit, collapse_run (List.cons_ne_nil _ _) hrun hstop]
        exact .run (List.cons_ne_nil _ _) hrun hstop (collapses_iff.2 rfl)
      · rw [Bool.not_eq_true] at hc
        rw [collapse_cons_of_not hc]
        exact .char hc (collapses_iff.2 rfl)
termination_by t.length
decreasing_by
  · have := (List.dropWhile_suffix (l := rest) isWhiteSpace).length_le
    simp only [List.length_cons]
    omega
  · exact Nat.lt_succ_self _

theorem collapseFrom_collapseFrom (inRun : Bool) (t : Text) :
    collapseFrom inRun (collapseFrom inRun t) = collapseFrom inRun t := by
  induction t generalizing inRun with
  | nil => rfl
  | cons c rest ih =>
    by_cases hc : isWhiteSpace c = true
    · cases inRun <;> simp [collapseFrom, hc, isWhiteSpace_space, ih]
    · simp [collapseFrom, hc, ih]

/-- Collapsed text stays as it is. -/
theorem collapse_collapse (t : Text) : collapse (collapse t) = collapse t :=
  collapseFrom_collapseFrom false t

theorem collapse_ne_nil {t : Text} (h : t ≠ []) : collapse t ≠ [] := by
  cases t with
  | nil => exact absurd rfl h
  | cons c rest =>
    rw [collapse, collapseFrom]
    split <;> exact List.cons_ne_nil _ _

/-- Collapsing brings in no character but the space. -/
theorem mem_of_mem_collapse {c : Char} (hne : c ≠ ' ') {t : Text} (h : c ∈ collapse t) :
    c ∈ t := by
  have hcollapses : Collapses t (collapse t) := collapses_iff.2 rfl
  generalize collapse t = u at h hcollapses
  induction hcollapses with
  | nil => exact h
  | char _ _ ih =>
    rcases List.mem_cons.1 h with rfl | h
    · exact List.mem_cons_self
    · exact List.mem_cons_of_mem _ (ih h)
  | @run w _ _ _ _ _ _ ih =>
    rcases List.mem_cons.1 h with hspace | h
    · exact absurd hspace hne
    · exact List.mem_append_right w (ih h)

/-! ## Single spaces -/

/-- The only white space is single spaces. -/
structure SingleSpaced (t : Text) : Prop where
  eq_space : ∀ c ∈ t, isWhiteSpace c = true → c = ' '
  apart : ¬ [' ', ' '] <:+: t

theorem SingleSpaced.of_isInfix {s t : Text} (ht : SingleSpaced t) (h : s <:+: t) :
    SingleSpaced s where
  eq_space c hc := ht.eq_space c (h.subset hc)
  apart hs := ht.apart (hs.trans h)

/-- Behind white space the collapsed rest begins with none. -/
theorem head?_collapseFrom_true (t : Text) :
    ∀ c ∈ (collapseFrom true t).head?, isWhiteSpace c = false := by
  induction t with
  | nil => simp [collapseFrom]
  | cons c rest ih =>
    cases hc : isWhiteSpace c with
    | true => rwa [collapseFrom_true_cons hc]
    | false => simp [collapseFrom_cons_of_not hc, hc]

theorem SingleSpaced.cons {c : Char} {t : Text} (ht : SingleSpaced t)
    (hc : isWhiteSpace c = true → c = ' ' ∧ ∀ d ∈ t.head?, d ≠ ' ') : SingleSpaced (c :: t) where
  eq_space := List.forall_mem_cons.2 ⟨fun hspace => (hc hspace).1, ht.eq_space⟩
  apart := by
    rw [List.infix_cons_iff, not_or]
    refine ⟨fun hbegins => ?_, ht.apart⟩
    obtain ⟨rfl, tail, rfl⟩ := List.cons_prefix_cons.1 hbegins
    exact (hc isWhiteSpace_space).2 ' ' rfl rfl

/-- **Collapsed text is single-spaced.** -/
theorem singleSpaced_collapseFrom (inRun : Bool) (t : Text) :
    SingleSpaced (collapseFrom inRun t) := by
  induction t generalizing inRun with
  | nil => exact ⟨nofun, by simp [collapseFrom]⟩
  | cons c rest ih =>
    cases hc : isWhiteSpace c with
    | false =>
      rw [collapseFrom_cons_of_not hc]
      exact (ih false).cons (by simp [hc])
    | true =>
      cases inRun with
      | true => rw [collapseFrom_true_cons hc]; exact ih true
      | false =>
        rw [collapseFrom_false_cons hc]
        refine (ih true).cons fun _ => ⟨rfl, ?_⟩
        rintro d hd rfl
        have hnot := head?_collapseFrom_true rest ' ' hd
        rw [isWhiteSpace_space] at hnot
        cases hnot

/-- A beginning of a collapsed text is collapsed. -/
theorem collapseFrom_of_prefix {inRun : Bool} {t s : Text} (h : collapseFrom inRun t = t)
    (hs : s <+: t) : collapseFrom inRun s = s := by
  induction t generalizing inRun s with
  | nil => rw [List.prefix_nil.1 hs]; rfl
  | cons c rest ih =>
    cases s with
    | nil => rfl
    | cons d s =>
      obtain ⟨rfl, htail⟩ := List.cons_prefix_cons.1 hs
      cases hd : isWhiteSpace d with
      | false =>
        rw [collapseFrom_cons_of_not hd] at h ⊢
        rw [collapse, ih (List.cons.inj h).2 htail]
      | true =>
        cases inRun with
        | true =>
          have hnot := head?_collapseFrom_true (d :: rest) d (by rw [h]; rfl)
          rw [hd] at hnot
          cases hnot
        | false =>
          rw [collapseFrom_false_cons hd] at h ⊢
          obtain ⟨rfl, hrest⟩ := List.cons.inj h
          rw [ih hrest htail]

/-! ## Where marks stand -/

/-- A mark without white space at the beginning of the collapsed text is one of the text. -/
theorem exists_of_collapse_eq_append {m t y : Text} (hm : ∀ c ∈ m, isWhiteSpace c = false)
    (h : collapse t = m ++ y) : ∃ y', t = m ++ y' ∧ collapse y' = y := by
  induction m generalizing t with
  | nil => exact ⟨t, rfl, h⟩
  | cons c m ih =>
    obtain ⟨hc, htail⟩ := List.forall_mem_cons.1 hm
    cases t with
    | nil => cases h
    | cons d t =>
      cases hd : isWhiteSpace d with
      | true =>
        rw [collapse, collapseFrom_false_cons hd] at h
        rw [← (List.cons.inj h).1, isWhiteSpace_space] at hc
        cases hc
      | false =>
        rw [collapse_cons_of_not hd] at h
        obtain ⟨rfl, hrest⟩ := List.cons.inj h
        obtain ⟨y', rfl, hy⟩ := ih htail hrest
        exact ⟨y', rfl, hy⟩

/-- **A mark without white space that stands in the collapsed text stands in the text**, and what
follows it there is what follows it here. -/
theorem exists_of_collapseFrom_eq_append {inRun : Bool} {m t x y : Text} (hne : m ≠ [])
    (hm : ∀ c ∈ m, isWhiteSpace c = false) (h : collapseFrom inRun t = x ++ m ++ y) :
    ∃ x' y', t = x' ++ m ++ y' ∧ collapse y' = y := by
  obtain ⟨d, ds, rfl⟩ := List.exists_cons_of_ne_nil hne
  induction t generalizing inRun x with
  | nil =>
    rw [collapseFrom] at h
    simp at h
  | cons c rest ih =>
    have hstep : ∀ {inRun x}, collapseFrom inRun rest = x ++ (d :: ds) ++ y →
        ∃ x' y', c :: rest = x' ++ (d :: ds) ++ y' ∧ collapse y' = y := by
      intro inRun x hrest
      obtain ⟨x', y', rfl, hy⟩ := ih hrest
      exact ⟨c :: x', y', rfl, hy⟩
    cases hc : isWhiteSpace c with
    | false =>
      cases x with
      | nil =>
        rw [collapseFrom_cons_of_not hc, ← collapse_cons_of_not hc] at h
        obtain ⟨y', ht, hy⟩ := exists_of_collapse_eq_append hm h
        exact ⟨[], y', ht, hy⟩
      | cons e x =>
        rw [collapseFrom_cons_of_not hc] at h
        exact hstep (List.cons.inj h).2
    | true =>
      cases inRun with
      | true =>
        rw [collapseFrom_true_cons hc] at h
        exact hstep h
      | false =>
        rw [collapseFrom_false_cons hc] at h
        cases x with
        | nil =>
          have hspace := hm d List.mem_cons_self
          rw [← (List.cons.inj h).1, isWhiteSpace_space] at hspace
          cases hspace
        | cons e x => exact hstep (List.cons.inj h).2

end Dialogue.Text
