import Dialogue.Text.Basic
import Mathlib.Data.List.Infix

/-!
# Delimiters

Where a text is cut at the first occurrence of a delimiter, no other occurrence begins before it
(`before_prefix_of_breakOn`), so the delimiter does not occur in what stands before it
(`not_infix_of_breakOn`). A delimiter whose first or last character stands nowhere else in it does
not overlap itself, so putting it behind a text without it makes that its first occurrence
(`breakOn_append`).
-/

namespace Dialogue.Text

variable {c : Char} {delimiter t before after : Text}

theorem prefix_append_cons_iff {s : Text} (hs : c ∉ s) (x rest : Text) :
    s <+: x ++ c :: rest ↔ s <+: x := by
  constructor
  · intro h
    rcases List.prefix_or_prefix_of_prefix h (List.prefix_append x _) with hx | ⟨t, rfl⟩
    · exact hx
    · cases t with
      | nil => simp
      | cons d t =>
        obtain ⟨rfl, -⟩ := List.cons_prefix_cons.1 ((List.prefix_append_right_inj x).1 h)
        exact absurd (List.mem_append_right x List.mem_cons_self) hs
  · intro h
    exact h.trans (List.prefix_append x _)

theorem breakOn_cons_of_not_begins (h : ¬ delimiter <+: c :: t) :
    breakOn delimiter (c :: t) =
      (breakOn delimiter t).map fun (before, after) => (c :: before, after) := by
  rw [breakOn, if_neg (mt List.isPrefixOf_iff_prefix.1 h)]

/-- No occurrence of the delimiter stands in front of the first one. -/
theorem before_prefix_of_breakOn (h : breakOn delimiter t = some (before, after)) {x y : Text}
    (ht : t = x ++ delimiter ++ y) : before <+: x := by
  induction t generalizing before x with
  | nil =>
    have hnil := eq_append_of_breakOn h
    rw [List.append_assoc, List.nil_eq_append_iff] at hnil
    rw [hnil.1]
    exact List.nil_prefix
  | cons c rest ih =>
    by_cases hp : delimiter <+: c :: rest
    · rw [breakOn, if_pos (List.isPrefixOf_iff_prefix.2 hp)] at h
      cases h
      exact List.nil_prefix
    · rw [breakOn_cons_of_not_begins hp] at h
      obtain ⟨⟨b, a⟩, hb, he⟩ := Option.map_eq_some_iff.1 h
      cases he
      cases x with
      | nil => exact absurd ⟨y, ht.symm⟩ hp
      | cons d x =>
        obtain ⟨rfl, hrest⟩ := List.cons.inj ht
        exact List.cons_prefix_cons.2 ⟨rfl, ih hb hrest⟩

/-- What stands behind an occurrence of the delimiter stands behind the first one. -/
theorem suffix_after_of_breakOn (h : breakOn delimiter t = some (before, after)) {x y : Text}
    (ht : t = x ++ delimiter ++ y) : y <:+ after := by
  have hafter : after <:+ t := eq_append_of_breakOn h ▸ List.suffix_append _ after
  have hy : y <:+ t := ht ▸ List.suffix_append _ y
  refine List.suffix_of_suffix_length_le hy hafter ?_
  have hbefore := (before_prefix_of_breakOn h ht).length_le
  have hlength := congrArg List.length (ht.symm.trans (eq_append_of_breakOn h))
  simp only [List.length_append] at hlength
  omega

/-- The delimiter does not occur in what stands before its first occurrence. -/
theorem not_infix_of_breakOn (hne : delimiter ≠ [])
    (h : breakOn delimiter t = some (before, after)) : ¬ delimiter <:+: before := by
  rintro ⟨x, y, hxy⟩
  have ht : t = x ++ delimiter ++ (y ++ delimiter ++ after) := by
    rw [eq_append_of_breakOn h, ← hxy]
    simp only [List.append_assoc]
  have hprefix := (before_prefix_of_breakOn h ht).length_le
  have hpos := List.length_pos_iff.2 hne
  rw [← hxy] at hprefix
  simp only [List.length_append] at hprefix
  omega

theorem breakOn_eq_none_iff (hne : delimiter ≠ []) :
    breakOn delimiter t = none ↔ ¬ delimiter <:+: t := by
  induction t with
  | nil => simp [breakOn, hne]
  | cons c rest ih =>
    rw [List.infix_cons_iff, not_or, ← ih]
    by_cases hp : delimiter <+: c :: rest
    · simp [breakOn, hp, List.isPrefixOf_iff_prefix]
    · simp [breakOn_cons_of_not_begins hp, hp]

/-- A delimiter that occurs has a first occurrence. -/
theorem exists_breakOn (hne : delimiter ≠ []) (h : delimiter <:+: t) :
    ∃ before after, breakOn delimiter t = some (before, after) := by
  have hsome : breakOn delimiter t ≠ none := mt (breakOn_eq_none_iff hne).1 (not_not_intro h)
  obtain ⟨⟨before, after⟩, hbreak⟩ := Option.ne_none_iff_exists'.1 hsome
  exact ⟨before, after, hbreak⟩

/-! ## Delimiters that do not overlap themselves -/

/-- No proper end of the delimiter is a beginning of it. -/
def Unbordered (delimiter : Text) : Prop :=
  ∀ p q, delimiter = p ++ q → p ≠ [] → q ≠ [] → ¬ q <+: delimiter

theorem unbordered_concat {p : Text} {z : Char} (hz : z ∉ p) : Unbordered (p ++ [z]) := by
  intro x y hxy hx hy hbegins
  have hlength : y.length ≤ p.length := by
    have hsum := congrArg List.length hxy
    have hpos : 0 < x.length := List.length_pos_iff.2 hx
    simp only [List.length_append, List.length_singleton] at hsum
    omega
  have hp : y <+: p := List.prefix_of_prefix_length_le hbegins (List.prefix_append p _) hlength
  have hlast : y.getLast hy = z := by
    have hends := congrArg List.getLast? hxy
    rw [List.getLast?_concat, List.getLast?_append_of_ne_nil x hy,
      List.getLast?_eq_some_getLast hy] at hends
    exact (Option.some.inj hends).symm
  exact hz (hp.subset (hlast ▸ List.getLast_mem hy))

theorem unbordered_cons (hc : c ∉ t) : Unbordered (c :: t) := by
  intro x y hxy hx hy hbegins
  cases x with
  | nil => exact absurd rfl hx
  | cons d x =>
    obtain ⟨rfl, rfl⟩ := List.cons.inj hxy
    cases y with
    | nil => exact absurd rfl hy
    | cons e y =>
      obtain ⟨rfl, -⟩ := List.cons_prefix_cons.1 hbegins
      exact hc (List.mem_append_right x List.mem_cons_self)

/-- A delimiter behind a text without it does not begin inside the text. -/
theorem Unbordered.not_begins_append (hd : Unbordered delimiter) (hbefore : ¬ delimiter <+: before)
    (hne : before ≠ []) (after : Text) : ¬ delimiter <+: before ++ (delimiter ++ after) := by
  intro h
  rcases List.prefix_or_prefix_of_prefix h (List.prefix_append before _) with hx | ⟨q, hq⟩
  · exact hbefore hx
  · -- the delimiter begins in the text and ends with `q` inside the delimiter that follows
    have hinside : q <+: delimiter ++ after := by
      apply (List.prefix_append_right_inj before).1
      rw [hq]
      exact h
    have hlength : q.length ≤ delimiter.length := by
      rw [← hq, List.length_append]
      exact Nat.le_add_left _ _
    have hqne : q ≠ [] := by
      rintro rfl
      rw [List.append_nil] at hq
      exact hbefore (hq ▸ List.prefix_refl _)
    exact hd before q hq.symm hne hqne
      (List.prefix_of_prefix_length_le hinside (List.prefix_append delimiter _) hlength)

/-- **A text without the delimiter is what stands before its first occurrence**, whatever
follows. -/
theorem breakOn_append (hd : Unbordered delimiter) (hne : delimiter ≠ [])
    (hbefore : ¬ delimiter <:+: before) (after : Text) :
    breakOn delimiter (before ++ delimiter ++ after) = some (before, after) := by
  induction before with
  | nil =>
    have hbegins : delimiter <+: delimiter ++ after := List.prefix_append _ _
    cases ht : delimiter ++ after with
    | nil => exact absurd (List.append_eq_nil_iff.1 ht).1 hne
    | cons c rest =>
      rw [List.nil_append, ht, breakOn, ← ht, if_pos (List.isPrefixOf_iff_prefix.2 hbegins),
        List.drop_left]
  | cons c rest ih =>
    rw [List.infix_cons_iff, not_or] at hbefore
    obtain ⟨hbegins, hinfix⟩ := hbefore
    have hnot := hd.not_begins_append hbegins (List.cons_ne_nil c rest) after
    rw [List.append_assoc]
    rw [List.cons_append] at hnot ⊢
    rw [breakOn_cons_of_not_begins hnot, ← List.append_assoc, ih hinfix]
    rfl

end Dialogue.Text
