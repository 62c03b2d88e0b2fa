import Dialogue.Text.Basic
import Mathlib.Data.List.DropRight

/-!
# Trimming and joining

A text is trimmed if no white space stands at its ends. Trimming makes a text trimmed and
changes nothing in one that is, and texts joined that are trimmed and not empty are trimmed
again. What is joined in two parts and then put together is joined as a whole.
-/

namespace Dialogue.Text

open Unicode

/-- Characters with a property that are not followed by another one are the longest beginning of
the text with this property. -/
theorem span_append {p : Char → Bool} {s t : Text} (hs : ∀ c ∈ s, p c = true)
    (ht : ∀ c ∈ t.head?, p c = false) :
    (s ++ t).takeWhile p = s ∧ (s ++ t).dropWhile p = t := by
  rw [List.takeWhile_append_of_pos hs, List.dropWhile_append_of_pos hs]
  cases t with
  | nil => exact ⟨List.append_nil s, rfl⟩
  | cons c t => simp [ht c rfl]

structure Trimmed (t : Text) : Prop where
  head : ∀ c ∈ t.head?, isWhiteSpace c = false
  last : ∀ c ∈ t.getLast?, isWhiteSpace c = false

theorem trimStart_of_head {t : Text} (h : ∀ c ∈ t.head?, isWhiteSpace c = false) :
    trimStart t = t :=
  (span_append (List.forall_mem_nil _) h).2

theorem trimStart_append {s : Text} (hs : ∀ c ∈ s, isWhiteSpace c = true) (t : Text) :
    trimStart (s ++ t) = trimStart t :=
  List.dropWhile_append_of_pos hs

theorem trim_append {s : Text} (hs : ∀ c ∈ s, isWhiteSpace c = true) (t : Text) :
    trim (s ++ t) = trim t := by
  rw [trim, trimStart_append hs, trim]

theorem trim_append_right {s : Text} (hs : ∀ c ∈ s, isWhiteSpace c = true) (t : Text) :
    trim (t ++ s) = trim t := by
  have hs' : ∀ c ∈ s.reverse, isWhiteSpace c = true := fun c hc => hs c (List.mem_reverse.1 hc)
  rw [trim, trim, trimStart, trimStart, List.dropWhile_append]
  by_cases ht : (t.dropWhile isWhiteSpace).isEmpty = true
  · rw [if_pos ht, List.isEmpty_iff.1 ht, List.dropWhile_eq_nil_iff.2 hs]
  · rw [if_neg ht, trimEnd, trimEnd, List.reverse_append, List.dropWhile_append_of_pos hs']

theorem trim_of_trimmed {t : Text} (h : Trimmed t) : trim t = t := by
  rw [trim, trimStart_of_head h.head]
  apply List.rdropWhile_eq_self_iff.2
  intro hne
  rw [h.last _ (List.getLast?_eq_some_getLast hne)]
  exact Bool.false_ne_true

theorem trimEnd_isPrefix (t : Text) : trimEnd t <+: t := List.rdropWhile_prefix isWhiteSpace t

theorem getLast?_trimEnd (t : Text) : ∀ c ∈ (trimEnd t).getLast?, isWhiteSpace c = false := by
  intro c hc
  have hne : trimEnd t ≠ [] := by
    intro hnil
    rw [hnil] at hc
    cases hc
  have hlast := List.rdropWhile_last_not isWhiteSpace t hne
  rw [Option.mem_def, List.getLast?_eq_some_getLast hne] at hc
  cases hc
  exact Bool.eq_false_iff.2 hlast

theorem trimmed_trim (t : Text) : Trimmed (trim t) := by
  refine ⟨fun c hc => ?_, getLast?_trimEnd (trimStart t)⟩
  obtain ⟨tail, htail⟩ := trimEnd_isPrefix (trimStart t)
  have hhead : (trimStart t).head? = some c := by
    rw [← htail, List.head?_append]
    exact congrArg (·.or tail.head?) hc
  have hnot := List.head?_dropWhile_not isWhiteSpace t
  rw [show t.dropWhile isWhiteSpace = trimStart t from rfl, hhead] at hnot
  exact hnot

/-- Trimming takes away white space at the two ends. -/
theorem exists_eq_append_trim (t : Text) :
    ∃ before after, t = before ++ trim t ++ after ∧ (∀ c ∈ before, isWhiteSpace c = true) ∧
      ∀ c ∈ after, isWhiteSpace c = true := by
  have hstart : t.takeWhile isWhiteSpace ++ trimStart t = t := List.takeWhile_append_dropWhile
  have hend : trim t ++ (trimStart t).rtakeWhile isWhiteSpace = trimStart t :=
    List.rdropWhile_append_rtakeWhile
  refine ⟨t.takeWhile isWhiteSpace, (trimStart t).rtakeWhile isWhiteSpace, ?_,
    fun c => List.mem_takeWhile_imp, fun c => List.mem_rtakeWhile_imp⟩
  rw [List.append_assoc, hend, hstart]

/-- Trimming takes white space away and nothing else. -/
theorem countP_trim (t : Text) :
    (trim t).countP (!isWhiteSpace ·) = t.countP (!isWhiteSpace ·) := by
  obtain ⟨before, after, ht, hbefore, hafter⟩ := exists_eq_append_trim t
  have hnone : ∀ s : Text, (∀ c ∈ s, isWhiteSpace c = true) → s.countP (!isWhiteSpace ·) = 0 :=
    fun s hs => List.countP_eq_zero.2 fun c hc => by simp [hs c hc]
  conv_rhs => rw [ht]
  rw [List.countP_append, List.countP_append, hnone before hbefore, hnone after hafter,
    Nat.zero_add, Nat.add_zero]

/-- Nothing is left of a text if it is white space only. -/
theorem trim_eq_nil_iff {t : Text} : trim t = [] ↔ ∀ c ∈ t, isWhiteSpace c = true := by
  constructor
  · intro h c hc
    have hstart : ∀ d ∈ trimStart t, isWhiteSpace d = true := List.rdropWhile_eq_nil_iff.1 h
    rw [← List.takeWhile_append_dropWhile (p := isWhiteSpace) (l := t)] at hc
    rcases List.mem_append.1 hc with hc | hc
    · exact List.mem_takeWhile_imp hc
    · exact hstart c hc
  · intro h
    have hstart : trimStart t = [] := List.dropWhile_eq_nil_iff.2 h
    rw [trim, hstart]
    rfl

theorem Trimmed.append {s t : Text} (hs : Trimmed s) (ht : Trimmed t) (hsne : s ≠ [])
    (htne : t ≠ []) (between : Text) : Trimmed (s ++ between ++ t) := by
  constructor
  · intro c hc
    rw [List.append_assoc, List.head?_append_of_ne_nil s hsne] at hc
    exact hs.head c hc
  · intro c hc
    rw [List.getLast?_append_of_ne_nil (s ++ between) htne] at hc
    exact ht.last c hc

/-! ## Joining -/

theorem join_cons {separator p : Text} {parts : List Text} (h : parts ≠ []) :
    join separator (p :: parts) = p ++ separator ++ join separator parts :=
  List.intercalate_cons_of_ne_nil h

theorem join_append (separator : Text) {xs ys : List Text} (hx : xs ≠ []) (hy : ys ≠ []) :
    join separator (xs ++ ys) = join separator xs ++ separator ++ join separator ys := by
  induction xs with
  | nil => exact absurd rfl hx
  | cons x xs ih =>
    by_cases hxs : xs = []
    · subst hxs
      rw [List.singleton_append, join_cons hy, join, join, List.intercalate_singleton]
    · rw [List.cons_append, join_cons (List.append_ne_nil_of_left_ne_nil hxs ys), ih hxs,
        join_cons hxs]
      simp only [List.append_assoc]

/-- What is done to a text character by character is done to the parts and to the separator. -/
theorem map_join {f : Text → Text} (hnil : f [] = []) (happend : ∀ s t, f (s ++ t) = f s ++ f t)
    (separator : Text) (parts : List Text) :
    f (join separator parts) = join (f separator) (parts.map f) := by
  induction parts with
  | nil => exact hnil
  | cons p parts ih =>
    by_cases hparts : parts = []
    · subst hparts
      rw [List.map_singleton, join, join, List.intercalate_singleton, List.intercalate_singleton]
    · rw [List.map_cons, join_cons hparts, join_cons (mt List.map_eq_nil_iff.1 hparts), happend,
        happend, ih]

theorem join_ne_nil {separator : Text} {parts : List Text} (hne : parts ≠ [])
    (h : ∀ p ∈ parts, p ≠ []) : join separator parts ≠ [] := by
  cases parts with
  | nil => exact absurd rfl hne
  | cons p rest =>
    have hp : p ≠ [] := h p List.mem_cons_self
    by_cases hrest : rest = []
    · subst hrest
      rwa [join, List.intercalate_singleton]
    · rw [join_cons hrest, List.append_assoc]
      exact List.append_ne_nil_of_left_ne_nil hp _

theorem trimmed_join (separator : Text) {parts : List Text}
    (h : ∀ p ∈ parts, p ≠ [] ∧ Trimmed p) : Trimmed (join separator parts) := by
  induction parts with
  | nil => exact trimmed_trim []
  | cons p rest ih =>
    obtain ⟨hp, htrimmed⟩ := h p List.mem_cons_self
    have hrest : ∀ q ∈ rest, q ≠ [] ∧ Trimmed q := by
      intro q hq
      exact h q (List.mem_cons_of_mem p hq)
    by_cases hnil : rest = []
    · subst hnil
      rwa [join, List.intercalate_singleton]
    · rw [join_cons hnil]
      have hne : join separator rest ≠ [] := join_ne_nil hnil fun q hq => (hrest q hq).1
      exact htrimmed.append (ih hrest) hp hne separator

theorem mem_join {separator : Text} {parts : List Text} {c : Char}
    (h : c ∈ join separator parts) : c ∈ separator ∨ c ∈ parts.flatten := by
  induction parts with
  | nil => exact absurd h List.not_mem_nil
  | cons p rest ih =>
    by_cases hrest : rest = []
    · subst hrest
      rw [join, List.intercalate_singleton] at h
      simpa using .inr h
    · rw [join_cons hrest] at h
      simp only [List.mem_append, List.flatten_cons] at h ih ⊢
      tauto

theorem mem_join_of_mem (separator : Text) {parts : List Text} {p : Text} {c : Char}
    (hp : p ∈ parts) (hc : c ∈ p) : c ∈ join separator parts := by
  induction parts with
  | nil => exact absurd hp List.not_mem_nil
  | cons q rest ih =>
    by_cases hrest : rest = []
    · subst hrest
      rw [join, List.intercalate_singleton]
      exact List.mem_singleton.1 hp ▸ hc
    · rw [join_cons hrest]
      rcases List.mem_cons.1 hp with rfl | hp
      · exact List.mem_append_left _ (List.mem_append_left _ hc)
      · exact List.mem_append_right _ (ih hp)

def nonempty (parts : List Text) : List Text := parts.filter fun p => !p.isEmpty

theorem mem_nonempty {p : Text} {parts : List Text} :
    p ∈ nonempty parts ↔ p ∈ parts ∧ p ≠ [] := by
  simp [nonempty]

theorem nonempty_append (xs ys : List Text) :
    nonempty (xs ++ ys) = nonempty xs ++ nonempty ys :=
  List.filter_append xs ys

theorem nonempty_of_forall {parts : List Text} (h : ∀ p ∈ parts, p ≠ []) :
    nonempty parts = parts := by
  apply List.filter_eq_self.2
  intro p hp
  simp [h p hp]

/-- Joining in two parts is joining as a whole. -/
theorem join_nonempty_append (separator : Text) (xs ys : List Text) :
    join separator (nonempty (xs ++ ys)) =
      join separator (nonempty [join separator (nonempty xs), join separator (nonempty ys)]) := by
  have hjoin : ∀ zs, nonempty zs ≠ [] → join separator (nonempty zs) ≠ [] := fun zs hz =>
    join_ne_nil hz fun p hp => (mem_nonempty.1 hp).2
  have hone : ∀ zs, nonempty zs ≠ [] →
      nonempty [join separator (nonempty zs)] = [join separator (nonempty zs)] := fun zs hz =>
    nonempty_of_forall (List.forall_mem_singleton.2 (hjoin zs hz))
  rw [nonempty_append]
  by_cases hx : nonempty xs = []
  · rw [hx, List.nil_append]
    show _ = join separator (nonempty [join separator (nonempty ys)])
    by_cases hy : nonempty ys = []
    · rw [hy]
      rfl
    · rw [hone ys hy, join, join, List.intercalate_singleton]
  · rw [← List.singleton_append, nonempty_append, hone xs hx]
    by_cases hy : nonempty ys = []
    · rw [hy, List.append_nil]
      show _ = join separator [join separator (nonempty xs)]
      rw [join, join, List.intercalate_singleton]
    · rw [hone ys hy, join_append separator hx hy]
      simp [join]

end Dialogue.Text
