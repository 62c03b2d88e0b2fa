import Dialogue.Proofs.Text.Trim

/-!
# Pieces and words

A text that is cut at certain characters has the characters between them in its pieces, and
those in front of such a character are cut as if nothing stood behind it. The words of a text
are the pieces between white space that are not empty.
-/

namespace Dialogue.Text

open Unicode

/-! ## Pieces -/

theorem consHead_ne_nil {α : Type} (x : α) (ps : List (List α)) : consHead x ps ≠ [] := by
  cases ps <;> exact List.cons_ne_nil _ _

theorem consHead_append {α : Type} (x : α) {ps : List (List α)} (hps : ps ≠ [])
    (qs : List (List α)) : consHead x (ps ++ qs) = consHead x ps ++ qs := by
  cases ps with
  | nil => exact absurd rfl hps
  | cons p ps => rfl

theorem flatten_consHead {α : Type} (x : α) (ps : List (List α)) :
    (consHead x ps).flatten = x :: ps.flatten := by
  cases ps <;> rfl

theorem flatten_splitWhen (p : Char → Bool) (t : Text) :
    (splitWhen p t).flatten = t.filter fun c => !p c := by
  induction t with
  | nil => rfl
  | cons c t ih =>
    rw [splitWhen]
    cases hc : p c <;> simp [hc, flatten_consHead, ih]

theorem splitWhen_eq_splitOnP (p : Char → Bool) (t : Text) : splitWhen p t = t.splitOnP p := by
  induction t with
  | nil => rfl
  | cons c t ih =>
    obtain ⟨piece, pieces, hpieces⟩ := List.exists_cons_of_ne_nil (List.splitOnP_ne_nil p t)
    rw [splitWhen, List.splitOnP_cons_eq_if_modifyHead, ih, hpieces]
    rfl

theorem splitWhen_append_cons {p : Char → Bool} {c : Char} (hc : p c = true) (s t : Text) :
    splitWhen p (s ++ c :: t) = splitWhen p s ++ splitWhen p t := by
  rw [splitWhen_eq_splitOnP, splitWhen_eq_splitOnP, splitWhen_eq_splitOnP,
    List.splitOnP_append_cons s t hc]

/-- A text without such a character is a single piece. -/
theorem splitWhen_eq_singleton {p : Char → Bool} {t : Text} (h : ∀ c ∈ t, p c = false) :
    splitWhen p t = [t] := by
  rw [splitWhen_eq_splitOnP]
  exact List.splitOnP_eq_singleton h

theorem splitWhen_congr {p q : Char → Bool} {t : Text} (h : ∀ c ∈ t, p c = q c) :
    splitWhen p t = splitWhen q t := by
  induction t with
  | nil => rfl
  | cons c t ih =>
    obtain ⟨hc, ht⟩ := List.forall_mem_cons.1 h
    rw [splitWhen, splitWhen, hc, ih ht]

/-- The pieces between spaces, one space apart, are the text. -/
theorem join_splitWhen_space (t : Text) : join [' '] (splitWhen (· == ' ') t) = t := by
  rw [splitWhen_eq_splitOnP]
  exact List.intercalate_splitOn ' '

/-- Texts without a space are the pieces of what they are joined to with spaces. -/
theorem splitWhen_join_space {ts : List Text} (hne : ts ≠ []) (hts : ∀ t ∈ ts, ' ' ∉ t) :
    splitWhen (· == ' ') (join [' '] ts) = ts := by
  rw [splitWhen_eq_splitOnP]
  exact List.splitOn_intercalate ' ' hts hne

theorem space_not_mem_splitWhen {t w : Text} (h : w ∈ splitWhen (· == ' ') t) : ' ' ∉ w := by
  intro hspace
  have hflatten : ' ' ∈ (splitWhen (· == ' ') t).flatten := List.mem_flatten.2 ⟨w, h, hspace⟩
  rw [flatten_splitWhen, List.mem_filter] at hflatten
  exact absurd hflatten.2 (by decide)

/-! ## Words -/

theorem flatten_words (t : Text) : (words t).flatten = t.filter fun c => !isWhiteSpace c := by
  rw [← flatten_splitWhen]
  exact List.flatten_filter_not_isEmpty

/-- A word is not empty and has no white space in it. -/
theorem mem_words {w t : Text} (h : w ∈ words t) :
    w ≠ [] ∧ ∀ c ∈ w, c ∈ t ∧ isWhiteSpace c = false := by
  refine ⟨(mem_nonempty.1 h).2, fun c hc => ?_⟩
  have hflatten : c ∈ (words t).flatten := List.mem_flatten.2 ⟨w, h, hc⟩
  rw [flatten_words, List.mem_filter, Bool.not_eq_true'] at hflatten
  exact hflatten

theorem mem_join_words_iff {t : Text} {c : Char} (hc : c ≠ ' ') :
    c ∈ join [' '] (words t) ↔ c ∈ t ∧ isWhiteSpace c = false := by
  have hflatten : c ∈ (words t).flatten ↔ c ∈ t ∧ isWhiteSpace c = false := by
    rw [flatten_words, List.mem_filter, Bool.not_eq_true']
  rw [← hflatten]
  constructor
  · intro h
    exact (mem_join h).resolve_left (mt List.mem_singleton.1 hc)
  · intro h
    obtain ⟨w, hw, hcw⟩ := List.mem_flatten.1 h
    exact mem_join_of_mem _ hw hcw

/-- White space separates the words before it from those behind it. -/
theorem words_append_cons {c : Char} (hc : isWhiteSpace c = true) (s t : Text) :
    words (s ++ c :: t) = words s ++ words t := by
  rw [words, splitWhen_append_cons hc, List.filter_append]
  rfl

theorem words_eq_singleton {w : Text} (hne : w ≠ []) (hw : ∀ c ∈ w, isWhiteSpace c = false) :
    words w = [w] := by
  rw [words, splitWhen_eq_singleton hw]
  simp [hne]

/-- The words of a text of words are these words. -/
theorem words_join {ws : List Text} (hws : ∀ w ∈ ws, w ≠ [] ∧ ∀ c ∈ w, isWhiteSpace c = false) :
    words (join [' '] ws) = ws := by
  induction ws with
  | nil => rfl
  | cons w ws ih =>
    obtain ⟨⟨hne, hw⟩, hrest⟩ := List.forall_mem_cons.1 hws
    by_cases hnil : ws = []
    · subst hnil
      rw [join, List.intercalate_singleton]
      exact words_eq_singleton hne hw
    · rw [join_cons hnil, List.append_assoc, List.singleton_append, words_append_cons (by decide),
        words_eq_singleton hne hw, ih hrest]
      rfl

theorem words_eq_nil_iff {t : Text} : words t = [] ↔ ∀ c ∈ t, isWhiteSpace c = true := by
  have hflatten : words t = [] ↔ (words t).flatten = [] := by
    constructor
    · intro h
      rw [h]
      rfl
    · intro h
      apply List.eq_nil_iff_forall_not_mem.2
      intro w hw
      exact (mem_nonempty.1 hw).2 (List.flatten_eq_nil_iff.1 h w hw)
  rw [hflatten, flatten_words, List.filter_eq_nil_iff]
  simp

theorem join_words_eq_nil_iff {separator t : Text} :
    join separator (words t) = [] ↔ ∀ c ∈ t, isWhiteSpace c = true := by
  rw [← words_eq_nil_iff]
  constructor
  · intro h
    by_contra hne
    exact join_ne_nil hne (fun w hw => (mem_nonempty.1 hw).2) h
  · intro h
    rw [h]
    rfl

end Dialogue.Text
