import Dialogue.Proofs.Text.Words
import Dialogue.Text.Occurrence

/-!
# Replacing occurrences

What it means to replace the occurrences of one list in another from the left, said without the
search (`Replaced`): where one begins, the replacement stands and the scan goes on behind it, and
every other element stays. Replacing does exactly this (`Replaced.eq_replaceAll`).
-/

namespace Dialogue

section Replaced

variable {α : Type} {find replacement xs ys : List α}

/-- The second list is the first one with the replacement in the place of what is to be found,
wherever that begins on a scan from the left. -/
inductive Replaced (find replacement : List α) : List α → List α → Prop
  | nil : Replaced find replacement [] []
  | hit {xs ys : List α} : Replaced find replacement xs ys →
      Replaced find replacement (find ++ xs) (replacement ++ ys)
  | skip {x : α} {xs ys : List α} : ¬ find <+: x :: xs → Replaced find replacement xs ys →
      Replaced find replacement (x :: xs) (x :: ys)

/-- Elements stay in which nothing begins that is to be found. -/
theorem Replaced.skips {zs : List α} (h : Replaced find replacement xs ys)
    (hzs : ∀ z tail, z :: tail <:+ zs → ¬ find <+: z :: tail ++ xs) :
    Replaced find replacement (zs ++ xs) (zs ++ ys) := by
  induction zs with
  | nil => exact h
  | cons z zs ih =>
    have hrest := ih fun y tail htail => hzs y tail (htail.trans (List.suffix_cons z zs))
    exact .skip (hzs z zs (List.suffix_refl _)) hrest

end Replaced

/-! ## Cutting at occurrences -/

section Cut

variable {α : Type}

theorem cutFrom_append (hit : List α → Bool) (width : Nat) (zs xs : List α) :
    cutFrom hit width zs.length (zs ++ xs) = cutFrom hit width 0 xs := by
  induction zs with
  | nil => rfl
  | cons z zs ih => exact ih

theorem cutFrom_ne_nil (hit : List α → Bool) (width k : Nat) (xs : List α) :
    cutFrom hit width k xs ≠ [] := by
  induction xs generalizing k with
  | nil => cases k <;> exact List.cons_ne_nil _ _
  | cons x xs ih =>
    cases k with
    | succ k => exact ih k
    | zero =>
      rw [cutFrom]
      split
      · exact List.cons_ne_nil _ _
      · exact Text.consHead_ne_nil _ _

theorem cut_ne_nil (hit : List α → Bool) (width : Nat) (xs : List α) : cut hit width xs ≠ [] :=
  cutFrom_ne_nil hit width 0 xs

variable {hit : List α → Bool} {width : Nat}

/-- Where something begins, a piece ends, and the next one begins behind it. -/
theorem cut_of_hit {found rest : List α} (hfound : found ≠ []) (hwidth : found.length = width)
    (h : hit (found ++ rest) = true) :
    cut hit width (found ++ rest) = [] :: cut hit width rest := by
  obtain ⟨x, tail, rfl⟩ := List.exists_cons_of_ne_nil hfound
  subst hwidth
  have hrest := cutFrom_append hit (x :: tail).length tail rest
  rw [cut, List.cons_append, cutFrom, ← List.cons_append, if_pos h, cut, ← hrest]
  rfl

theorem cut_of_not_hit {x : α} {xs : List α} (h : hit (x :: xs) = false) :
    cut hit width (x :: xs) = consHead x (cut hit width xs) := by
  rw [cut, cutFrom, h, if_neg Bool.false_ne_true, cut]

/-- Elements at which nothing begins go into the first piece. -/
theorem cut_append_of_not_hit {before rest : List α}
    (h : ∀ x tail, x :: tail <:+ before → hit (x :: tail ++ rest) = false) {piece : List α}
    {pieces : List (List α)} (hrest : cut hit width rest = piece :: pieces) :
    cut hit width (before ++ rest) = (before ++ piece) :: pieces := by
  induction before with
  | nil => exact hrest
  | cons x before ih =>
    have htail := ih fun y tail hy => h y tail (hy.trans (List.suffix_cons x before))
    have hhead : hit (x :: (before ++ rest)) = false := h x before (List.suffix_refl _)
    rw [List.cons_append, cut_of_not_hit hhead, htail]
    rfl

/-- Elements at which nothing begins are a single piece. -/
theorem cut_eq_singleton {xs : List α}
    (h : ∀ x tail, x :: tail <:+ xs → hit (x :: tail) = false) : cut hit width xs = [xs] := by
  have hend : ∀ x tail, x :: tail <:+ xs → hit (x :: tail ++ []) = false := by
    simpa only [List.append_nil] using h
  have hcut : cut hit width (xs ++ []) = [xs ++ []] := cut_append_of_not_hit hend rfl
  rwa [List.append_nil] at hcut

variable [BEq α] [LawfulBEq α] {find : List α}

theorem cut_append (hfind : find ≠ []) (xs : List α) :
    cut find.isPrefixOf find.length (find ++ xs) = [] :: cut find.isPrefixOf find.length xs :=
  cut_of_hit hfind rfl (List.isPrefixOf_iff_prefix.2 (List.prefix_append _ _))

theorem cut_cons {x : α} {xs : List α} (h : ¬ find <+: x :: xs) :
    cut find.isPrefixOf find.length (x :: xs) =
      consHead x (cut find.isPrefixOf find.length xs) :=
  cut_of_not_hit (Bool.eq_false_iff.2 (mt List.isPrefixOf_iff_prefix.1 h))

end Cut

/-! ## Replacing in texts -/

namespace Text

variable {find : Text}

theorem join_consHead (separator : Text) (c : Char) {ps : List Text} (hps : ps ≠ []) :
    join separator (consHead c ps) = c :: join separator ps := by
  cases ps with
  | nil => exact absurd rfl hps
  | cons p ps =>
    cases ps with
    | nil => simp [consHead, join]
    | cons q ps =>
      rw [consHead, join_cons (List.cons_ne_nil q ps), join_cons (List.cons_ne_nil q ps)]
      rfl

theorem replaceAll_eq (hfind : find ≠ []) (replacement t : Text) :
    replaceAll find replacement t = join replacement (cut find.isPrefixOf find.length t) := by
  rw [replaceAll, if_neg (mt List.isEmpty_iff.1 hfind)]

theorem replaceAll_append (hfind : find ≠ []) (replacement t : Text) :
    replaceAll find replacement (find ++ t) = replacement ++ replaceAll find replacement t := by
  rw [replaceAll_eq hfind, replaceAll_eq hfind, cut_append hfind, join_cons (cut_ne_nil _ _ _),
    List.nil_append]

theorem replaceAll_cons {c : Char} {t : Text} (hfind : find ≠ []) (h : ¬ find <+: c :: t)
    (replacement : Text) :
    replaceAll find replacement (c :: t) = c :: replaceAll find replacement t := by
  rw [replaceAll_eq hfind, replaceAll_eq hfind, cut_cons h, join_consHead _ _ (cut_ne_nil _ _ _)]

end Text

/-- **Replacing is a scan from the left** that puts the replacement wherever the text to be found
begins. -/
theorem Replaced.eq_replaceAll {find replacement t u : Text} (hfind : find ≠ [])
    (h : Replaced find replacement t u) : u = Text.replaceAll find replacement t := by
  induction h with
  | nil =>
    rw [Text.replaceAll_eq hfind]
    rfl
  | hit _ ih => rw [Text.replaceAll_append hfind, ← ih]
  | skip hnot _ ih => rw [Text.replaceAll_cons hfind hnot, ← ih]

/-- One character is replaced wherever it stands. -/
theorem Text.replaceAll_char (c : Char) (replacement t : Text) :
    replaceAll [c] replacement t = t.flatMap fun d => if d = c then replacement else [d] := by
  symm
  apply Replaced.eq_replaceAll (List.cons_ne_nil _ _)
  induction t with
  | nil => exact .nil
  | cons d t ih =>
    rw [List.flatMap_cons]
    by_cases h : d = c
    · subst h
      rw [if_pos rfl]
      exact .hit ih
    · have hnot : ¬ [c] <+: d :: t := fun hprefix => h (List.cons_prefix_cons.1 hprefix).1.symm
      rw [if_neg h]
      exact .skip hnot ih

/-- One character in the place of another. -/
theorem Text.replaceAll_singleton (a b : Char) (t : Text) :
    replaceAll [a] [b] t = t.map fun c => if c = a then b else c := by
  rw [replaceAll_char, List.map_eq_flatMap]
  exact List.flatMap_congr fun c _ => (apply_ite (fun d => [d]) (c = a) b c).symm

end Dialogue
