import Dialogue.Proofs.Text.Delimiter
import Dialogue.Proofs.Text.Words
import Dialogue.Text.Sentence
import Mathlib.Data.List.Find

/-!
# Sentences of texts in sequence

Where a text ends in a splitter and white space follows, no sentence goes on: the sentences
of the whole are those of the text and then those of the rest (`sentences_append`). For
this no splitter may have white space in it, as it could fit across the gap. Nor does white
space at the ends of a text make a difference then (`sentences_trim`), and a sentence that is
cut out of a text is one sentence (`sentences_of_mem`).
-/

namespace Dialogue.Text

open Unicode

/-- No splitter has white space in it. -/
def Unspaced (splitters : List Text) : Prop :=
  ∀ s ∈ splitters, s.any isWhiteSpace = false

def EndsInSplitter (splitters : List Text) (t : Text) : Prop :=
  (marks splitters t).getLast?.map Prod.snd = some true

section Splitters

variable {splitters : List Text} {c : Char}

/-- A splitter does not reach across white space. -/
theorem splitterAt_append (hs : Unspaced splitters) (hc : isWhiteSpace c = true)
    (x rest : Text) : splitterAt splitters (x ++ c :: rest) = splitterAt splitters x := by
  unfold splitterAt
  apply List.find?_congr
  intro s hmem
  have hnot : c ∉ s := by
    intro h
    exact List.any_eq_false.1 (hs s hmem) c h hc
  have hiff := prefix_append_cons_iff hnot x rest
  simp only [← List.isPrefixOf_iff_prefix] at hiff
  rw [Bool.eq_iff_iff.2 hiff]

theorem splitterAt_nil (splitters : List Text) : splitterAt splitters [] = none := by
  apply List.find?_eq_none.2
  intro s _
  cases s <;> simp

theorem prefix_of_splitterAt {t s : Text} (h : splitterAt splitters t = some s) : s <+: t := by
  have hfound := List.find?_some h
  rw [Bool.and_eq_true] at hfound
  exact List.isPrefixOf_iff_prefix.1 hfound.2

/-- The marks of a text and those of what follows after white space do not depend on each
other. -/
theorem marksFrom_append (hs : Unspaced splitters) (hc : isWhiteSpace c = true)
    {k : Nat} {x : Text} (hk : k ≤ x.length) (rest : Text) :
    marksFrom splitters k (x ++ c :: rest) =
      marksFrom splitters k x ++ (c, false) :: marks splitters rest := by
  induction x generalizing k with
  | nil =>
    obtain rfl := Nat.le_zero.1 hk
    have hnone : splitterAt splitters (c :: rest) = none :=
      (splitterAt_append hs hc [] rest).trans (splitterAt_nil splitters)
    simp only [List.nil_append, marksFrom, hnone, marks]
  | cons d x ih =>
    cases k with
    | succ k =>
      simp only [List.cons_append, marksFrom, ih (Nat.le_of_succ_le_succ hk)]
    | zero =>
      have hsplitter := splitterAt_append hs hc (d :: x) rest
      rw [List.cons_append] at hsplitter
      cases hfound : splitterAt splitters (d :: x) with
      | none =>
        rw [hfound] at hsplitter
        simp only [List.cons_append, marksFrom, hsplitter, hfound, ih (Nat.zero_le _)]
      | some s =>
        rw [hfound] at hsplitter
        have hlength : s.length - 1 ≤ x.length :=
          Nat.sub_le_of_le_add (prefix_of_splitterAt hfound).length_le
        simp only [List.cons_append, marksFrom, hsplitter, hfound, ih hlength]

/-! ### Scanning -/

theorem mem_of_splitterAt {t s : Text} (h : splitterAt splitters t = some s) :
    s ∈ splitters ∧ s ≠ [] := by
  have hfound := List.find?_some h
  rw [Bool.and_eq_true] at hfound
  exact ⟨List.mem_of_find?_eq_some h, by simpa using hfound.1⟩

theorem marksFrom_length_append (splitters : List Text) (s rest : Text) :
    marksFrom splitters s.length (s ++ rest) = s.map (·, true) ++ marks splitters rest := by
  induction s with
  | nil => rfl
  | cons c s ih => rw [List.length_cons, List.cons_append, marksFrom, ih, List.map_cons]; rfl

/-- Where a splitter is found its characters are marked, and the search goes on behind it. -/
theorem marks_of_some {s rest : Text} (h : splitterAt splitters (s ++ rest) = some s) :
    marks splitters (s ++ rest) = s.map (·, true) ++ marks splitters rest := by
  cases s with
  | nil => exact absurd rfl (mem_of_splitterAt h).2
  | cons c s =>
    rw [List.cons_append] at h ⊢
    have hstep : marks splitters (c :: (s ++ rest)) =
        (c, true) :: marksFrom splitters s.length (s ++ rest) := by
      rw [marks, marksFrom, h]
      rfl
    rw [hstep, marksFrom_length_append, List.map_cons]
    rfl

theorem marks_of_none {rest : Text} (h : splitterAt splitters (c :: rest) = none) :
    marks splitters (c :: rest) = (c, false) :: marks splitters rest := by
  rw [marks, marksFrom, h]
  rfl

variable (splitters) in
/-- The scan of a text: at each place it passes over a splitter or over one character. -/
theorem scan_induction {motive : Text → Prop} (nil : motive [])
    (splitter : ∀ s rest, splitterAt splitters (s ++ rest) = some s → motive rest →
      motive (s ++ rest))
    (other : ∀ c rest, splitterAt splitters (c :: rest) = none → motive rest →
      motive (c :: rest))
    (t : Text) : motive t := by
  induction hn : t.length using Nat.strong_induction_on generalizing t with
  | _ n ih =>
    cases t with
    | nil => exact nil
    | cons c rest =>
      cases hfound : splitterAt splitters (c :: rest) with
      | none =>
        have hlt : rest.length < n := hn ▸ Nat.lt_succ_self rest.length
        exact other c rest hfound (ih rest.length hlt rest rfl)
      | some s =>
        obtain ⟨rest', hrest'⟩ := prefix_of_splitterAt hfound
        have hpos := List.length_pos_of_ne_nil (mem_of_splitterAt hfound).2
        rw [← hrest'] at hfound hn ⊢
        rw [List.length_append] at hn
        exact splitter s rest' hfound (ih rest'.length (by omega) rest' rfl)

theorem exists_mem_of_mem_marks {t : Text} {x : Char × Bool} (hx : x ∈ marks splitters t)
    (htrue : x.2 = true) : ∃ s ∈ splitters, x.1 ∈ s := by
  induction t using scan_induction splitters with
  | nil => exact absurd hx List.not_mem_nil
  | splitter s rest hfound ih =>
    rw [marks_of_some hfound] at hx
    rcases List.mem_append.1 hx with hx | hx
    · obtain ⟨c, hc, rfl⟩ := List.mem_map.1 hx
      exact ⟨s, (mem_of_splitterAt hfound).1, hc⟩
    · exact ih hx
  | other c rest hnone ih =>
    rw [marks_of_none hnone] at hx
    rcases List.mem_cons.1 hx with rfl | hx
    · cases htrue
    · exact ih hx

end Splitters

/-! ## Cutting -/

theorem cutAtMarks_ne_nil (afterSplitter : Bool) (xs : List (Char × Bool)) :
    cutAtMarks afterSplitter xs ≠ [] := by
  cases xs with
  | nil => exact List.cons_ne_nil _ _
  | cons x xs =>
    dsimp only [cutAtMarks]
    split
    · exact List.cons_ne_nil _ _
    · exact consHead_ne_nil _ _

/-- Marked text is cut where a run of splitters ends. -/
theorem cutAtMarks_append {afterSplitter : Bool} {xs : List (Char × Bool)}
    (hlast : (xs.getLast?.map Prod.snd).getD afterSplitter = true) (c : Char)
    (ys : List (Char × Bool)) :
    cutAtMarks afterSplitter (xs ++ (c, false) :: ys) =
      cutAtMarks afterSplitter xs ++ consHead c (cutAtMarks false ys) := by
  induction xs generalizing afterSplitter with
  | nil =>
    obtain rfl : afterSplitter = true := hlast
    rfl
  | cons x xs ih =>
    obtain ⟨d, mark⟩ := x
    have hrest : (xs.getLast?.map Prod.snd).getD mark = true := by
      rw [List.getLast?_cons, Option.map_some, Option.getD_some] at hlast
      rw [← hlast]
      cases xs.getLast? <;> rfl
    simp only [List.cons_append, cutAtMarks, ih hrest,
      consHead_append d (cutAtMarks_ne_nil mark xs)]
    split <;> rfl

theorem map_trim_consHead {c : Char} (hc : isWhiteSpace c = true) {ps : List Text}
    (hps : ps ≠ []) : (consHead c ps).map trim = ps.map trim := by
  cases ps with
  | nil => exact absurd rfl hps
  | cons p ps =>
    have hp : trim (c :: p) = trim p := trim_append (s := [c]) (List.forall_mem_singleton.2 hc) p
    rw [consHead, List.map_cons, List.map_cons, hp]

/-- **No sentence goes on behind a splitter and white space.** -/
theorem sentences_append {splitters : List Text} {c : Char} {a : Text}
    (hs : Unspaced splitters) (hc : isWhiteSpace c = true) (ha : EndsInSplitter splitters a)
    (b : Text) :
    sentences splitters (a ++ c :: b) = sentences splitters a ++ sentences splitters b := by
  have hmarks : marks splitters (a ++ c :: b) =
      marks splitters a ++ (c, false) :: marks splitters b :=
    marksFrom_append hs hc (Nat.zero_le _) b
  have hlast : ((marks splitters a).getLast?.map Prod.snd).getD false = true := by
    rw [ha]
    rfl
  unfold sentences
  rw [hmarks, cutAtMarks_append hlast, List.map_append, List.filter_append,
    map_trim_consHead hc (cutAtMarks_ne_nil _ _)]

/-! ## White space at the ends -/

section Ends

variable {splitters : List Text} {c : Char}

/-- White space behind marked text goes to its last piece or is a piece of its own. -/
theorem cutAtMarks_concat (afterSplitter : Bool) (c : Char) (xs : List (Char × Bool)) :
    ∃ earlier last, cutAtMarks afterSplitter xs = earlier ++ [last] ∧
      (cutAtMarks afterSplitter (xs ++ [(c, false)]) = earlier ++ [last ++ [c]] ∨
        cutAtMarks afterSplitter (xs ++ [(c, false)]) = earlier ++ [last, [c]]) := by
  induction xs generalizing afterSplitter with
  | nil =>
    refine ⟨[], [], rfl, ?_⟩
    cases afterSplitter
    · exact .inl rfl
    · exact .inr rfl
  | cons x xs ih =>
    obtain ⟨d, mark⟩ := x
    obtain ⟨earlier, last, hxs, hconcat⟩ := ih mark
    -- the first piece begins with `d`, and it is the last one if there are no earlier ones
    have hhead : ∃ earlier' last', consHead d (earlier ++ [last]) = earlier' ++ [last'] ∧
        consHead d (earlier ++ [last ++ [c]]) = earlier' ++ [last' ++ [c]] ∧
        consHead d (earlier ++ [last, [c]]) = earlier' ++ [last', [c]] := by
      cases earlier with
      | nil => exact ⟨[], d :: last, rfl, rfl, rfl⟩
      | cons p earlier => exact ⟨(d :: p) :: earlier, last, rfl, rfl, rfl⟩
    obtain ⟨earlier', last', hlast, happend, hpiece⟩ := hhead
    refine ⟨(if afterSplitter && !mark then [[]] else []) ++ earlier', last', ?_, ?_⟩
    · rw [cutAtMarks, hxs, hlast]
      split <;> rfl
    · rw [List.cons_append, cutAtMarks]
      rcases hconcat with h | h
      · left
        rw [h, happend]
        split <;> rfl
      · right
        rw [h, hpiece]
        split <;> rfl

theorem sentences_eq (splitters : List Text) (t : Text) :
    sentences splitters t = nonempty ((cutAtMarks false (marks splitters t)).map trim) := rfl

theorem sentences_cons (hs : Unspaced splitters) (hc : isWhiteSpace c = true) (t : Text) :
    sentences splitters (c :: t) = sentences splitters t := by
  have hmarks : marks splitters (c :: t) = (c, false) :: marks splitters t :=
    marksFrom_append (x := []) hs hc (Nat.zero_le _) t
  rw [sentences_eq, sentences_eq, hmarks]
  exact congrArg nonempty (map_trim_consHead hc (cutAtMarks_ne_nil _ _))

theorem sentences_concat (hs : Unspaced splitters) (hc : isWhiteSpace c = true) (t : Text) :
    sentences splitters (t ++ [c]) = sentences splitters t := by
  have hmarks : marks splitters (t ++ [c]) = marks splitters t ++ [(c, false)] :=
    marksFrom_append hs hc (Nat.zero_le _) []
  have hspace : ∀ d ∈ [c], isWhiteSpace d = true := List.forall_mem_singleton.2 hc
  have hempty : trim [c] = [] := trim_eq_nil_iff.2 hspace
  obtain ⟨earlier, last, hxs, h | h⟩ := cutAtMarks_concat false c (marks splitters t)
  · rw [sentences_eq, sentences_eq, hmarks, h, hxs, List.map_append, List.map_append,
      List.map_singleton, List.map_singleton, trim_append_right hspace]
  · rw [sentences_eq, sentences_eq, hmarks, h, hxs, List.append_cons, List.map_append,
      nonempty_append, List.map_singleton, hempty]
    exact List.append_nil _

/-- Trimming a text changes nothing in its sentences. -/
theorem sentences_trim (hs : Unspaced splitters) (t : Text) :
    sentences splitters (trim t) = sentences splitters t := by
  obtain ⟨before, after, ht, hbefore, hafter⟩ := exists_eq_append_trim t
  have hstart : ∀ s : Text, (∀ c ∈ s, isWhiteSpace c = true) → ∀ t,
      sentences splitters (s ++ t) = sentences splitters t := by
    intro s h t
    induction s with
    | nil => rfl
    | cons c s ih =>
      obtain ⟨hc, hspace⟩ := List.forall_mem_cons.1 h
      rw [List.cons_append, sentences_cons hs hc, ih hspace]
  have hend : ∀ s : Text, (∀ c ∈ s, isWhiteSpace c = true) → ∀ t,
      sentences splitters (t ++ s) = sentences splitters t := by
    intro s h t
    induction s generalizing t with
    | nil => rw [List.append_nil]
    | cons c s ih =>
      obtain ⟨hc, hspace⟩ := List.forall_mem_cons.1 h
      rw [List.append_cons, ih hspace, sentences_concat hs hc]
  have hsentences := hend after hafter (before ++ trim t)
  rw [← ht, hstart before hbefore] at hsentences
  exact hsentences.symm

end Ends

/-! ## Cutting a sentence -/

section Stable

variable {splitters : List Text}

theorem map_fst_marksFrom (splitters : List Text) (k : Nat) (t : Text) :
    (marksFrom splitters k t).map Prod.fst = t := by
  induction t generalizing k with
  | nil => cases k <;> rfl
  | cons c t ih =>
    cases k with
    | succ k => rw [marksFrom, List.map_cons, ih]
    | zero =>
      rw [marksFrom]
      split <;> rw [List.map_cons, ih]

theorem map_fst_marks (splitters : List Text) (t : Text) :
    (marks splitters t).map Prod.fst = t := map_fst_marksFrom splitters 0 t

theorem flatten_cutAtMarks (afterSplitter : Bool) (xs : List (Char × Bool)) :
    (cutAtMarks afterSplitter xs).flatten = xs.map Prod.fst := by
  induction xs generalizing afterSplitter with
  | nil => rfl
  | cons x xs ih =>
    obtain ⟨c, mark⟩ := x
    have hpieces : (consHead c (cutAtMarks mark xs)).flatten = c :: xs.map Prod.fst := by
      rw [flatten_consHead, ih]
    rw [cutAtMarks]
    split
    · rw [List.flatten_cons, List.nil_append, hpieces, List.map_cons]
    · rw [hpieces, List.map_cons]

/-- A splitter that fits in the beginning of a text fits in the text. -/
theorem fits_of_beginning {s t u : Text} (hu : u <+: t)
    (h : (!s.isEmpty && s.isPrefixOf u) = true) :
    (!s.isEmpty && s.isPrefixOf t) = true := by
  rw [Bool.and_eq_true] at h ⊢
  exact ⟨h.1, List.isPrefixOf_iff_prefix.2 ((List.isPrefixOf_iff_prefix.1 h.2).trans hu)⟩

/-- The splitter that is found in a text is found in every beginning in which it fits. -/
theorem splitterAt_of_beginning {t u s : Text} (h : splitterAt splitters t = some s) (hs : s <+: u)
    (hu : u <+: t) : splitterAt splitters u = some s := by
  unfold splitterAt at h ⊢
  rw [List.find?_eq_some_iff_append] at h ⊢
  obtain ⟨hfits, earlier, later, hsplitters, hearlier⟩ := h
  rw [Bool.and_eq_true] at hfits
  refine ⟨?_, earlier, later, hsplitters, fun r hr => ?_⟩
  · rw [Bool.and_eq_true]
    exact ⟨hfits.1, List.isPrefixOf_iff_prefix.2 hs⟩
  · have hnot := hearlier r hr
    rw [Bool.not_eq_true', Bool.eq_false_iff] at hnot ⊢
    exact fun hfits => hnot (fits_of_beginning hu hfits)

theorem splitterAt_eq_none_of_beginning {t u : Text} (h : splitterAt splitters t = none)
    (hu : u <+: t) : splitterAt splitters u = none := by
  unfold splitterAt at h ⊢
  rw [List.find?_eq_none] at h ⊢
  exact fun s hs hfits => h s hs (fits_of_beginning hu hfits)

/-- Where a character belongs to no splitter, the marks of what stands before it are those of a text
of its own, and so are those that begin with it. -/
theorem exists_of_marksFrom_eq_append {k : Nat} {t : Text} {xs ys : List (Char × Bool)} {c : Char}
    (h : marksFrom splitters k t = xs ++ (c, false) :: ys) :
    k ≤ xs.length ∧ ∃ before behind, t = before ++ c :: behind ∧
      marksFrom splitters k before = xs ∧ marks splitters (c :: behind) = (c, false) :: ys := by
  induction t generalizing k xs with
  | nil =>
    cases k <;> cases xs <;> cases h
  | cons d t ih =>
    cases k with
    | succ k =>
      cases xs with
      | nil => cases h
      | cons x xs =>
        rw [marksFrom, List.cons_append] at h
        obtain ⟨rfl, hrest⟩ := List.cons.inj h
        obtain ⟨hk, before, behind, rfl, hbefore, hbehind⟩ := ih hrest
        refine ⟨Nat.succ_le_succ hk, d :: before, behind, rfl, ?_, hbehind⟩
        rw [marksFrom, hbefore]
    | zero =>
      refine ⟨Nat.zero_le _, ?_⟩
      have hmarks := h
      rw [marksFrom] at h
      cases hfound : splitterAt splitters (d :: t) with
      | none =>
        rw [hfound] at h
        cases xs with
        | nil =>
          obtain ⟨hd, hrest⟩ := List.cons.inj h
          obtain rfl : d = c := congrArg Prod.fst hd
          exact ⟨[], t, rfl, rfl, hmarks⟩
        | cons x xs =>
          obtain ⟨rfl, hrest⟩ := List.cons.inj h
          obtain ⟨-, before, behind, rfl, hbefore, hbehind⟩ := ih hrest
          have hnone := splitterAt_eq_none_of_beginning hfound
            (List.prefix_append (d :: before) (c :: behind))
          refine ⟨d :: before, behind, rfl, ?_, hbehind⟩
          rw [marksFrom, hnone]
          exact congrArg _ hbefore
      | some s =>
        rw [hfound] at h
        cases xs with
        | nil => cases h
        | cons x xs =>
          obtain ⟨rfl, hrest⟩ := List.cons.inj h
          obtain ⟨hk, before, behind, rfl, hbefore, hbehind⟩ := ih hrest
          -- the splitter ends before the character, so it fits in what stands before that
          have hlength : xs.length = before.length := by
            rw [← hbefore, ← List.length_map Prod.fst, map_fst_marksFrom]
          have hs : s <+: d :: before := by
            refine List.prefix_of_prefix_length_le (prefix_of_splitterAt hfound)
              (List.prefix_append (d :: before) (c :: behind)) ?_
            rw [List.length_cons]
            omega
          have hsome := splitterAt_of_beginning hfound hs
            (List.prefix_append (d :: before) (c :: behind))
          refine ⟨d :: before, behind, rfl, ?_, hbehind⟩
          rw [marksFrom, hsome]
          exact congrArg _ hbefore

/-- Where marked text is cut, a character that belongs to no splitter follows one that does. -/
theorem exists_cut {afterSplitter : Bool} {xs : List (Char × Bool)} {p q : Text} {ps : List Text}
    (h : cutAtMarks afterSplitter xs = p :: q :: ps) :
    ∃ ys c zs, xs = ys ++ (c, false) :: zs ∧
      (ys.getLast?.map Prod.snd).getD afterSplitter = true ∧
      cutAtMarks afterSplitter ys = [p] ∧ cutAtMarks false ((c, false) :: zs) = q :: ps := by
  induction xs generalizing afterSplitter p with
  | nil => cases h
  | cons x xs ih =>
    obtain ⟨c, mark⟩ := x
    rw [cutAtMarks] at h
    split at h
    · rename_i hcut
      rw [Bool.and_eq_true, Bool.not_eq_true'] at hcut
      obtain ⟨rfl, rfl⟩ := hcut
      obtain ⟨rfl, hrest⟩ := List.cons.inj h
      exact ⟨[], c, xs, rfl, rfl, rfl, hrest⟩
    · rename_i hcut
      cases hpieces : cutAtMarks mark xs with
      | nil => exact absurd hpieces (cutAtMarks_ne_nil mark xs)
      | cons p' pieces =>
        rw [hpieces] at h
        obtain ⟨rfl, rfl⟩ := List.cons.inj h
        obtain ⟨ys, d, zs, rfl, hlast, hys, hzs⟩ := ih hpieces
        refine ⟨(c, mark) :: ys, d, zs, rfl, ?_, ?_, hzs⟩
        · rw [List.getLast?_cons]
          cases hys : ys.getLast? with
          | none =>
            rw [hys] at hlast
            exact hlast
          | some y =>
            rw [hys] at hlast
            exact hlast
        · rw [cutAtMarks, hys, if_neg hcut]
          rfl

theorem flatten_pieces (splitters : List Text) (t : Text) :
    (cutAtMarks false (marks splitters t)).flatten = t := by
  rw [flatten_cutAtMarks, map_fst_marks]

/-- The first piece of a text ends in a splitter and is not cut as a text of its own, and what
follows it is cut as a text of its own. -/
theorem exists_of_cutAtMarks_eq_cons {t p q : Text} {ps : List Text}
    (h : cutAtMarks false (marks splitters t) = p :: q :: ps) :
    EndsInSplitter splitters p ∧ cutAtMarks false (marks splitters p) = [p] ∧
      ∃ behind, t = p ++ behind ∧ cutAtMarks false (marks splitters behind) = q :: ps := by
  obtain ⟨ys, c, zs, hmarks, hlast, hys, hzs⟩ := exists_cut h
  obtain ⟨-, before, behind, rfl, hbefore, hbehind⟩ := exists_of_marksFrom_eq_append hmarks
  obtain rfl : p = before := by
    have hflatten := flatten_cutAtMarks false ys
    rw [hys, ← hbefore, map_fst_marksFrom] at hflatten
    simpa using hflatten
  refine ⟨?_, ?_, c :: behind, rfl, ?_⟩
  · rw [EndsInSplitter, marks, hbefore]
    cases hy : ys.getLast? with
    | none =>
      rw [hy] at hlast
      cases hlast
    | some y =>
      rw [hy] at hlast
      exact congrArg some hlast
  · rw [marks, hbefore, hys]
  · rw [hbehind, hzs]

/-- The text ends in a splitter, so it is not empty. -/
theorem EndsInSplitter.ne_nil {t : Text} (h : EndsInSplitter splitters t) : t ≠ [] := by
  rintro rfl
  cases h

variable (splitters) in
/-- What holds of every text that is one piece and of the pieces of the rest behind such a text,
holds of the pieces of every text. -/
theorem pieces_induction {motive : Text → List Text → Prop}
    (one : ∀ p, cutAtMarks false (marks splitters p) = [p] → motive p [p])
    (more : ∀ p behind ps, EndsInSplitter splitters p →
      cutAtMarks false (marks splitters p) = [p] → motive behind ps → ps ≠ [] →
      motive (p ++ behind) (p :: ps))
    (t : Text) : motive t (cutAtMarks false (marks splitters t)) := by
  induction hn : t.length using Nat.strong_induction_on generalizing t with
  | _ n ih =>
    have hflatten := flatten_pieces splitters t
    cases hpieces : cutAtMarks false (marks splitters t) with
    | nil => exact absurd hpieces (cutAtMarks_ne_nil _ _)
    | cons p ps =>
      cases ps with
      | nil =>
        rw [hpieces] at hflatten
        obtain rfl : p = t := by simpa using hflatten
        exact one p hpieces
      | cons q ps =>
        obtain ⟨hends, hone, behind, rfl, hbehind⟩ := exists_of_cutAtMarks_eq_cons hpieces
        have hpos := List.length_pos_of_ne_nil hends.ne_nil
        rw [List.length_append] at hn
        have hmotive := ih behind.length (by omega) behind rfl
        rw [hbehind] at hmotive
        exact more p behind (q :: ps) hends hone hmotive (List.cons_ne_nil q ps)

/-- **A piece of a text is not cut again.** -/
theorem cutAtMarks_of_mem {t p : Text} (h : p ∈ cutAtMarks false (marks splitters t)) :
    cutAtMarks false (marks splitters p) = [p] := by
  revert h
  induction t using pieces_induction splitters with
  | one q hq =>
    intro h
    rwa [List.mem_singleton.1 h]
  | more q behind ps hends hq ih hne =>
    intro h
    rcases List.mem_cons.1 h with rfl | h
    · exact hq
    · exact ih h

/-- **A sentence is one sentence.** -/
theorem sentences_of_mem (hs : Unspaced splitters) {t sentence : Text}
    (h : sentence ∈ sentences splitters t) : sentences splitters sentence = [sentence] := by
  rw [sentences_eq] at h
  obtain ⟨hmem, hne⟩ := mem_nonempty.1 h
  obtain ⟨p, hp, rfl⟩ := List.mem_map.1 hmem
  rw [sentences_trim hs, sentences_eq, cutAtMarks_of_mem hp]
  exact nonempty_of_forall fun q hq => List.mem_singleton.1 hq ▸ hne

end Stable

end Dialogue.Text
