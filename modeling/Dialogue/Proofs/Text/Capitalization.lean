import Dialogue.Proofs.Text.Sentence
import Dialogue.Proofs.Unicode

/-!
# Capitalizing sentences

Both ways to use the marks of a text agree on where its sentences begin. Where all splitters are
punctuation, no letter belongs to one and no uppercase form brings one in, so the capitalized text
has its marks where the text has them (`marks_capitalizeMarked`). It is cut into the same pieces
with the first letter of each in uppercase (`cutAtMarks_capitalizeMarks`), and its sentences are
those of the text with their first letters in uppercase (`sentences_capitalizeSentences`).
-/

namespace Dialogue

namespace Unicode

def punctuationRanges : List Range := [(0x21, 0x2F), (0x3A, 0x40), (0x5B, 0x60), (0x7B, 0x7E)]

def isPunctuation (c : Char) : Bool := inRanges punctuationRanges c.toNat

theorem not_isAlphabetic_of_isPunctuation {c : Char} (h : isPunctuation c = true) :
    isAlphabetic c = false :=
  not_inRanges_of_disjoint (by decide +kernel) h

theorem not_isWhiteSpace_of_isPunctuation {c : Char} (h : isPunctuation c = true) :
    isWhiteSpace c = false :=
  not_inRanges_of_disjoint (by decide +kernel) h

/-- No uppercase form of a letter has punctuation in it. -/
theorem not_isPunctuation_of_mem_upperChar {c d : Char} (hc : isAlphabetic c = true)
    (h : d ∈ upperChar c) : isPunctuation d = false := by
  rw [Bool.eq_false_iff]
  intro hd
  obtain rfl : c = d :=
    eq_of_mem_upperChar_of_apart (by decide +kernel) (by decide +kernel) rfl hd h
  rw [not_isAlphabetic_of_isPunctuation hd] at hc
  cases hc

end Unicode

namespace Text

open Unicode

def Punctuated (splitters : List Text) : Prop := ∀ s ∈ splitters, ∀ c ∈ s, isPunctuation c = true

-- the test runs over the characters of the text, where the general one may try every character
instance (splitters : List Text) : Decidable (Punctuated splitters) :=
  decidable_of_iff (splitters.all (List.all · isPunctuation) = true) (by simp [Punctuated])

/-! ## Raising letters -/

/-- The second text is the first one with some of its letters in uppercase. -/
inductive Raised : Text → Text → Prop
  | nil : Raised [] []
  | keep (c : Char) {t u : Text} (h : Raised t u) : Raised (c :: t) (c :: u)
  | raise {c : Char} {t u : Text} (hc : isAlphabetic c = true) (h : Raised t u) :
      Raised (c :: t) (upperChar c ++ u)

/-- With raised letters a text begins with the same punctuation. -/
theorem Raised.prefix_iff {t u : Text} (h : Raised t u) {s : Text}
    (hs : ∀ c ∈ s, isPunctuation c = true) : s <+: t ↔ s <+: u := by
  induction h generalizing s with
  | nil => exact Iff.rfl
  | keep c _ ih =>
    cases s with
    | nil => exact iff_of_true List.nil_prefix List.nil_prefix
    | cons d s =>
      rw [List.cons_prefix_cons, List.cons_prefix_cons, ih (List.forall_mem_cons.1 hs).2]
  | @raise c t u hc _ ih =>
    cases s with
    | nil => exact iff_of_true List.nil_prefix List.nil_prefix
    | cons d s =>
      have hd : isPunctuation d = true := hs d List.mem_cons_self
      refine iff_of_false ?_ ?_
      · intro hprefix
        obtain ⟨rfl, -⟩ := List.cons_prefix_cons.1 hprefix
        rw [not_isAlphabetic_of_isPunctuation hd] at hc
        cases hc
      · intro hprefix
        obtain ⟨e, es, hupper⟩ := List.exists_cons_of_ne_nil (upperChar_ne_nil c)
        rw [hupper] at hprefix
        obtain ⟨rfl, -⟩ := List.cons_prefix_cons.1 hprefix
        have hmem : d ∈ upperChar c := hupper ▸ List.mem_cons_self
        rw [not_isPunctuation_of_mem_upperChar hc hmem] at hd
        cases hd

theorem raised_capitalizeMarked (pending : Bool) (xs : List (Char × Bool)) :
    Raised (xs.map Prod.fst) (capitalizeMarked pending xs) := by
  induction xs generalizing pending with
  | nil => exact .nil
  | cons x xs ih =>
    obtain ⟨c, _ | _⟩ := x
    · rw [capitalizeMarked]
      split
      · rename_i hraise
        exact .raise (Bool.and_eq_true_iff.1 hraise).2 (ih false)
      · exact .keep c (ih _)
    · exact .keep c (ih true)

section Splitters

variable {splitters : List Text}

theorem splitterAt_of_raised (hs : Punctuated splitters) {t u : Text} (h : Raised t u) :
    splitterAt splitters u = splitterAt splitters t := by
  unfold splitterAt
  apply List.find?_congr
  intro s hmem
  have hiff := h.prefix_iff (hs s hmem)
  simp only [← List.isPrefixOf_iff_prefix] at hiff
  rw [Bool.eq_iff_iff.2 hiff]

/-- No splitter begins with a character that is no punctuation. -/
theorem splitterAt_of_not_isPunctuation (hs : Punctuated splitters) {c : Char}
    (hc : isPunctuation c = false) (t : Text) : splitterAt splitters (c :: t) = none := by
  cases hfound : splitterAt splitters (c :: t) with
  | none => rfl
  | some s =>
    obtain ⟨hmem, hne⟩ := mem_of_splitterAt hfound
    obtain ⟨d, s, rfl⟩ := List.exists_cons_of_ne_nil hne
    obtain ⟨rfl, -⟩ := List.cons_prefix_cons.1 (prefix_of_splitterAt hfound)
    rw [hs _ hmem d List.mem_cons_self] at hc
    cases hc

theorem marks_append_of_not_isPunctuation (hs : Punctuated splitters) {u : Text}
    (hu : ∀ c ∈ u, isPunctuation c = false) (t : Text) :
    marks splitters (u ++ t) = u.map (·, false) ++ marks splitters t := by
  induction u with
  | nil => rfl
  | cons c u ih =>
    obtain ⟨hc, hu⟩ := List.forall_mem_cons.1 hu
    rw [List.cons_append, marks_of_none (splitterAt_of_not_isPunctuation hs hc _), ih hu]
    rfl

/-! ## The marks of the capitalized text -/

/-- Marked text with its sentences capitalized. A raised letter is not marked. -/
def capitalizeMarks (pending : Bool) : List (Char × Bool) → List (Char × Bool)
  | [] => []
  | (c, true) :: rest => (c, true) :: capitalizeMarks true rest
  | (c, false) :: rest =>
    if pending && isAlphabetic c then (upperChar c).map (·, false) ++ capitalizeMarks false rest
    else (c, false) :: capitalizeMarks (pending && isWhiteSpace c) rest

theorem map_fst_capitalizeMarks (pending : Bool) (xs : List (Char × Bool)) :
    (capitalizeMarks pending xs).map Prod.fst = capitalizeMarked pending xs := by
  induction xs generalizing pending with
  | nil => rfl
  | cons x xs ih =>
    obtain ⟨c, _ | _⟩ := x
    · rw [capitalizeMarks, capitalizeMarked]
      split
      · rw [List.map_append, ih, List.map_map]
        exact congrArg (· ++ _) (List.map_id _)
      · rw [List.map_cons, ih]
    · rw [capitalizeMarks, capitalizeMarked, List.map_cons, ih]

/-- A splitter stays as it is, and behind it the next letter is raised. -/
theorem capitalizeMarks_splitter {s : Text} (hne : s ≠ []) (pending : Bool)
    (xs : List (Char × Bool)) :
    capitalizeMarks pending (s.map (·, true) ++ xs) =
      s.map (·, true) ++ capitalizeMarks true xs := by
  induction s generalizing pending with
  | nil => exact absurd rfl hne
  | cons c s ih =>
    rw [List.map_cons, List.cons_append, capitalizeMarks]
    by_cases hs : s = []
    · rw [hs]
      rfl
    · rw [ih hs, List.cons_append]

theorem capitalizeMarked_splitter {s : Text} (hne : s ≠ []) (pending : Bool)
    (xs : List (Char × Bool)) :
    capitalizeMarked pending (s.map (·, true) ++ xs) = s ++ capitalizeMarked true xs := by
  rw [← map_fst_capitalizeMarks, capitalizeMarks_splitter hne, List.map_append, List.map_map,
    map_fst_capitalizeMarks]
  exact congrArg (· ++ _) (List.map_id s)

/-- **Capitalizing leaves the marks where they are.** -/
theorem marks_capitalizeMarked (hs : Punctuated splitters) (pending : Bool) (t : Text) :
    marks splitters (capitalizeMarked pending (marks splitters t)) =
      capitalizeMarks pending (marks splitters t) := by
  induction t using scan_induction splitters generalizing pending with
  | nil => rfl
  | splitter s rest hfound ih =>
    obtain ⟨-, hne⟩ := mem_of_splitterAt hfound
    have hraised := raised_capitalizeMarked pending (marks splitters (s ++ rest))
    rw [map_fst_marks] at hraised
    have hsplitter := splitterAt_of_raised hs hraised
    rw [marks_of_some hfound, capitalizeMarked_splitter hne, hfound] at hsplitter
    rw [marks_of_some hfound, capitalizeMarked_splitter hne, capitalizeMarks_splitter hne,
      marks_of_some hsplitter, ih]
  | other c rest hnone ih =>
    have hraised := raised_capitalizeMarked pending (marks splitters (c :: rest))
    rw [map_fst_marks] at hraised
    have hsplitter := splitterAt_of_raised hs hraised
    rw [marks_of_none hnone, capitalizeMarked, hnone] at hsplitter
    rw [marks_of_none hnone, capitalizeMarked, capitalizeMarks]
    split at hsplitter
    · rename_i hraise
      have hc := (Bool.and_eq_true_iff.1 hraise).2
      rw [if_pos hraise, if_pos hraise,
        marks_append_of_not_isPunctuation hs fun d hd => not_isPunctuation_of_mem_upperChar hc hd,
        ih]
    · rename_i hkeep
      rw [if_neg hkeep, if_neg hkeep, marks_of_none hsplitter, ih]

end Splitters

/-! ## Cutting the capitalized text -/

def capitalizeFirst : Text → Text
  | [] => []
  | c :: rest => if isAlphabetic c then upperChar c ++ rest else c :: rest

/-- The text with its first character behind white space in uppercase, if that is a letter. -/
def capitalizeStart (t : Text) : Text :=
  t.takeWhile isWhiteSpace ++ capitalizeFirst (trimStart t)

theorem capitalizeStart_of_isWhiteSpace {c : Char} (hc : isWhiteSpace c = true) (t : Text) :
    capitalizeStart (c :: t) = c :: capitalizeStart t := by
  unfold capitalizeStart trimStart
  rw [List.takeWhile_cons_of_pos hc, List.dropWhile_cons_of_pos hc, List.cons_append]

theorem capitalizeStart_of_not_isWhiteSpace {c : Char} (hc : isWhiteSpace c = false) (t : Text) :
    capitalizeStart (c :: t) = capitalizeFirst (c :: t) := by
  have hnot : ¬ isWhiteSpace c = true := Bool.eq_false_iff.1 hc
  unfold capitalizeStart trimStart
  rw [List.takeWhile_cons_of_neg hnot, List.dropWhile_cons_of_neg hnot, List.nil_append]

def capitalizeTail : List Text → List Text
  | [] => []
  | p :: ps => p :: ps.map capitalizeStart

theorem capitalizeTail_consHead (c : Char) {ps : List Text} (hps : ps ≠ []) :
    capitalizeTail (consHead c ps) = consHead c (capitalizeTail ps) := by
  cases ps with
  | nil => exact absurd rfl hps
  | cons p ps => rfl

/-- What comes behind a first character that stays as it is stays as it is too. -/
theorem map_capitalizeStart_consHead {c : Char} (hspace : isWhiteSpace c = false)
    (hletter : isAlphabetic c = false) {ps : List Text} (hps : ps ≠ []) :
    (consHead c ps).map capitalizeStart = consHead c (capitalizeTail ps) := by
  cases ps with
  | nil => exact absurd rfl hps
  | cons p ps =>
    rw [consHead, List.map_cons, capitalizeStart_of_not_isWhiteSpace hspace, capitalizeFirst,
      hletter]
    rfl

theorem map_capitalizeStart_consHead_space {c : Char} (hc : isWhiteSpace c = true)
    {ps : List Text} (hps : ps ≠ []) :
    (consHead c ps).map capitalizeStart = consHead c (ps.map capitalizeStart) := by
  cases ps with
  | nil => exact absurd rfl hps
  | cons p ps =>
    rw [consHead, List.map_cons, capitalizeStart_of_isWhiteSpace hc]
    rfl

/-- Behind a splitter the text is cut before a character that belongs to none. -/
theorem cutAtMarks_true_unmarked (c : Char) (xs : List (Char × Bool)) :
    cutAtMarks true ((c, false) :: xs) = [] :: cutAtMarks false ((c, false) :: xs) := rfl

theorem exists_capitalizeMarks_unmarked (c : Char) (xs : List (Char × Bool)) :
    ∃ d ys, capitalizeMarks true ((c, false) :: xs) = (d, false) :: ys := by
  rw [capitalizeMarks]
  split
  · obtain ⟨d, ds, hupper⟩ := List.exists_cons_of_ne_nil (upperChar_ne_nil c)
    rw [hupper]
    exact ⟨d, _, rfl⟩
  · exact ⟨c, _, rfl⟩

/-- Unmarked text stands at the beginning of the first piece. -/
theorem cutAtMarks_unmarked_append {xs : List (Char × Bool)} {p : Text} {ps : List Text}
    (h : cutAtMarks false xs = p :: ps) (u : Text) :
    cutAtMarks false (u.map (·, false) ++ xs) = (u ++ p) :: ps := by
  induction u with
  | nil => exact h
  | cons c u ih =>
    rw [List.map_cons, List.cons_append, cutAtMarks, ih]
    rfl

/-- Raising the first letter of a marked text raises that of its first piece. -/
theorem cutAtMarks_raise {c : Char} (hc : isAlphabetic c = true) {xs ys : List (Char × Bool)}
    (h : cutAtMarks false ys = capitalizeTail (cutAtMarks false xs)) :
    cutAtMarks false ((upperChar c).map (·, false) ++ ys) =
      (cutAtMarks false ((c, false) :: xs)).map capitalizeStart := by
  obtain ⟨p, ps, hpieces⟩ := List.exists_cons_of_ne_nil (cutAtMarks_ne_nil false xs)
  have hspace : isWhiteSpace c = false := not_isWhiteSpace_of_isAlphabetic hc
  have hstart : capitalizeStart (c :: p) = upperChar c ++ p := by
    rw [capitalizeStart_of_not_isWhiteSpace hspace, capitalizeFirst, if_pos hc]
  rw [hpieces] at h
  rw [cutAtMarks_unmarked_append h, cutAtMarks, hpieces]
  show _ = capitalizeStart (c :: p) :: ps.map capitalizeStart
  rw [hstart]

/-- **The pieces of the capitalized text are those of the text, capitalized.** Where a piece has
begun already, it goes on as it is. -/
theorem cutAtMarks_capitalizeMarks {xs : List (Char × Bool)}
    (hxs : ∀ x ∈ xs, x.2 = true → isPunctuation x.1 = true) :
    cutAtMarks false (capitalizeMarks true xs) = (cutAtMarks false xs).map capitalizeStart ∧
      ∀ b, cutAtMarks b (capitalizeMarks b xs) = capitalizeTail (cutAtMarks b xs) := by
  -- a letter is awaited behind a splitter (`b = true`), or at the beginning of the text
  induction xs with
  | nil => exact ⟨rfl, fun b => rfl⟩
  | cons x xs ih =>
    obtain ⟨c, mark⟩ := x
    obtain ⟨hc, hxs⟩ := List.forall_mem_cons.1 hxs
    obtain ⟨hstart, htail⟩ := ih hxs
    cases mark with
    | true =>
      have hmarked : ∀ b pending, cutAtMarks b (capitalizeMarks pending ((c, true) :: xs)) =
          consHead c (capitalizeTail (cutAtMarks true xs)) := by
        intro b pending
        rw [capitalizeMarks, cutAtMarks, htail true, Bool.not_true, Bool.and_false]
        rfl
      have hpieces : ∀ b, cutAtMarks b ((c, true) :: xs) = consHead c (cutAtMarks true xs) := by
        intro b
        rw [cutAtMarks, Bool.not_true, Bool.and_false]
        rfl
      have hspace := not_isWhiteSpace_of_isPunctuation (hc rfl)
      have hletter := not_isAlphabetic_of_isPunctuation (hc rfl)
      refine ⟨?_, fun b => ?_⟩
      · rw [hmarked, hpieces,
          map_capitalizeStart_consHead hspace hletter (cutAtMarks_ne_nil true xs)]
      · rw [hmarked, hpieces, capitalizeTail_consHead c (cutAtMarks_ne_nil true xs)]
    | false =>
      have hfirst : cutAtMarks false (capitalizeMarks true ((c, false) :: xs)) =
          (cutAtMarks false ((c, false) :: xs)).map capitalizeStart := by
        rw [capitalizeMarks, Bool.true_and, Bool.true_and]
        split
        · rename_i hletter
          exact cutAtMarks_raise hletter (htail false)
        · rename_i hletter
          rw [Bool.not_eq_true] at hletter
          cases hspace : isWhiteSpace c with
          | true =>
            rw [cutAtMarks, hstart]
            exact (map_capitalizeStart_consHead_space hspace (cutAtMarks_ne_nil false xs)).symm
          | false =>
            rw [cutAtMarks, htail false]
            exact (map_capitalizeStart_consHead hspace hletter (cutAtMarks_ne_nil false xs)).symm
      refine ⟨hfirst, fun b => ?_⟩
      cases b with
      | true =>
        obtain ⟨d, ys, hys⟩ := exists_capitalizeMarks_unmarked c xs
        rw [hys] at hfirst ⊢
        rw [cutAtMarks_true_unmarked, cutAtMarks_true_unmarked, hfirst]
        rfl
      | false =>
        rw [capitalizeMarks, Bool.false_and, Bool.false_and, if_neg Bool.false_ne_true, cutAtMarks,
          htail false]
        exact (capitalizeTail_consHead c (cutAtMarks_ne_nil false xs)).symm

/-! ## Sentences -/

theorem capitalizeFirst_eq_nil_iff {t : Text} : capitalizeFirst t = [] ↔ t = [] := by
  cases t with
  | nil => exact Iff.rfl
  | cons c t =>
    rw [capitalizeFirst]
    split <;> simp [upperChar_ne_nil]

theorem capitalizeFirst_append {s : Text} (hne : s ≠ []) (t : Text) :
    capitalizeFirst (s ++ t) = capitalizeFirst s ++ t := by
  cases s with
  | nil => exact absurd rfl hne
  | cons c s =>
    rw [List.cons_append, capitalizeFirst, capitalizeFirst]
    split
    · rw [List.append_assoc]
    · rfl

theorem Trimmed.capitalizeFirst {t : Text} (h : Trimmed t) : Trimmed (capitalizeFirst t) := by
  cases t with
  | nil => exact h
  | cons c t =>
    rw [Text.capitalizeFirst]
    split
    · rename_i hc
      have hupper : ∀ d ∈ upperChar c, isWhiteSpace d = false :=
        fun d hd => not_isWhiteSpace_of_mem_upperChar (not_isWhiteSpace_of_isAlphabetic hc) hd
      constructor
      · intro d hd
        rw [List.head?_append_of_ne_nil _ (upperChar_ne_nil c)] at hd
        exact hupper d (List.mem_of_mem_head? hd)
      · intro d hd
        by_cases ht : t = []
        · rw [ht, List.append_nil] at hd
          exact hupper d (List.mem_of_getLast? hd)
        · rw [List.getLast?_append_of_ne_nil _ ht] at hd
          have hlast : (c :: t).getLast? = t.getLast? := List.getLast?_append_of_ne_nil [c] ht
          exact h.last d (hlast ▸ hd)
    · exact h

theorem capitalizeStart_append {s : Text} (hs : ∀ c ∈ s, isWhiteSpace c = true) (t : Text) :
    capitalizeStart (s ++ t) = s ++ capitalizeStart t := by
  induction s with
  | nil => rfl
  | cons c s ih =>
    obtain ⟨hc, hs⟩ := List.forall_mem_cons.1 hs
    rw [List.cons_append, capitalizeStart_of_isWhiteSpace hc, ih hs, List.cons_append]

/-- The first letter may be raised before or after trimming. -/
theorem trim_capitalizeStart (t : Text) : trim (capitalizeStart t) = capitalizeFirst (trim t) := by
  obtain ⟨before, after, ht, hbefore, hafter⟩ := exists_eq_append_trim t
  have htrim : trim (capitalizeFirst (trim t)) = capitalizeFirst (trim t) :=
    trim_of_trimmed (trimmed_trim t).capitalizeFirst
  cases hcore : trim t with
  | nil =>
    have hspace : ∀ c ∈ t, isWhiteSpace c = true := trim_eq_nil_iff.1 hcore
    have hstart : capitalizeStart t = t := by
      have happend := capitalizeStart_append hspace []
      rwa [List.append_nil, show capitalizeStart [] = [] from rfl, List.append_nil] at happend
    rw [hstart, hcore]
    rfl
  | cons c core =>
    have hc : isWhiteSpace c = false := by
      apply (trimmed_trim t).head
      rw [hcore]
      rfl
    have hstart : capitalizeStart t = before ++ (capitalizeFirst (c :: core) ++ after) := by
      rw [ht, hcore, List.append_assoc, capitalizeStart_append hbefore, List.cons_append,
        capitalizeStart_of_not_isWhiteSpace hc, ← List.cons_append,
        capitalizeFirst_append (List.cons_ne_nil c core)]
    rw [hstart, trim_append hbefore, trim_append_right hafter, ← hcore, htrim]

theorem nonempty_map_capitalizeFirst (ps : List Text) :
    nonempty (ps.map capitalizeFirst) = (nonempty ps).map capitalizeFirst := by
  unfold nonempty
  rw [List.filter_map]
  refine congrArg (List.map capitalizeFirst) (List.filter_congr fun p _ => ?_)
  have hempty : (capitalizeFirst p).isEmpty = p.isEmpty := by
    rw [Bool.eq_iff_iff, List.isEmpty_iff, List.isEmpty_iff, capitalizeFirst_eq_nil_iff]
  exact congrArg not hempty

/-- **Capitalizing the sentences of a text makes the first character of each of them uppercase**, if
that is a letter. The sentences begin and end where they did, and nothing else changes. -/
theorem sentences_capitalizeSentences {splitters : List Text} (hs : Punctuated splitters)
    (t : Text) :
    sentences splitters (capitalizeSentences splitters t) =
      (sentences splitters t).map capitalizeFirst := by
  have hmarked : ∀ x ∈ marks splitters t, x.2 = true → isPunctuation x.1 = true := by
    intro x hx htrue
    obtain ⟨s, hmem, hc⟩ := exists_mem_of_mem_marks hx htrue
    exact hs s hmem x.1 hc
  calc
    sentences splitters (capitalizeSentences splitters t)
      = nonempty ((cutAtMarks false (capitalizeMarks true (marks splitters t))).map trim) := by
        rw [sentences_eq, capitalizeSentences, marks_capitalizeMarked hs]
    _ = nonempty (((cutAtMarks false (marks splitters t)).map capitalizeStart).map trim) := by
        rw [(cutAtMarks_capitalizeMarks hmarked).1]
    _ = nonempty (((cutAtMarks false (marks splitters t)).map trim).map capitalizeFirst) := by
        rw [List.map_map, List.map_map]
        exact congrArg (fun f => nonempty (List.map f _)) (funext trim_capitalizeStart)
    _ = (sentences splitters t).map capitalizeFirst := nonempty_map_capitalizeFirst _

/-- A number stays as it is, and the first letter of the last sentence becomes two. -/
theorem sentences_capitalizeSentences_eszett :
    let splitters : List Text := [".".toList, "?!".toList, "?".toList]
    let t : Text := "...what?! 3 cats? ßt".toList
    Punctuated splitters ∧
      sentences splitters (capitalizeSentences splitters t) =
        (sentences splitters t).map capitalizeFirst ∧
      (sentences splitters t).map capitalizeFirst =
        ["...".toList, "What?!".toList, "3 cats?".toList, "SSt".toList] := by
  intro splitters t
  have hs : Punctuated splitters := by decide +kernel
  exact ⟨hs, sentences_capitalizeSentences hs t, by decide +kernel⟩

end Text

end Dialogue
