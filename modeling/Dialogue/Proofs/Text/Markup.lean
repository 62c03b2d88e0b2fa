import Dialogue.Proofs.Text.Sentence
import Dialogue.Text.Normal

/-!
# Sentences and markup

A text with markup may be cut into sentences before its tags are taken away or afterwards. The
two orders agree as long as the tags keep apart from the ends of sentences: no sentence ends
inside a tag, and behind tags that follow a splitter the next sentence begins
(`sentences_removeMarkup`). A tag that is closed behind the last splitter breaks this. It is cut
off as a sentence of its own, in which nothing is said.
-/

namespace Dialogue.Text

open Unicode

variable {splitters : List Text} {c : Char}

/-! ## Trimming -/

theorem withoutTagsFrom_append {s : Text} (hs : '<' ∉ s) (t : Text) :
    withoutTagsFrom false (s ++ t) = s ++ withoutTagsFrom false t := by
  induction s with
  | nil => rfl
  | cons c s ih =>
    obtain ⟨hc, hs⟩ := not_or.1 (mt List.mem_cons.2 hs)
    rw [List.cons_append, withoutTagsFrom, if_neg (Ne.symm hc), if_neg Bool.false_ne_true, ih hs,
      List.cons_append]

/-- Behind a text the tags are taken away as well, from inside a tag or not. -/
theorem exists_withoutTagsFrom_append (inTag : Bool) (t s : Text) :
    ∃ inside, withoutTagsFrom inTag (t ++ s) =
      withoutTagsFrom inTag t ++ withoutTagsFrom inside s := by
  induction t generalizing inTag with
  | nil => exact ⟨inTag, rfl⟩
  | cons c t ih =>
    simp only [List.cons_append, withoutTagsFrom]
    split
    · exact ih true
    · split
      · exact ih _
      · obtain ⟨inside, h⟩ := ih false
        exact ⟨inside, congrArg (c :: ·) h⟩

/-- Behind a `>` the text goes on outside of tags. -/
theorem withoutTagsFrom_append_gt (inTag : Bool) (m t : Text) :
    withoutTagsFrom inTag (m ++ '>' :: t) =
      withoutTagsFrom inTag (m ++ ['>']) ++ withoutTagsFrom false t := by
  induction m generalizing inTag with
  | nil => cases inTag <;> rfl
  | cons c m ih =>
    simp only [List.cons_append, withoutTagsFrom]
    split
    · exact ih true
    · split
      · exact ih _
      · rw [ih false, List.cons_append]

theorem withoutTagsFrom_true_of_gt_not_mem {m : Text} (hm : '>' ∉ m) :
    withoutTagsFrom true (m ++ ['>']) = [] := by
  induction m with
  | nil => rfl
  | cons c m ih =>
    obtain ⟨hc, hm⟩ := not_or.1 (mt List.mem_cons.2 hm)
    have hopen : decide (c ≠ '>') = true := decide_eq_true (Ne.symm hc)
    rw [List.cons_append, withoutTagsFrom, hopen, ih hm, if_pos rfl, ite_self]

theorem withoutTagsFrom_subset (inTag : Bool) (t : Text) : withoutTagsFrom inTag t ⊆ t := by
  induction t generalizing inTag with
  | nil => exact List.Subset.refl _
  | cons c t ih =>
    rw [withoutTagsFrom]
    split
    · exact List.subset_cons_of_subset c (ih true)
    · split
      · exact List.subset_cons_of_subset c (ih _)
      · exact List.cons_subset_cons c (ih false)

/-- Trimming before the tags are taken away makes no difference. -/
theorem removeMarkup_trim (t : Text) : removeMarkup (trim t) = removeMarkup t := by
  have hopen : ¬ isWhiteSpace '<' = true := by decide
  obtain ⟨before, after, ht, hbefore, hafter⟩ := exists_eq_append_trim t
  obtain ⟨inside, hinside⟩ := exists_withoutTagsFrom_append false (trim t) after
  have hwithout : withoutTagsFrom false t =
      before ++ (withoutTagsFrom false (trim t) ++ withoutTagsFrom inside after) := by
    rw [← hinside, ← withoutTagsFrom_append (mt (hbefore '<') hopen), ← List.append_assoc, ← ht]
  rw [removeMarkup, removeMarkup, hwithout, trim_append hbefore,
    trim_append_right fun c hc => hafter c (withoutTagsFrom_subset inside after hc)]

/-! ## Tags in marked text -/

/-- Marked text without its tags; `inTag` says whether it begins inside one. -/
def visibleMarks (inTag : Bool) : List (Char × Bool) → List (Char × Bool)
  | [] => []
  | (c, mark) :: rest =>
    if c = '<' then visibleMarks true rest
    else if inTag then visibleMarks (c ≠ '>') rest
    else (c, mark) :: visibleMarks false rest

/-- The tags of marked text keep apart from the ends of its sentences: no splitter reaches into a
tag, and where tags follow a splitter, a character that belongs to none follows the tags. The
text begins inside a tag if `inTag`, behind a splitter if `afterSplitter`, and behind tags that
follow one if `pending`. -/
def tagsApart (inTag afterSplitter pending : Bool) : List (Char × Bool) → Bool
  | [] => !pending
  | (c, mark) :: rest =>
    if inTag || c == '<' then !mark && tagsApart (c ≠ '>') false (pending || afterSplitter) rest
    else !(pending && mark) && tagsApart false mark false rest

/-- The pieces of a text without their tags; `inTag` says whether the first one begins inside a
tag. -/
def visiblePieces (inTag : Bool) : List Text → List Text
  | [] => []
  | p :: ps => withoutTagsFrom inTag p :: ps.map (withoutTagsFrom false)

theorem visiblePieces_false (ps : List Text) :
    visiblePieces false ps = ps.map (withoutTagsFrom false) := by
  cases ps <;> rfl

theorem withoutTagsFrom_cons_of_tag {inTag : Bool} (hc : inTag = true ∨ c = '<') (t : Text) :
    withoutTagsFrom inTag (c :: t) = withoutTagsFrom (c ≠ '>') t := by
  by_cases hopen : c = '<'
  · subst hopen
    rfl
  · rw [withoutTagsFrom, if_neg hopen, if_pos (hc.resolve_right hopen)]

theorem visibleMarks_cons_of_tag {inTag mark : Bool} (hc : inTag = true ∨ c = '<')
    (xs : List (Char × Bool)) :
    visibleMarks inTag ((c, mark) :: xs) = visibleMarks (c ≠ '>') xs := by
  by_cases hopen : c = '<'
  · subst hopen
    rfl
  · rw [visibleMarks, if_neg hopen, if_pos (hc.resolve_right hopen)]

theorem visiblePieces_consHead_of_tag {inTag : Bool} (hc : inTag = true ∨ c = '<')
    {ps : List Text} (hps : ps ≠ []) :
    visiblePieces inTag (consHead c ps) = visiblePieces (c ≠ '>') ps := by
  cases ps with
  | nil => exact absurd rfl hps
  | cons p ps => rw [consHead, visiblePieces, withoutTagsFrom_cons_of_tag hc, visiblePieces]

theorem visiblePieces_consHead (hc : c ≠ '<') {ps : List Text} (hps : ps ≠ []) :
    visiblePieces false (consHead c ps) = consHead c (visiblePieces false ps) := by
  cases ps with
  | nil => exact absurd rfl hps
  | cons p ps =>
    rw [consHead, visiblePieces, withoutTagsFrom, if_neg hc, if_neg Bool.false_ne_true]
    rfl

/-- Cutting takes place between the same visible characters whether tags stand among them or
not. A cut in front of tags is the one behind them, so it is not made again there. -/
theorem cutAtMarks_visibleMarks {inTag afterSplitter pending : Bool} {xs : List (Char × Bool)}
    (h : tagsApart inTag afterSplitter pending xs = true)
    (hafter : afterSplitter = true → inTag = false ∧ pending = false) :
    cutAtMarks (afterSplitter || pending) (visibleMarks inTag xs) =
      (if pending then [[]] else []) ++ visiblePieces inTag (cutAtMarks afterSplitter xs) := by
  induction xs generalizing inTag afterSplitter pending with
  | nil =>
    obtain rfl : pending = false := by simpa [tagsApart] using h
    cases inTag <;> rfl
  | cons x xs ih =>
    obtain ⟨c, mark⟩ := x
    rw [tagsApart] at h
    by_cases htag : inTag = true ∨ c = '<'
    · -- the character is not seen; if it is the first of a tag behind a splitter, then the cut in
      -- front of it stays pending, and the visible text is cut behind the tag
      have hcond : (inTag || c == '<') = true := by simpa using htag
      rw [if_pos hcond, Bool.and_eq_true, Bool.not_eq_true'] at h
      obtain ⟨rfl, hrest⟩ := h
      have hcut := ih hrest nofun
      have hpieces := visiblePieces_consHead_of_tag htag (cutAtMarks_ne_nil false xs)
      rw [Bool.false_or] at hcut
      rw [visibleMarks_cons_of_tag htag, Bool.or_comm, hcut, ← hpieces, cutAtMarks]
      cases afterSplitter with
      | false => rw [Bool.or_false]; rfl
      | true =>
        obtain ⟨rfl, rfl⟩ := hafter rfl
        rw [visiblePieces_false, visiblePieces_false]
        rfl
    · -- the character is seen; a cut that is pending takes place here, as it is no splitter's
      obtain ⟨hin, hopen⟩ := not_or.1 htag
      obtain rfl : inTag = false := Bool.eq_false_of_not_eq_true hin
      have hcond : ¬ (false || c == '<') = true := by simpa using hopen
      rw [if_neg hcond, Bool.and_eq_true] at h
      obtain ⟨hmark, hrest⟩ := h
      have hcut := ih hrest fun _ => ⟨rfl, rfl⟩
      have hpieces := visiblePieces_consHead hopen (cutAtMarks_ne_nil mark xs)
      rw [Bool.or_false, if_neg Bool.false_ne_true, List.nil_append] at hcut
      rw [visibleMarks, if_neg hopen, if_neg Bool.false_ne_true, cutAtMarks, cutAtMarks, hcut,
        ← hpieces, visiblePieces_false, visiblePieces_false]
      cases pending with
      | false =>
        rw [Bool.or_false]
        split <;> rfl
      | true =>
        obtain rfl : mark = false := by simpa using hmark
        cases afterSplitter with
        | false => rfl
        | true => cases (hafter rfl).2

/-! ## Sentences without markup -/

/-- The markup of an entry keeps apart from the ends of its sentences. -/
structure MarkupApart (splitters : List Text) (entry : Text) : Prop where
  /-- The tags neither break splitters nor make them. -/
  visible : visibleMarks false (marks splitters entry) =
    marks splitters (withoutTagsFrom false entry)
  /-- No splitter reaches into a tag, and where tags follow a splitter, a sentence follows the
  tags. -/
  tags : tagsApart false false false (marks splitters entry) = true
  /-- No sentence consists of tags and white space. -/
  spoken : ∀ sentence ∈ sentences splitters entry, removeMarkup sentence ≠ []

/-- A splitter of one character is found where it stands, whatever follows. -/
theorem splitterAt_cons_of_single (hone : ∀ s ∈ splitters, s.length ≤ 1) (c : Char) (t : Text) :
    splitterAt splitters (c :: t) = splitterAt splitters [c] := by
  unfold splitterAt
  apply List.find?_congr
  intro s hs
  rcases s with - | ⟨d, - | ⟨e, s⟩⟩
  · rfl
  · simp [List.isPrefixOf]
  · exact absurd (hone _ hs) (by simp)

theorem marks_cons_of_single (hone : ∀ s ∈ splitters, s.length ≤ 1) (c : Char) (t : Text) :
    marks splitters (c :: t) =
      (c, (splitterAt splitters [c]).isSome) :: marks splitters t := by
  rw [marks, marksFrom, splitterAt_cons_of_single hone]
  cases h : splitterAt splitters [c] with
  | none => rfl
  | some s =>
    have hlength : s.length ≤ 1 := (prefix_of_splitterAt h).length_le
    dsimp only
    rw [Nat.sub_eq_zero_of_le hlength]
    rfl

/-- Tags neither break nor make splitters of one character. -/
theorem visibleMarks_marks (hone : ∀ s ∈ splitters, s.length ≤ 1) (inTag : Bool) (t : Text) :
    visibleMarks inTag (marks splitters t) = marks splitters (withoutTagsFrom inTag t) := by
  induction t generalizing inTag with
  | nil => rfl
  | cons c t ih =>
    rw [marks_cons_of_single hone, visibleMarks, withoutTagsFrom]
    split
    · exact ih true
    · split
      · exact ih _
      · rw [marks_cons_of_single hone, ih]

/-- Taking the tags away from what is not empty, and dropping what is empty then. -/
theorem nonempty_map_removeMarkup (ps : List Text) :
    nonempty ((nonempty ps).map removeMarkup) = nonempty (ps.map removeMarkup) := by
  induction ps with
  | nil => rfl
  | cons p ps ih =>
    cases p with
    | nil => exact ih
    | cons c p =>
      show nonempty ((((c :: p) :: nonempty ps)).map removeMarkup) = _
      rw [List.map_cons, List.map_cons, ← List.singleton_append, nonempty_append, ih,
        ← nonempty_append, List.singleton_append]

/-- **The sentences of an entry without markup are its sentences, each without markup.** -/
theorem sentences_removeMarkup (hs : Unspaced splitters) {entry : Text}
    (h : MarkupApart splitters entry) :
    sentences splitters (removeMarkup entry) = (sentences splitters entry).map removeMarkup := by
  have hcut := cutAtMarks_visibleMarks h.tags nofun
  rw [Bool.false_or, if_neg Bool.false_ne_true, List.nil_append, visiblePieces_false, h.visible]
    at hcut
  have htrim : removeMarkup ∘ trim = removeMarkup := funext removeMarkup_trim
  calc sentences splitters (removeMarkup entry)
      = sentences splitters (withoutTagsFrom false entry) := sentences_trim hs _
    _ = nonempty ((cutAtMarks false (marks splitters entry)).map removeMarkup) := by
        rw [sentences_eq, hcut, List.map_map]
        rfl
    _ = nonempty ((sentences splitters entry).map removeMarkup) := by
        rw [sentences_eq, nonempty_map_removeMarkup, List.map_map, htrim]
    _ = (sentences splitters entry).map removeMarkup := by
        apply nonempty_of_forall
        intro p hp
        obtain ⟨sentence, hmem, rfl⟩ := List.mem_map.1 hp
        exact h.spoken sentence hmem

end Dialogue.Text
