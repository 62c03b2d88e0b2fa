import Dialogue.Proofs.Text.Sentence

/-!
# Nothing is lost between sentences

A text is cut only behind splitters, and only white space goes when its pieces are trimmed. So the
sentences have all characters of the text in order but for white space, each of them but the last
one ends with a splitter, and each of them is one sentence (`sentences_lossless`).
-/

namespace Dialogue.Text

open Unicode

/-! ## What a trimmed text keeps -/

def squeeze (t : Text) : Text := t.filter fun c => !isWhiteSpace c

theorem squeeze_append (s t : Text) : squeeze (s ++ t) = squeeze s ++ squeeze t :=
  List.filter_append s t

theorem squeeze_of_forall {t : Text} (h : ∀ c ∈ t, isWhiteSpace c = true) : squeeze t = [] := by
  apply List.filter_eq_nil_iff.2
  intro c hc
  simp [h c hc]

/-- Trimming takes away nothing but white space. -/
theorem squeeze_trim (t : Text) : squeeze (trim t) = squeeze t := by
  obtain ⟨before, after, ht, hbefore, hafter⟩ := exists_eq_append_trim t
  have h := congrArg squeeze ht
  rw [squeeze_append, squeeze_append, squeeze_of_forall hbefore, squeeze_of_forall hafter,
    List.nil_append, List.append_nil] at h
  exact h.symm

theorem squeeze_flatten_map_trim (ps : List Text) :
    squeeze (ps.map trim).flatten = squeeze ps.flatten := by
  induction ps with
  | nil => rfl
  | cons p ps ih =>
    rw [List.map_cons, List.flatten_cons, List.flatten_cons, squeeze_append, squeeze_append, ih,
      squeeze_trim]

/-- Trimming does not reach into a trimmed text at the end. -/
theorem trim_append_of_trimmed {s : Text} (hne : s ≠ []) (hs : Trimmed s) (t : Text) :
    trim (t ++ s) = trimStart t ++ s := by
  have hstart : trimStart (t ++ s) = trimStart t ++ s := by
    rw [trimStart, trimStart, List.dropWhile_append]
    split
    · rename_i hempty
      rw [List.isEmpty_iff.1 hempty]
      exact trimStart_of_head hs.head
    · rfl
  rw [trim, hstart]
  apply List.rdropWhile_eq_self_iff.2
  intro _
  have hlast := hs.last _ (List.getLast?_eq_some_getLast hne)
  rw [List.getLast_append_of_ne_nil _ hne, hlast]
  exact Bool.false_ne_true

/-- What stands before the last of some elements that are kept stands before the last one. -/
theorem mem_dropLast_of_sublist {α : Type} {xs ys : List α} (h : xs.Sublist ys) {x : α}
    (hx : x ∈ xs.dropLast) : x ∈ ys.dropLast := by
  have hdrop : xs.dropLast.Sublist ys.dropLast := by
    rw [← List.reverse_sublist, ← List.tail_reverse, ← List.tail_reverse]
    exact h.reverse.tail
  exact hdrop.subset hx

/-! ## Where a sentence ends -/

section Ends

variable {splitters : List Text}

theorem getLast?_append_marks {xs : List (Char × Bool)} {t : Text} (ht : t ≠ []) :
    (xs ++ marks splitters t).getLast? = (marks splitters t).getLast? := by
  apply List.getLast?_append_of_ne_nil
  intro hnil
  have hmap := map_fst_marks splitters t
  rw [hnil] at hmap
  exact ht hmap.symm

/-- A text whose last character belongs to a splitter ends with a whole one. -/
theorem EndsInSplitter.exists_suffix {t : Text} (h : EndsInSplitter splitters t) :
    ∃ s ∈ splitters, s ≠ [] ∧ s <:+ t := by
  induction t using scan_induction splitters with
  | nil => exact absurd rfl h.ne_nil
  | splitter s rest hfound ih =>
    by_cases hrest : rest = []
    · subst hrest
      obtain ⟨hmem, hne⟩ := mem_of_splitterAt hfound
      exact ⟨s, hmem, hne, by rw [List.append_nil]⟩
    · rw [EndsInSplitter, marks_of_some hfound, getLast?_append_marks hrest] at h
      obtain ⟨r, hmem, hne, hsuffix⟩ := ih h
      exact ⟨r, hmem, hne, hsuffix.trans (List.suffix_append s rest)⟩
  | other c rest hnone ih =>
    rw [EndsInSplitter, marks_of_none hnone] at h
    by_cases hrest : rest = []
    · subst hrest
      cases h
    · rw [← List.singleton_append, getLast?_append_marks hrest] at h
      obtain ⟨r, hmem, hne, hsuffix⟩ := ih h
      exact ⟨r, hmem, hne, hsuffix.trans (List.suffix_cons c rest)⟩

/-- A text is cut behind splitters only. -/
theorem endsInSplitter_of_mem_dropLast {t p : Text}
    (h : p ∈ (cutAtMarks false (marks splitters t)).dropLast) : EndsInSplitter splitters p := by
  revert h
  induction t using pieces_induction splitters with
  | one q hq => exact fun h => absurd h List.not_mem_nil
  | more q behind ps hends hq ih hne =>
    intro h
    rw [List.dropLast_cons_of_ne_nil hne] at h
    rcases List.mem_cons.1 h with rfl | h
    · exact hends
    · exact ih h

/-- A sentence with another one behind it ends with a splitter. -/
theorem exists_suffix_of_mem_dropLast (hs : Unspaced splitters) {t sentence : Text}
    (h : sentence ∈ (sentences splitters t).dropLast) :
    ∃ s ∈ splitters, s ≠ [] ∧ s <:+ sentence := by
  have hpiece : sentence ∈ ((cutAtMarks false (marks splitters t)).map trim).dropLast :=
    mem_dropLast_of_sublist List.filter_sublist h
  rw [← List.map_dropLast] at hpiece
  obtain ⟨p, hp, rfl⟩ := List.mem_map.1 hpiece
  obtain ⟨s, hmem, hne, before, rfl⟩ := (endsInSplitter_of_mem_dropLast hp).exists_suffix
  have hspace : ∀ c ∈ s, isWhiteSpace c = false := by
    intro c hc
    exact Bool.eq_false_iff.2 (List.any_eq_false.1 (hs s hmem) c hc)
  have htrimmed : Trimmed s :=
    { head := fun c hc => hspace c (List.mem_of_mem_head? hc)
      last := fun c hc => hspace c (List.mem_of_getLast? hc) }
  refine ⟨s, hmem, hne, ?_⟩
  rw [trim_append_of_trimmed hne htrimmed]
  exact List.suffix_append _ s

end Ends

/-- **Cutting a text into sentences loses nothing and is stable.** No sentence is empty or has white
space at its ends; together they have all characters of the text but for white space; a sentence
with another one behind it ends with a splitter; and each of them is one sentence. -/
theorem sentences_lossless {splitters : List Text} (hs : Unspaced splitters) (t : Text) :
    (∀ s ∈ sentences splitters t, s ≠ [] ∧ trim s = s) ∧
      squeeze (sentences splitters t).flatten = squeeze t ∧
      (∀ s ∈ (sentences splitters t).dropLast, ∃ r ∈ splitters, r ≠ [] ∧ r <:+ s) ∧
      ∀ s ∈ sentences splitters t, sentences splitters s = [s] := by
  refine ⟨fun s h => ?_, ?_, fun s h => exists_suffix_of_mem_dropLast hs h,
    fun s h => sentences_of_mem hs h⟩
  · rw [sentences_eq] at h
    obtain ⟨hmem, hne⟩ := mem_nonempty.1 h
    obtain ⟨p, -, rfl⟩ := List.mem_map.1 hmem
    exact ⟨hne, trim_of_trimmed (trimmed_trim p)⟩
  · calc
      squeeze (sentences splitters t).flatten
        = squeeze ((cutAtMarks false (marks splitters t)).map trim).flatten :=
          congrArg squeeze List.flatten_filter_not_isEmpty
      _ = squeeze (cutAtMarks false (marks splitters t)).flatten := squeeze_flatten_map_trim _
      _ = squeeze t := by rw [flatten_pieces]

/-- Of these splitters one is empty and one begins with another. -/
theorem sentences_lossless_hm :
    let splitters : List Text := [[], ".".toList, "?!".toList, "..".toList]
    let t : Text := " Hm... what?! . No ?".toList
    Unspaced splitters ∧
      sentences splitters t = ["Hm...".toList, "what?!".toList, ".".toList, "No ?".toList] ∧
      squeeze (sentences splitters t).flatten = squeeze t ∧
      (∃ r ∈ splitters, r ≠ [] ∧ r <:+ "what?!".toList) ∧
      sentences splitters "what?!".toList = ["what?!".toList] := by
  intro splitters t
  have hs : Unspaced splitters := by
    unfold Unspaced
    decide +kernel
  have ht : sentences splitters t =
      ["Hm...".toList, "what?!".toList, ".".toList, "No ?".toList] := by decide +kernel
  obtain ⟨-, hsqueeze, hends, hone⟩ := sentences_lossless hs t
  rw [ht] at hends hone
  exact ⟨hs, ht, hsqueeze, hends _ (by decide), hone _ (by decide)⟩

end Dialogue.Text
