import Dialogue.Proofs.Text.Delimiter
import Dialogue.Proofs.Text.Occurrence

/-!
# What replacing does to a text

A text is divided at the occurrences of another one, each of which is the first in what the one
before it has left over, in one way only (`divides_iff`). Replacing puts the replacement between the
pieces in the place of what was found, and looks neither at it nor at what it forms together with
the text beside it (`replaceAll_divides`).
-/

namespace Dialogue.Text

/-! ## Dividing a text -/

/-- With the text to be found put behind the piece, it occurs at the end and nowhere else. -/
def EndsAtFirst (find piece : Text) : Prop :=
  ∀ earlier later, piece ++ find = earlier ++ find ++ later → later = []

/-- The text is made of pieces with the text to be found between any two: each piece but the last
ends where that occurs first, and it does not occur in the last one. -/
structure Divides (find t : Text) (pieces : List Text) (last : Text) : Prop where
  eq_join : t = join find (pieces ++ [last])
  endsAtFirst : ∀ piece ∈ pieces, EndsAtFirst find piece
  not_infix : ¬ find <:+: last

section Divides

variable {find t piece last before after : Text} {pieces : List Text}

theorem join_cons_concat (separator piece last : Text) (pieces : List Text) :
    join separator (piece :: pieces ++ [last]) =
      piece ++ separator ++ join separator (pieces ++ [last]) :=
  join_cons (List.append_ne_nil_of_right_ne_nil pieces (List.cons_ne_nil last []))

/-! ### Every cut divides -/

theorem endsAtFirst_of_breakOn (h : breakOn find t = some (before, after)) :
    EndsAtFirst find before := by
  intro earlier later hsplit
  have ht : t = earlier ++ find ++ (later ++ after) := by
    rw [eq_append_of_breakOn h, hsplit, List.append_assoc]
  have hle := (before_prefix_of_breakOn h ht).length_le
  have hlength := congrArg List.length hsplit
  simp only [List.length_append] at hlength
  exact List.eq_nil_of_length_eq_zero (by omega)

/-- A text can be divided: at the first occurrence, and then in what stands behind it. -/
theorem exists_divides (hfind : find ≠ []) (t : Text) :
    ∃ pieces last, Divides find t pieces last := by
  induction ht : t.length using Nat.strong_induction_on generalizing t with
  | _ n ih =>
    by_cases h : find <:+: t
    · obtain ⟨before, after, hbreak⟩ := exists_breakOn hfind h
      have hshorter : after.length < n := by
        have hle := length_of_breakOn hbreak
        have hpos := List.length_pos_iff.2 hfind
        omega
      obtain ⟨pieces, last, hrest⟩ := ih after.length hshorter after rfl
      refine ⟨before :: pieces, last, ?_, ?_, hrest.not_infix⟩
      · rw [join_cons_concat, ← hrest.eq_join, eq_append_of_breakOn hbreak]
      · exact List.forall_mem_cons.2 ⟨endsAtFirst_of_breakOn hbreak, hrest.endsAtFirst⟩
    · exact ⟨[], t, List.intercalate_singleton.symm, nofun, h⟩

/-! ### Whatever divides is the cut -/

/-- Nothing that is to be found begins inside such a piece. -/
theorem EndsAtFirst.not_begins (h : EndsAtFirst find piece) {c : Char} {tail : Text}
    (hsuffix : c :: tail <:+ piece) (rest : Text) : ¬ find <+: c :: tail ++ (find ++ rest) := by
  obtain ⟨earlier, hearlier⟩ := hsuffix
  intro hbegins
  rw [← List.append_assoc] at hbegins
  obtain ⟨later, hlater⟩ : find <+: c :: tail ++ find :=
    List.prefix_of_prefix_length_le hbegins (List.prefix_append _ rest)
      (by simp only [List.length_append]; omega)
  have hend := h earlier later (by rw [← hearlier, List.append_assoc, List.append_assoc, hlater])
  have hlength := congrArg List.length hlater
  rw [hend] at hlength
  simp only [List.length_append, List.length_cons, List.length_nil] at hlength
  omega

theorem EndsAtFirst.cut_eq_cons (h : EndsAtFirst find piece) (hfind : find ≠ []) (rest : Text) :
    cut find.isPrefixOf find.length (piece ++ find ++ rest) =
      piece :: cut find.isPrefixOf find.length rest := by
  have hnot : ∀ c tail, c :: tail <:+ piece →
      find.isPrefixOf (c :: tail ++ (find ++ rest)) = false := fun c tail hsuffix =>
    Bool.eq_false_iff.2 (mt List.isPrefixOf_iff_prefix.1 (h.not_begins hsuffix rest))
  rw [List.append_assoc, cut_append_of_not_hit hnot (cut_append hfind rest), List.append_nil]

theorem cut_of_not_infix (h : ¬ find <:+: t) : cut find.isPrefixOf find.length t = [t] := by
  apply cut_eq_singleton
  intro c tail hsuffix
  rw [Bool.eq_false_iff]
  exact fun hbegins => h ((List.isPrefixOf_iff_prefix.1 hbegins).isInfix.trans hsuffix.isInfix)

theorem Divides.cut_eq (h : Divides find t pieces last) (hfind : find ≠ []) :
    cut find.isPrefixOf find.length t = pieces ++ [last] := by
  obtain ⟨rfl, hpieces, hlast⟩ := h
  induction pieces with
  | nil =>
    rw [List.nil_append, join, List.intercalate_singleton]
    exact cut_of_not_infix hlast
  | cons piece pieces ih =>
    obtain ⟨hpiece, hrest⟩ := List.forall_mem_cons.1 hpieces
    rw [join_cons_concat, hpiece.cut_eq_cons hfind, ih hrest]
    rfl

/-- **A text is divided in one way only**, which is the cut at the occurrences from the left. -/
theorem divides_iff (hfind : find ≠ []) :
    Divides find t pieces last ↔ cut find.isPrefixOf find.length t = pieces ++ [last] := by
  refine ⟨fun h => h.cut_eq hfind, fun h => ?_⟩
  obtain ⟨pieces', last', hdivides⟩ := exists_divides hfind t
  have hsame := (hdivides.cut_eq hfind).symm.trans h
  obtain ⟨rfl, rfl⟩ := List.append_singleton_inj.1 hsame
  exact hdivides

theorem Divides.replaceAll_eq (h : Divides find t pieces last) (hfind : find ≠ [])
    (replacement : Text) : replaceAll find replacement t = join replacement (pieces ++ [last]) := by
  rw [Text.replaceAll_eq hfind, h.cut_eq hfind]

end Divides

/-! ## Replacing -/

/-- **Replacing puts the replacement in the place of what was found, and does nothing else.** There
is one way to divide a text such that each piece but the last ends where the text to be found first
occurs, and it does not occur in the last one. The result has the replacement between these pieces,
whatever the replacement is. Putting in what was found changes nothing, and an empty text is found
nowhere. -/
theorem replaceAll_divides (find t : Text) :
    (find ≠ [] → ∃ pieces last,
      (∀ pieces' last', Divides find t pieces' last' ↔ pieces' = pieces ∧ last' = last) ∧
      ∀ replacement, replaceAll find replacement t = join replacement (pieces ++ [last])) ∧
    replaceAll find find t = t ∧
    ∀ replacement, replaceAll [] replacement t = t := by
  refine ⟨fun hfind => ?_, ?_, fun _ => rfl⟩
  · obtain ⟨pieces, last, hdivides⟩ := exists_divides hfind t
    refine ⟨pieces, last, fun pieces' last' => ?_, hdivides.replaceAll_eq hfind⟩
    rw [divides_iff hfind, hdivides.cut_eq hfind, List.append_singleton_inj, eq_comm,
      eq_comm (a := last)]
  · by_cases hfind : find = []
    · rw [hfind]
      rfl
    · obtain ⟨pieces, last, hdivides⟩ := exists_divides hfind t
      rw [hdivides.replaceAll_eq hfind, ← hdivides.eq_join]

/-- The text to be found overlaps itself, and what is put in forms it again with the text behind. -/
theorem replaceAll_divides_overlapping :
    let find := "aba".toList
    let t := "ababaaba".toList
    find ≠ [] ∧ Divides find t [[], "ba".toList] [] ∧
      replaceAll find ['a'] t = "abaa".toList ∧ find <:+: replaceAll find ['a'] t := by
  intro find t
  have hfind : find ≠ [] := by decide
  obtain ⟨pieces, last, hunique, hreplace⟩ := (replaceAll_divides find t).1 hfind
  have hdivides : Divides find t [[], "ba".toList] [] := (divides_iff hfind).2 (by decide)
  obtain ⟨rfl, rfl⟩ := (hunique _ _).1 hdivides
  have hresult : replaceAll find ['a'] t = "abaa".toList := (hreplace ['a']).trans (by decide)
  exact ⟨hfind, hdivides, hresult, hresult ▸ ⟨[], ['a'], rfl⟩⟩

end Dialogue.Text
