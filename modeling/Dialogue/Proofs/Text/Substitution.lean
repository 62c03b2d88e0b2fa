import Dialogue.Proofs.Text.Occurrence
import Mathlib.Data.List.Forall2
import Mathlib.Data.List.Infix

/-!
# Nothing is substituted twice

A table is substituted up to case rule by rule: a rule takes its matches from the left in each
stretch of the text that no rule before it has taken, and leaves the other stretches as they are.
So the given text falls apart into stretches that are kept and matches between them (`Division`),
each rule divides what is kept further (`Refines`), and the result is the given text with the
replacement of its rule in the place of each match (`substituteIgnoreCase_once`). What a rule puts
in is not seen by the rules behind it, nor is it joined to the text beside it.
-/

namespace Dialogue.Text

open Unicode

/-! ## Matches -/

def SameUpToCase : Text → Text → Prop := List.Forall₂ fun c d => foldChar c = foldChar d

def OccursIn (find t : Text) : Prop := ∃ matched, SameUpToCase find matched ∧ matched <:+: t

/-- The leftmost match of a text in another, what stands before it and what stands behind it. -/
structure FirstMatch (find t before matched after : Text) : Prop where
  eq_append : t = before ++ matched ++ after
  sameUpToCase : SameUpToCase find matched
  leftmost : ∀ earlier other later, t = earlier ++ other ++ later → SameUpToCase find other →
    before.length ≤ earlier.length

section Match

variable {find t before matched after : Text}

theorem isPrefixOfFold_iff :
    isPrefixOfFold find t = true ↔ ∃ matched, SameUpToCase find matched ∧ matched <+: t := by
  induction find generalizing t with
  | nil => exact iff_of_true (by rw [isPrefixOfFold]) ⟨[], .nil, List.nil_prefix⟩
  | cons c find ih =>
    cases t with
    | nil =>
      refine iff_of_false (by rw [isPrefixOfFold]; exact Bool.false_ne_true) ?_
      rintro ⟨matched, hsame, hbegins⟩
      obtain rfl := List.prefix_nil.1 hbegins
      cases hsame
    | cons d t =>
      rw [isPrefixOfFold, Bool.and_eq_true, ih, sameFold, beq_iff_eq]
      constructor
      · rintro ⟨hfold, matched, hsame, hbegins⟩
        exact ⟨d :: matched, .cons hfold hsame, List.cons_prefix_cons.2 ⟨rfl, hbegins⟩⟩
      · rintro ⟨matched, hsame, hbegins⟩
        cases hsame with
        | cons hfold hsame =>
          obtain ⟨rfl, hrest⟩ := List.cons_prefix_cons.1 hbegins
          exact ⟨hfold, _, hsame, hrest⟩

theorem SameUpToCase.ne_nil (h : SameUpToCase find matched) (hfind : find ≠ []) :
    matched ≠ [] := by
  rintro rfl
  cases h
  exact hfind rfl

theorem OccursIn.mono {s : Text} (h : OccursIn find s) (hs : s <:+: t) : OccursIn find t := by
  obtain ⟨matched, hsame, hinfix⟩ := h
  exact ⟨matched, hsame, hinfix.trans hs⟩

theorem exists_firstMatch (h : OccursIn find t) :
    ∃ before matched after, FirstMatch find t before matched after := by
  obtain ⟨found, hfound, hinfix⟩ := h
  induction t with
  | nil =>
    obtain rfl := List.infix_nil.1 hinfix
    exact ⟨[], [], [], rfl, hfound, fun _ _ _ _ _ => Nat.zero_le _⟩
  | cons c t ih =>
    by_cases hbegins : ∃ matched, SameUpToCase find matched ∧ matched <+: c :: t
    · obtain ⟨matched, hsame, after, hafter⟩ := hbegins
      exact ⟨[], matched, after, hafter.symm, hsame, fun _ _ _ _ _ => Nat.zero_le _⟩
    · have hrest : found <:+: t :=
        (List.infix_cons_iff.1 hinfix).resolve_left fun h => hbegins ⟨found, hfound, h⟩
      obtain ⟨before, matched, after, rfl, hsame, hleftmost⟩ := ih hrest
      refine ⟨c :: before, matched, after, rfl, hsame, fun earlier other later hsplit hother => ?_⟩
      cases earlier with
      | nil => exact absurd ⟨other, hother, later, hsplit.symm⟩ hbegins
      | cons d earlier =>
        exact Nat.succ_le_succ (hleftmost earlier other later (List.cons.inj hsplit).2 hother)

namespace FirstMatch

theorem occursIn (h : FirstMatch find t before matched after) : OccursIn find t :=
  ⟨matched, h.sameUpToCase, before, after, h.eq_append.symm⟩

theorem unique (h : FirstMatch find t before matched after) {before' matched' after' : Text}
    (h' : FirstMatch find t before' matched' after') :
    before = before' ∧ matched = matched' ∧ after = after' := by
  have hlength : before.length = before'.length :=
    le_antisymm (h.leftmost _ _ _ h'.eq_append h'.sameUpToCase)
      (h'.leftmost _ _ _ h.eq_append h.sameUpToCase)
  have hmatched : matched.length = matched'.length :=
    h.sameUpToCase.length_eq.symm.trans h'.sameUpToCase.length_eq
  have hsplit := h.eq_append.symm.trans h'.eq_append
  rw [List.append_assoc, List.append_assoc] at hsplit
  obtain ⟨rfl, hrest⟩ := List.append_inj hsplit hlength
  exact ⟨rfl, List.append_inj hrest hmatched⟩

theorem not_occursIn_before (h : FirstMatch find t before matched after) (hfind : find ≠ []) :
    ¬ OccursIn find before := by
  rintro ⟨other, hother, earlier, later, rfl⟩
  have hle := h.leftmost earlier other (later ++ matched ++ after)
    (by rw [h.eq_append]; simp only [List.append_assoc]) hother
  have hpos := List.length_pos_iff.2 (hother.ne_nil hfind)
  simp only [List.length_append] at hle
  omega

/-- No match begins before the first one. -/
theorem not_begins_before (h : FirstMatch find t before matched after) {c : Char} {tail : Text}
    (hsuffix : c :: tail <:+ before) :
    isPrefixOfFold find (c :: tail ++ (matched ++ after)) = false := by
  rw [Bool.eq_false_iff]
  intro hbegins
  obtain ⟨other, hother, later, hlater⟩ := isPrefixOfFold_iff.1 hbegins
  obtain ⟨earlier, rfl⟩ := hsuffix
  have hsplit : t = earlier ++ other ++ later := by
    rw [List.append_assoc, hlater, h.eq_append]
    simp only [List.append_assoc]
  have hle := h.leftmost earlier other later hsplit hother
  simp only [List.length_append, List.length_cons] at hle
  omega

theorem length_after_lt (h : FirstMatch find t before matched after) (hfind : find ≠ []) :
    after.length < t.length := by
  have hpos := List.length_pos_iff.2 (h.sameUpToCase.ne_nil hfind)
  rw [h.eq_append, List.length_append, List.length_append]
  omega

/-- The first piece ends where the first match begins. -/
theorem cut_eq (h : FirstMatch find t before matched after) (hfind : find ≠ []) :
    cut (isPrefixOfFold find) find.length t =
      before :: cut (isPrefixOfFold find) find.length after := by
  have hbegins : isPrefixOfFold find (matched ++ after) = true :=
    isPrefixOfFold_iff.2 ⟨matched, h.sameUpToCase, List.prefix_append _ _⟩
  have hrest := cut_of_hit (h.sameUpToCase.ne_nil hfind) h.sameUpToCase.length_eq.symm hbegins
  have hcut := cut_append_of_not_hit (fun c tail hsuffix => h.not_begins_before hsuffix) hrest
  rw [h.eq_append, List.append_assoc, hcut, List.append_nil]

end FirstMatch

theorem cut_of_not_occursIn (h : ¬ OccursIn find t) :
    cut (isPrefixOfFold find) find.length t = [t] := by
  apply cut_eq_singleton
  intro c tail hsuffix
  rw [Bool.eq_false_iff]
  intro hbegins
  obtain ⟨matched, hsame, hprefix⟩ := isPrefixOfFold_iff.1 hbegins
  exact h ⟨matched, hsame, hprefix.isInfix.trans hsuffix.isInfix⟩

end Match

/-! ## Divisions -/

/-- What a rule has taken of a text. -/
structure Hit where
  rule : Text × Text
  matched : Text

/-- A text taken apart: stretches that are kept, and between any two of them what a rule took. -/
inductive Division where
  | kept (text : Text)
  | taken (text : Text) (hit : Hit) (rest : Division)

namespace Division

def original : Division → Text
  | kept t => t
  | taken t hit rest => t ++ hit.matched ++ rest.original

/-- The text with a replacement in the place of whatever was taken. -/
def replaced : Division → Text
  | kept t => t
  | taken t hit rest => t ++ hit.rule.2 ++ rest.replaced

def keptTexts : Division → List Text
  | kept t => [t]
  | taken t _ rest => t :: rest.keptTexts

def hits : Division → List Hit
  | kept _ => []
  | taken _ hit rest => hit :: rest.hits

def mapKept (f : Text → Text) : Division → Division
  | kept t => kept (f t)
  | taken t hit rest => taken (f t) hit (rest.mapKept f)

def followedBy : Division → Hit → Division → Division
  | kept t, hit, later => taken t hit later
  | taken t hit' rest, hit, later => taken t hit' (rest.followedBy hit later)

def fragments : Division → List Fragment
  | kept t => [.untouched t]
  | taken t hit rest => .untouched t :: .replaced hit.rule.2 :: rest.fragments

variable (hit : Hit) (d later : Division)

theorem original_followedBy :
    (d.followedBy hit later).original = d.original ++ hit.matched ++ later.original := by
  induction d with
  | kept t => rfl
  | taken t hit' rest ih => simp only [followedBy, original, ih, List.append_assoc]

theorem keptTexts_followedBy :
    (d.followedBy hit later).keptTexts = d.keptTexts ++ later.keptTexts := by
  induction d with
  | kept t => rfl
  | taken t hit' rest ih => simp only [followedBy, keptTexts, ih, List.cons_append]

theorem hits_followedBy : (d.followedBy hit later).hits = d.hits ++ hit :: later.hits := by
  induction d with
  | kept t => rfl
  | taken t hit' rest ih => simp only [followedBy, hits, ih, List.cons_append]

theorem fragments_followedBy : (d.followedBy hit later).fragments =
    d.fragments ++ .replaced hit.rule.2 :: later.fragments := by
  induction d with
  | kept t => rfl
  | taken t hit' rest ih => simp only [followedBy, fragments, ih, List.cons_append]

theorem flatMap_text_fragments : d.fragments.flatMap Fragment.text = d.replaced := by
  induction d with
  | kept t => exact List.append_nil t
  | taken t hit rest ih =>
    rw [fragments, List.flatMap_cons, List.flatMap_cons, ih, replaced, List.append_assoc]
    rfl

end Division

/-! ## The rules -/

/-- A rule takes its matches in a text from the left: the leftmost one, and then the leftmost one
in what stands behind it, until there is none. -/
inductive Takes (rule : Text × Text) : Text → Division → Prop
  | none {t : Text} : ¬ OccursIn rule.1 t → Takes rule t (.kept t)
  | first {t before matched after : Text} {d : Division} :
      FirstMatch rule.1 t before matched after → Takes rule after d →
      Takes rule t (.taken before ⟨rule, matched⟩ d)

/-- A rule takes its matches in each stretch that is kept. What was taken before stays. -/
inductive Refines (rule : Text × Text) : Division → Division → Prop
  | kept {t : Text} {d : Division} : Takes rule t d → Refines rule (.kept t) d
  | taken {t : Text} {hit : Hit} {d rest rest' : Division} : Takes rule t d →
      Refines rule rest rest' → Refines rule (.taken t hit rest) (d.followedBy hit rest')

/-- The rules of a table refine a division one after the other. A rule without a text to find is
skipped. -/
inductive RefinesInOrder : SubstitutionTable → Division → Division → Prop
  | nil (d : Division) : RefinesInOrder [] d d
  | skip {rule : Text × Text} {table : SubstitutionTable} {d d' : Division} : rule.1 = [] →
      RefinesInOrder table d d' → RefinesInOrder (rule :: table) d d'
  | cons {rule : Text × Text} {table : SubstitutionTable} {d d' d'' : Division} : rule.1 ≠ [] →
      Refines rule d d' → RefinesInOrder table d' d'' → RefinesInOrder (rule :: table) d d''

/-! ### One rule in a text -/

section Takes

variable {rule : Text × Text} {t : Text} {d d' : Division}

theorem exists_takes (hfind : rule.1 ≠ []) (t : Text) : ∃ d, Takes rule t d := by
  induction ht : t.length using Nat.strong_induction_on generalizing t with
  | _ n ih =>
    by_cases h : OccursIn rule.1 t
    · obtain ⟨before, matched, after, hfirst⟩ := exists_firstMatch h
      obtain ⟨d, hd⟩ := ih after.length (ht ▸ hfirst.length_after_lt hfind) after rfl
      exact ⟨_, .first hfirst hd⟩
    · exact ⟨_, .none h⟩

namespace Takes

theorem unique (h : Takes rule t d) (h' : Takes rule t d') : d = d' := by
  induction h generalizing d' with
  | none hnone =>
    cases h' with
    | none _ => rfl
    | first hfirst _ => exact absurd hfirst.occursIn hnone
  | first hfirst _ ih =>
    cases h' with
    | none hnone => exact absurd hfirst.occursIn hnone
    | first hfirst' hafter =>
      obtain ⟨rfl, rfl, rfl⟩ := hfirst.unique hfirst'
      rw [ih hafter]

theorem original_eq (h : Takes rule t d) : d.original = t := by
  induction h with
  | none _ => rfl
  | first hfirst _ ih => rw [Division.original, ih, hfirst.eq_append]

theorem of_mem_hits (h : Takes rule t d) {hit : Hit} (hhit : hit ∈ d.hits) :
    hit.rule = rule ∧ SameUpToCase rule.1 hit.matched := by
  induction h with
  | none _ => cases hhit
  | first hfirst _ ih =>
    rcases List.mem_cons.1 hhit with rfl | hhit
    · exact ⟨rfl, hfirst.sameUpToCase⟩
    · exact ih hhit

theorem of_mem_keptTexts (h : Takes rule t d) (hfind : rule.1 ≠ []) {u : Text}
    (hu : u ∈ d.keptTexts) : ¬ OccursIn rule.1 u ∧ u <:+: t := by
  induction h with
  | none hnone =>
    obtain rfl := List.mem_singleton.1 hu
    exact ⟨hnone, List.infix_refl _⟩
  | first hfirst _ ih =>
    rw [hfirst.eq_append]
    rcases List.mem_cons.1 hu with rfl | hu
    · refine ⟨hfirst.not_occursIn_before hfind, ?_⟩
      rw [List.append_assoc]
      exact (List.prefix_append _ _).isInfix
    · exact ⟨(ih hu).1, (ih hu).2.trans (List.suffix_append _ _).isInfix⟩

/-- The fragments of a text under a rule are those of its division. -/
theorem substitute_eq (h : Takes rule t d) (hfind : rule.1 ≠ []) :
    Fragment.substitute rule.1 rule.2 (.untouched t) = d.fragments := by
  induction h with
  | none hnone =>
    rw [Fragment.substitute, cut_of_not_occursIn hnone]
    rfl
  | @first t before matched after d hfirst _ ih =>
    rw [Fragment.substitute] at ih ⊢
    obtain ⟨piece, pieces, hpieces⟩ := List.exists_cons_of_ne_nil
      (cut_ne_nil (isPrefixOfFold rule.1) rule.1.length after)
    rw [hfirst.cut_eq hfind, hpieces]
    rw [hpieces] at ih
    exact congrArg (Fragment.untouched before :: Fragment.replaced rule.2 :: ·) ih

end Takes

end Takes

/-! ### One rule in a division -/

section Refines

variable {rule : Text × Text} {d d' d'' : Division}

theorem exists_refines (hfind : rule.1 ≠ []) (d : Division) : ∃ d', Refines rule d d' := by
  induction d with
  | kept t =>
    obtain ⟨d', hd'⟩ := exists_takes hfind t
    exact ⟨d', .kept hd'⟩
  | taken t hit rest ih =>
    obtain ⟨d', hd'⟩ := exists_takes hfind t
    obtain ⟨rest', hrest'⟩ := ih
    exact ⟨_, .taken hd' hrest'⟩

namespace Refines

theorem unique (h : Refines rule d d') (h' : Refines rule d d'') : d' = d'' := by
  induction h generalizing d'' with
  | kept htakes =>
    cases h' with
    | kept htakes' => exact htakes.unique htakes'
  | taken htakes _ ih =>
    cases h' with
    | taken htakes' hrest => rw [htakes.unique htakes', ih hrest]

theorem original_eq (h : Refines rule d d') : d'.original = d.original := by
  induction h with
  | kept htakes => exact htakes.original_eq
  | taken htakes _ ih =>
    rw [Division.original_followedBy, htakes.original_eq, ih, Division.original]

theorem of_mem_hits (h : Refines rule d d') {hit : Hit} (hhit : hit ∈ d'.hits) :
    hit ∈ d.hits ∨ hit.rule = rule ∧ SameUpToCase rule.1 hit.matched := by
  induction h with
  | kept htakes => exact .inr (htakes.of_mem_hits hhit)
  | taken htakes _ ih =>
    rw [Division.hits_followedBy] at hhit
    rcases List.mem_append.1 hhit with hhit | hhit
    · exact .inr (htakes.of_mem_hits hhit)
    · rcases List.mem_cons.1 hhit with rfl | hhit
      · exact .inl List.mem_cons_self
      · exact (ih hhit).imp_left (List.mem_cons_of_mem _)

/-- What is still kept has no match of the rule, and lies in what was kept before. -/
theorem of_mem_keptTexts (h : Refines rule d d') (hfind : rule.1 ≠ []) {u : Text}
    (hu : u ∈ d'.keptTexts) : ¬ OccursIn rule.1 u ∧ ∃ v ∈ d.keptTexts, u <:+: v := by
  induction h with
  | kept htakes =>
    obtain ⟨hnot, hinfix⟩ := htakes.of_mem_keptTexts hfind hu
    exact ⟨hnot, _, List.mem_singleton_self _, hinfix⟩
  | taken htakes _ ih =>
    rw [Division.keptTexts_followedBy] at hu
    rcases List.mem_append.1 hu with hu | hu
    · obtain ⟨hnot, hinfix⟩ := htakes.of_mem_keptTexts hfind hu
      exact ⟨hnot, _, List.mem_cons_self, hinfix⟩
    · obtain ⟨hnot, v, hv, hinfix⟩ := ih hu
      exact ⟨hnot, v, List.mem_cons_of_mem _ hv, hinfix⟩

theorem flatMap_substitute_eq (h : Refines rule d d') (hfind : rule.1 ≠ []) :
    d.fragments.flatMap (Fragment.substitute rule.1 rule.2) = d'.fragments := by
  induction h with
  | kept htakes =>
    rw [Division.fragments, List.flatMap_singleton, htakes.substitute_eq hfind]
  | taken htakes _ ih =>
    rw [Division.fragments, List.flatMap_cons, List.flatMap_cons, htakes.substitute_eq hfind, ih,
      Division.fragments_followedBy]
    rfl

end Refines

end Refines

/-! ### The table -/

theorem substituteFragments_cons {rule : Text × Text} (hfind : rule.1 ≠ [])
    (table : SubstitutionTable) (fs : List Fragment) :
    substituteFragments (rule :: table) fs =
      substituteFragments table (fs.flatMap (Fragment.substitute rule.1 rule.2)) := by
  rw [substituteFragments, List.foldl_cons, if_neg (mt List.isEmpty_iff.1 hfind)]
  rfl

theorem substituteFragments_skip {rule : Text × Text} (hfind : rule.1 = [])
    (table : SubstitutionTable) (fs : List Fragment) :
    substituteFragments (rule :: table) fs = substituteFragments table fs := by
  rw [substituteFragments, List.foldl_cons, if_pos (List.isEmpty_iff.2 hfind)]
  rfl

/-- A table is at work on each fragment on its own. -/
theorem substituteFragments_eq_flatMap (table : SubstitutionTable) (fs : List Fragment) :
    substituteFragments table fs = fs.flatMap fun f => substituteFragments table [f] := by
  induction table generalizing fs with
  | nil => exact (List.flatMap_singleton' fs).symm
  | cons rule table ih =>
    by_cases hfind : rule.1 = []
    · simp only [substituteFragments_skip hfind]
      exact ih fs
    · simp only [substituteFragments_cons hfind, List.flatMap_singleton]
      rw [ih, List.flatMap_assoc]
      exact List.flatMap_congr fun f _ => (ih _).symm

theorem substituteFragments_replaced (table : SubstitutionTable) (r : Text) :
    substituteFragments table [.replaced r] = [.replaced r] := by
  induction table with
  | nil => rfl
  | cons rule table ih =>
    by_cases hfind : rule.1 = []
    · rw [substituteFragments_skip hfind, ih]
    · rw [substituteFragments_cons hfind]
      exact ih

/-- **What was put in is left alone**, and each stretch that is kept is substituted on its own. -/
theorem text_substituteFragments (table : SubstitutionTable) (d : Division) :
    (substituteFragments table d.fragments).flatMap Fragment.text =
      (d.mapKept (substituteIgnoreCase table)).replaced := by
  induction d with
  | kept t => rfl
  | taken t hit rest ih =>
    rw [substituteFragments_eq_flatMap] at ih ⊢
    rw [Division.fragments, List.flatMap_cons, List.flatMap_cons, substituteFragments_replaced,
      List.flatMap_append, List.flatMap_append, ih, Division.mapKept, Division.replaced,
      List.append_assoc, List.flatMap_singleton]
    rfl

section RefinesInOrder

variable {table : SubstitutionTable} {d d' d'' : Division}

theorem exists_refinesInOrder (table : SubstitutionTable) (d : Division) :
    ∃ d', RefinesInOrder table d d' := by
  induction table generalizing d with
  | nil => exact ⟨d, .nil d⟩
  | cons rule table ih =>
    by_cases hfind : rule.1 = []
    · obtain ⟨d', h⟩ := ih d
      exact ⟨d', .skip hfind h⟩
    · obtain ⟨d', hrule⟩ := exists_refines hfind d
      obtain ⟨d'', h⟩ := ih d'
      exact ⟨d'', .cons hfind hrule h⟩

namespace RefinesInOrder

theorem unique (h : RefinesInOrder table d d') (h' : RefinesInOrder table d d'') : d' = d'' := by
  induction h with
  | nil d =>
    cases h'
    rfl
  | skip hfind _ ih =>
    cases h' with
    | skip _ h' => exact ih h'
    | cons hne _ _ => exact absurd hfind hne
  | cons hne hrule _ ih =>
    cases h' with
    | skip hfind _ => exact absurd hfind hne
    | cons _ hrule' h' =>
      obtain rfl := hrule.unique hrule'
      exact ih h'

theorem original_eq (h : RefinesInOrder table d d') : d'.original = d.original := by
  induction h with
  | nil d => rfl
  | skip _ _ ih => exact ih
  | cons _ hrule _ ih => rw [ih, hrule.original_eq]

theorem of_mem_hits (h : RefinesInOrder table d d') {hit : Hit} (hhit : hit ∈ d'.hits) :
    hit ∈ d.hits ∨
      hit.rule ∈ table ∧ hit.rule.1 ≠ [] ∧ SameUpToCase hit.rule.1 hit.matched := by
  induction h with
  | nil d => exact .inl hhit
  | skip _ _ ih => exact (ih hhit).imp_right fun h => ⟨List.mem_cons_of_mem _ h.1, h.2⟩
  | cons hne hrule _ ih =>
    rcases ih hhit with hhit | ⟨hmem, hhit⟩
    · rcases hrule.of_mem_hits hhit with hhit | ⟨rfl, hsame⟩
      · exact .inl hhit
      · exact .inr ⟨List.mem_cons_self, hne, hsame⟩
    · exact .inr ⟨List.mem_cons_of_mem _ hmem, hhit⟩

/-- What is kept to the end has no match of any rule: a rule leaves none, and the rules behind it
only cut what is kept into smaller stretches. -/
theorem of_mem_keptTexts (h : RefinesInOrder table d d') {u : Text} (hu : u ∈ d'.keptTexts) :
    (∀ rule ∈ table, rule.1 ≠ [] → ¬ OccursIn rule.1 u) ∧ ∃ v ∈ d.keptTexts, u <:+: v := by
  induction h with
  | nil d => exact ⟨nofun, u, hu, List.infix_refl u⟩
  | skip hfind _ ih =>
    obtain ⟨hnot, hinfix⟩ := ih hu
    exact ⟨List.forall_mem_cons.2 ⟨fun hne => absurd hfind hne, hnot⟩, hinfix⟩
  | cons hne hrule _ ih =>
    obtain ⟨hnot, v, hv, huv⟩ := ih hu
    obtain ⟨hnotv, w, hw, hvw⟩ := hrule.of_mem_keptTexts hne hv
    exact ⟨List.forall_mem_cons.2 ⟨fun _ hoccurs => hnotv (hoccurs.mono huv), hnot⟩, w, hw,
      huv.trans hvw⟩

theorem substituteFragments_eq (h : RefinesInOrder table d d') :
    substituteFragments table d.fragments = d'.fragments := by
  induction h with
  | nil d => rfl
  | skip hfind _ ih => rw [substituteFragments_skip hfind, ih]
  | cons hne hrule _ ih =>
    rw [substituteFragments_cons hne, hrule.flatMap_substitute_eq hne, ih]

end RefinesInOrder

theorem refinesInOrder_of_not_occursIn {t : Text}
    (h : ∀ rule ∈ table, rule.1 ≠ [] → ¬ OccursIn rule.1 t) :
    RefinesInOrder table (.kept t) (.kept t) := by
  induction table with
  | nil => exact .nil _
  | cons rule table ih =>
    obtain ⟨hrule, htable⟩ := List.forall_mem_cons.1 h
    by_cases hfind : rule.1 = []
    · exact .skip hfind (ih htable)
    · exact .cons hfind (.kept (.none (hrule hfind))) (ih htable)

theorem substituteIgnoreCase_eq {t : Text} (h : RefinesInOrder table (.kept t) d) :
    substituteIgnoreCase table t = d.replaced := by
  rw [← d.flatMap_text_fragments, ← h.substituteFragments_eq]
  rfl

end RefinesInOrder

/-- **Nothing is substituted twice.** The rules of a table in order, each of which takes its matches
from the left in what is still kept, divide a text in one way only. The result is the text with the
replacement of its rule in the place of each match. A match is that of a text to find, up to case,
and nothing that is kept has one. Rules that come later change each stretch that is kept on its own
and nothing else. A text without a match stays as it is. -/
theorem substituteIgnoreCase_once (table : SubstitutionTable) (t : Text) :
    (∃ d : Division,
      (∀ d', RefinesInOrder table (.kept t) d' ↔ d' = d) ∧
      d.original = t ∧
      substituteIgnoreCase table t = d.replaced ∧
      (∀ hit ∈ d.hits,
        hit.rule ∈ table ∧ hit.rule.1 ≠ [] ∧ SameUpToCase hit.rule.1 hit.matched) ∧
      (∀ u ∈ d.keptTexts, ∀ rule ∈ table, rule.1 ≠ [] → ¬ OccursIn rule.1 u) ∧
      ∀ later, substituteIgnoreCase (table ++ later) t =
        (d.mapKept (substituteIgnoreCase later)).replaced) ∧
    ((∀ rule ∈ table, rule.1 ≠ [] → ¬ OccursIn rule.1 t) → substituteIgnoreCase table t = t) := by
  constructor
  · obtain ⟨d, hd⟩ := exists_refinesInOrder table (.kept t)
    refine ⟨d, fun d' => ⟨fun h => h.unique hd, fun h => h ▸ hd⟩, hd.original_eq,
      substituteIgnoreCase_eq hd, fun hit hhit => ?_, fun u hu => (hd.of_mem_keptTexts hu).1,
      fun later => ?_⟩
    · exact (hd.of_mem_hits hhit).resolve_left List.not_mem_nil
    · rw [← text_substituteFragments, ← hd.substituteFragments_eq]
      exact congrArg (List.flatMap Fragment.text) List.foldl_append
  · exact fun h => substituteIgnoreCase_eq (refinesInOrder_of_not_occursIn h)

/-- The second rule finds nothing in what the first one has put in, also together with the text
beside it. -/
example : substituteIgnoreCase
    [("don't".toList, "do not".toList), ("DO NOT".toList, "never".toList)]
    "I DON'T know, do not ask".toList = "I do not know, never ask".toList := by decide +kernel

end Dialogue.Text
