import Dialogue.Proofs.Text.Collapse
import Dialogue.Proofs.Text.Delimiter
import Dialogue.Proofs.Text.Lossless

/-!
# White space around literal sections

What it means to cut a text at its complete literal sections from the left is said without the scan
(`IsCut`); there is exactly one such cut (`isCut_iff`). Collapsing white space between the sections
neither makes a mark nor breaks one, since no mark has white space in it. So the cut of the
normalized text is that of the text with its ordinary stretches tidied
(`isCut_normalizeWhiteSpace`), and all that is said of normalization follows from this
(`normalizeWhiteSpace_sections`).
-/

namespace Dialogue.Text

open Unicode

variable {t before content rest : Text} {ss : List Stretch}

/-! ## Cutting at sections -/

theorem unbordered_literalOpen : Unbordered literalOpen := unbordered_cons (by decide)

theorem unbordered_literalClose : Unbordered literalClose :=
  @unbordered_concat "]]".toList '>' (by decide)

theorem literalOpen_ne_nil : literalOpen ≠ [] := by decide

theorem literalClose_ne_nil : literalClose ≠ [] := by decide

theorem isWhiteSpace_of_mem_literalOpen : ∀ c ∈ literalOpen, isWhiteSpace c = false := by
  have hall : literalOpen.all (fun c => !isWhiteSpace c) = true := by decide
  simpa using hall

theorem isWhiteSpace_of_mem_literalClose : ∀ c ∈ literalClose, isWhiteSpace c = false := by
  have hall : literalClose.all (fun c => !isWhiteSpace c) = true := by decide
  simpa using hall

/-- A complete literal section stands in the text. -/
def HasSection (t : Text) : Prop :=
  ∃ before content after, t = before ++ literalOpen ++ content ++ literalClose ++ after

/-- The text is cut at its complete literal sections from the left: no section begins before the
first opening mark, the section ends with the first closing mark behind it, and what follows is cut
in the same way. Without a complete section all of the text is ordinary. -/
inductive IsCut : Text → List Stretch → Prop
  | ordinary {t : Text} : ¬ HasSection t → IsCut t [.ordinary t]
  | literal {before content rest : Text} {ss : List Stretch} : ¬ literalOpen <:+: before →
      ¬ literalClose <:+: content → IsCut rest ss →
      IsCut (before ++ literalOpen ++ content ++ literalClose ++ rest)
        (.ordinary before :: .literal content :: ss)

theorem stretches_ordinary (h : ¬ HasSection t) : stretches t = [.ordinary t] := by
  rw [stretches]
  split
  · rfl
  · rename_i before inside hopen
    split
    · rfl
    · rename_i content rest hclose
      refine absurd ⟨before, content, rest, ?_⟩ h
      rw [eq_append_of_breakOn hopen, eq_append_of_breakOn hclose]
      simp only [List.append_assoc]

theorem stretches_literal (hbefore : ¬ literalOpen <:+: before)
    (hcontent : ¬ literalClose <:+: content) (rest : Text) :
    stretches (before ++ literalOpen ++ content ++ literalClose ++ rest) =
      .ordinary before :: .literal content :: stretches rest := by
  have hopen := breakOn_append unbordered_literalOpen literalOpen_ne_nil hbefore
    (content ++ literalClose ++ rest)
  have hclose := breakOn_append unbordered_literalClose literalClose_ne_nil hcontent rest
  have hassoc : before ++ literalOpen ++ content ++ literalClose ++ rest =
      before ++ literalOpen ++ (content ++ literalClose ++ rest) := by
    simp only [List.append_assoc]
  rw [hassoc, stretches]
  split
  · next hnone => cases hnone.symm.trans hopen
  · next hfound =>
    cases hfound.symm.trans hopen
    split
    · next hnone => cases hnone.symm.trans hclose
    · next hfound =>
      cases hfound.symm.trans hclose
      rfl

/-- Of the complete sections of a text there is a first one. -/
theorem HasSection.exists_first (h : HasSection t) : ∃ before content rest,
    t = before ++ literalOpen ++ content ++ literalClose ++ rest ∧ ¬ literalOpen <:+: before ∧
      ¬ literalClose <:+: content := by
  obtain ⟨x, y, z, ht⟩ := h
  have hassoc : t = x ++ literalOpen ++ (y ++ literalClose ++ z) := by
    rw [ht]
    simp only [List.append_assoc]
  obtain ⟨before, inside, hopen⟩ := exists_breakOn literalOpen_ne_nil ⟨x, _, hassoc.symm⟩
  -- the closing mark of the given section stands behind the first opening mark
  have hinside : literalClose <:+: inside :=
    List.IsInfix.trans ⟨y, z, rfl⟩ (suffix_after_of_breakOn hopen hassoc).isInfix
  obtain ⟨content, rest, hclose⟩ := exists_breakOn literalClose_ne_nil hinside
  refine ⟨before, content, rest, ?_, not_infix_of_breakOn literalOpen_ne_nil hopen,
    not_infix_of_breakOn literalClose_ne_nil hclose⟩
  rw [eq_append_of_breakOn hopen, eq_append_of_breakOn hclose]
  simp only [List.append_assoc]

theorem isCut_stretches (t : Text) : IsCut t (stretches t) := by
  by_cases h : HasSection t
  · obtain ⟨before, content, rest, ht, hbefore, hcontent⟩ := h.exists_first
    have hrest : IsCut rest (stretches rest) := isCut_stretches rest
    rw [ht, stretches_literal hbefore hcontent]
    exact .literal hbefore hcontent hrest
  · rw [stretches_ordinary h]
    exact .ordinary h
termination_by t.length
decreasing_by
  have := length_literalOpen
  simp only [ht, List.length_append]
  omega

/-- **A text has one cut at its complete literal sections**, and the scan finds it. -/
theorem isCut_iff : IsCut t ss ↔ ss = stretches t := by
  constructor
  · intro h
    induction h with
    | ordinary h => rw [stretches_ordinary h]
    | literal hbefore hcontent _ ih => rw [stretches_literal hbefore hcontent, ← ih]
  · rintro rfl
    exact isCut_stretches t

/-! ## Tidied stretches -/

namespace Stretch

def source : Stretch → Text
  | .ordinary t => t
  | .literal content => literalOpen ++ content ++ literalClose

def content? : Stretch → Option Text
  | .ordinary _ => none
  | .literal content => some content

/-- The characters of a stretch without the white space outside literal sections. -/
def squeezed : Stretch → Text
  | .ordinary t => squeeze t
  | .literal content => literalOpen ++ content ++ literalClose

end Stretch

/-- The stretches with the white space of the ordinary ones collapsed, and with none at the end of
the last one; `atStart` says that there is none at the beginning of the first one either. -/
def tidied : Bool → List Stretch → List Stretch
  | _, [] => []
  | atStart, [.ordinary t] => [.ordinary (trimEnd (collapseFrom atStart t))]
  | atStart, .ordinary t :: rest => .ordinary (collapseFrom atStart t) :: tidied false rest
  | _, .literal content :: rest => .literal content :: tidied false rest

theorem tidied_literal (atStart : Bool) (before content : Text) (ss : List Stretch) :
    tidied atStart (.ordinary before :: .literal content :: ss) =
      .ordinary (collapseFrom atStart before) :: .literal content :: tidied false ss := rfl

theorem HasSection.of_collapseFrom {atStart : Bool} (h : HasSection (collapseFrom atStart t)) :
    HasSection t := by
  obtain ⟨x, y, z, hxyz⟩ := h
  rw [List.append_assoc, List.append_assoc] at hxyz
  obtain ⟨x', inside, rfl, hinside⟩ :=
    exists_of_collapseFrom_eq_append literalOpen_ne_nil isWhiteSpace_of_mem_literalOpen hxyz
  rw [← List.append_assoc] at hinside
  obtain ⟨y', z', rfl, -⟩ :=
    exists_of_collapseFrom_eq_append literalClose_ne_nil isWhiteSpace_of_mem_literalClose hinside
  exact ⟨x', y', z', by simp only [List.append_assoc]⟩

theorem HasSection.of_prefix {s : Text} (h : HasSection s) (hs : s <+: t) : HasSection t := by
  obtain ⟨x, y, z, rfl⟩ := h
  obtain ⟨tail, rfl⟩ := hs
  exact ⟨x, y, z ++ tail, by simp only [List.append_assoc]⟩

/-- Tidied stretches are those of the text that they make up. -/
theorem IsCut.isCut_tidied (h : IsCut t ss) (atStart : Bool) :
    IsCut ((tidied atStart ss).flatMap Stretch.source) (tidied atStart ss) := by
  induction h generalizing atStart with
  | ordinary hnone =>
    simp only [tidied, List.flatMap_singleton, Stretch.source]
    exact .ordinary fun h => hnone (h.of_prefix (trimEnd_isPrefix _)).of_collapseFrom
  | @literal before content rest ss hbefore hcontent _ ih =>
    have hopen : ¬ literalOpen <:+: collapseFrom atStart before := by
      rintro ⟨x, y, hxy⟩
      obtain ⟨x', y', rfl, -⟩ :=
        exists_of_collapseFrom_eq_append literalOpen_ne_nil isWhiteSpace_of_mem_literalOpen
          hxy.symm
      exact hbefore ⟨x', y', rfl⟩
    have hcut := IsCut.literal hopen hcontent (ih false)
    rw [tidied_literal]
    simpa [Stretch.source] using hcut

theorem IsCut.tidied_tidied (h : IsCut t ss) (atStart : Bool) :
    tidied atStart (tidied atStart ss) = tidied atStart ss := by
  induction h generalizing atStart with
  | @ordinary t _ =>
    have hcollapsed := collapseFrom_of_prefix (collapseFrom_collapseFrom atStart t)
      (trimEnd_isPrefix _)
    have htrimmed : trimEnd (trimEnd (collapseFrom atStart t)) = trimEnd (collapseFrom atStart t) :=
      List.rdropWhile_idempotent isWhiteSpace _
    simp only [tidied, hcollapsed, htrimmed]
  | literal _ _ _ ih => rw [tidied_literal, tidied_literal, collapseFrom_collapseFrom, ih]

theorem IsCut.contents_tidied (h : IsCut t ss) (atStart : Bool) :
    (tidied atStart ss).filterMap Stretch.content? = ss.filterMap Stretch.content? := by
  induction h generalizing atStart with
  | ordinary _ => rfl
  | literal _ _ _ ih =>
    rw [tidied_literal]
    simp [List.filterMap_cons, Stretch.content?, ih]

theorem IsCut.singleSpaced_tidied (h : IsCut t ss) (atStart : Bool) :
    ∀ u, .ordinary u ∈ tidied atStart ss → SingleSpaced u := by
  induction h generalizing atStart with
  | ordinary _ =>
    intro u hu
    obtain rfl := Stretch.ordinary.inj (List.mem_singleton.1 hu)
    exact (singleSpaced_collapseFrom atStart _).of_isInfix (trimEnd_isPrefix _).isInfix
  | literal _ _ _ ih =>
    intro u hu
    rw [tidied_literal] at hu
    simp only [List.mem_cons, Stretch.ordinary.injEq, reduceCtorEq, false_or] at hu
    rcases hu with rfl | hu
    · exact singleSpaced_collapseFrom atStart _
    · exact ih false u hu

theorem squeeze_collapseFrom (inRun : Bool) (t : Text) :
    squeeze (collapseFrom inRun t) = squeeze t := by
  induction t generalizing inRun with
  | nil => rfl
  | cons c rest ih =>
    cases hc : isWhiteSpace c with
    | false => simpa [collapseFrom_cons_of_not hc, collapse, squeeze, hc] using ih false
    | true =>
      cases inRun with
      | true => simpa [collapseFrom_true_cons hc, squeeze, hc] using ih true
      | false =>
        simpa [collapseFrom_false_cons hc, squeeze, hc, isWhiteSpace_space] using ih true

theorem squeeze_trimEnd (t : Text) : squeeze (trimEnd t) = squeeze t := by
  have hsplit : trimEnd t ++ t.rtakeWhile isWhiteSpace = t := List.rdropWhile_append_rtakeWhile
  have hend : squeeze (t.rtakeWhile isWhiteSpace) = [] :=
    squeeze_of_forall fun c => List.mem_rtakeWhile_imp
  calc squeeze (trimEnd t)
      = squeeze (trimEnd t) ++ squeeze (t.rtakeWhile isWhiteSpace) := by
        rw [hend, List.append_nil]
    _ = squeeze t := by rw [← squeeze_append, hsplit]

theorem IsCut.squeezed_tidied (h : IsCut t ss) (atStart : Bool) :
    (tidied atStart ss).flatMap Stretch.squeezed = ss.flatMap Stretch.squeezed := by
  induction h generalizing atStart with
  | ordinary _ =>
    simp [tidied, Stretch.squeezed, squeeze_trimEnd, squeeze_collapseFrom]
  | literal _ _ _ ih =>
    rw [tidied_literal]
    simp [Stretch.squeezed, squeeze_collapseFrom, ih]

/-! ## What normalization makes of a text -/

/-- The text of a result, which is given in reverse, without a space at its end. -/
def finished : Text → Text
  | ' ' :: result => result.reverse
  | result => result.reverse

theorem finished_of_head {r : Text} (h : r.head? ≠ some ' ') : finished r = r.reverse := by
  unfold finished
  split
  · exact absurd rfl h
  · rfl

/-- Single-spaced text has at most one space to lose at its end. -/
theorem finished_append {u r : Text} (hu : SingleSpaced u) (hr : r.head? ≠ some ' ') :
    finished (u.reverse ++ r) = r.reverse ++ trimEnd u := by
  cases u using List.reverseRecOn with
  | nil => simpa [trimEnd] using finished_of_head hr
  | append_singleton v c =>
    by_cases hc : c = ' '
    · subst hc
      have hv : trimEnd (v ++ [' ']) = v := by
        show List.rdropWhile isWhiteSpace (v ++ [' ']) = v
        rw [List.rdropWhile_concat_pos _ _ _ isWhiteSpace_space]
        apply List.rdropWhile_eq_self_iff.2
        intro hne hspace
        have hlast := hu.eq_space _ (List.mem_append_left _ (List.getLast_mem hne)) hspace
        apply hu.apart
        refine ⟨v.dropLast, [], ?_⟩
        conv_rhs => rw [← List.dropLast_append_getLast hne, hlast]
        simp
      simp [finished, hv]
    · have hnot : ¬ isWhiteSpace c = true := by
        intro hspace
        exact hc (hu.eq_space c (by simp) hspace)
      have hv : trimEnd (v ++ [c]) = v ++ [c] := List.rdropWhile_concat_neg _ _ _ hnot
      rw [hv, finished_of_head (by simpa using hc)]
      simp

theorem appendCollapsed_eq (result t : Text) :
    appendCollapsed result t =
      (collapseFrom (result.isEmpty || result.head? == some ' ') t).reverse ++ result := by
  induction t generalizing result with
  | nil => rfl
  | cons c rest ih =>
    rw [appendCollapsed, ih, ih]
    cases hc : isWhiteSpace c with
    | true => cases hsettled : result.isEmpty || result.head? == some ' ' <;> simp [collapseFrom, *]
    | false =>
      have hne : (c == ' ') = false := by
        rw [beq_eq_false_iff_ne]
        rintro rfl
        rw [isWhiteSpace_space] at hc
        cases hc
      simp [collapseFrom_cons_of_not hc, collapse, hne]

/-- Only at the beginning there is white space to lose. -/
theorem appendCollapsed_of_head {r : Text} (hr : r.head? ≠ some ' ') (t : Text) :
    appendCollapsed r t = (collapseFrom r.isEmpty t).reverse ++ r := by
  have hsettled : (r.head? == some ' ') = false := beq_eq_false_iff_ne.2 hr
  rw [appendCollapsed_eq, hsettled, Bool.or_false]

theorem exists_appendStretch_literal (result content : Text) :
    ∃ r, appendStretch result (.literal content) = '>' :: r := by
  refine ⟨"]]".toList ++ (literalOpen ++ content).reverse ++ result, ?_⟩
  rw [appendStretch, List.reverse_append]
  rfl

theorem finished_foldl (h : IsCut t ss) {r : Text} (hr : r.head? ≠ some ' ') :
    finished (ss.foldl appendStretch r) =
      r.reverse ++ (tidied r.isEmpty ss).flatMap Stretch.source := by
  induction h generalizing r with
  | @ordinary t _ =>
    simp only [List.foldl_cons, List.foldl_nil, appendStretch, appendCollapsed_of_head hr, tidied,
      List.flatMap_singleton, Stretch.source]
    exact finished_append (singleSpaced_collapseFrom _ t) hr
  | @literal before content rest ss _ _ _ ih =>
    -- no white space of a section is at the end of the result, so the rest begins anew behind it
    obtain ⟨r', hr'⟩ := exists_appendStretch_literal (appendStretch r (.ordinary before)) content
    have hempty : (appendStretch (appendStretch r (.ordinary before)) (.literal content)).isEmpty =
        false := by
      rw [hr']
      rfl
    have hrest := ih (r := '>' :: r') (by simp)
    rw [← hr', hempty] at hrest
    rw [List.foldl_cons, List.foldl_cons, hrest, tidied_literal]
    simp [appendStretch, appendCollapsed_of_head hr, Stretch.source]

theorem normalizeWhiteSpace_eq (t : Text) :
    normalizeWhiteSpace t = (tidied true (stretches t)).flatMap Stretch.source :=
  finished_foldl (isCut_stretches t) (by simp : ([] : Text).head? ≠ some ' ')

theorem isCut_normalizeWhiteSpace (t : Text) :
    IsCut (normalizeWhiteSpace t) (tidied true (stretches t)) := by
  rw [normalizeWhiteSpace_eq]
  exact (isCut_stretches t).isCut_tidied true

theorem IsCut.head?_tidied (h : IsCut t ss) :
    ∀ c ∈ ((tidied true ss).flatMap Stretch.source).head?, isWhiteSpace c = false := by
  intro c hc
  cases h with
  | @ordinary t _ =>
    apply head?_collapseFrom_true t
    obtain ⟨tail, htail⟩ := trimEnd_isPrefix (collapseFrom true t)
    simp only [tidied, List.flatMap_singleton, Stretch.source, Option.mem_def] at hc
    rw [← htail, List.head?_append, hc]
    rfl
  | @literal before content rest ss _ _ _ =>
    obtain ⟨mark, hmark⟩ : ∃ mark, literalOpen = '<' :: mark := ⟨_, rfl⟩
    have hsource : (tidied true (.ordinary before :: .literal content :: ss)).flatMap
        Stretch.source = collapseFrom true before ++ ('<' :: (mark ++ content ++
          literalClose ++ (tidied false ss).flatMap Stretch.source)) := by
      simp [tidied_literal, Stretch.source, hmark]
    rw [hsource, List.head?_append, Option.mem_def, Option.or_eq_some_iff] at hc
    rcases hc with hc | ⟨-, hc⟩
    · exact head?_collapseFrom_true before c hc
    · obtain rfl := Option.some.inj hc
      decide

theorem IsCut.getLast?_tidied (h : IsCut t ss) (atStart : Bool) :
    ∀ c ∈ ((tidied atStart ss).flatMap Stretch.source).getLast?, isWhiteSpace c = false := by
  induction h generalizing atStart with
  | ordinary _ =>
    simp only [tidied, List.flatMap_singleton, Stretch.source]
    exact getLast?_trimEnd _
  | @literal before content rest ss _ _ _ ih =>
    intro c hc
    obtain ⟨mark, hmark⟩ : ∃ mark, literalClose = mark ++ ['>'] := ⟨"]]".toList, rfl⟩
    have hsource : (tidied atStart (.ordinary before :: .literal content :: ss)).flatMap
        Stretch.source = collapseFrom atStart before ++ literalOpen ++ content ++ mark ++ ['>'] ++
          (tidied false ss).flatMap Stretch.source := by
      simp [tidied_literal, Stretch.source, hmark]
    rw [hsource, List.getLast?_append, List.getLast?_concat, Option.mem_def,
      Option.or_eq_some_iff] at hc
    rcases hc with hc | ⟨-, hc⟩
    · exact ih false c hc
    · obtain rfl := Option.some.inj hc
      decide

/-- Without a section the normalized text is the collapsed text, trimmed. -/
theorem normalizeWhiteSpace_of_not_infix (h : ¬ literalOpen <:+: t) :
    normalizeWhiteSpace t = trim (collapse t) := by
  have hnone : ¬ HasSection t := by
    rintro ⟨x, y, z, rfl⟩
    exact h ⟨x, y ++ literalClose ++ z, by simp only [List.append_assoc]⟩
  have hstart : trimStart (collapse t) = collapseFrom true t := by
    cases t with
    | nil => rfl
    | cons c rest =>
      cases hc : isWhiteSpace c with
      | false =>
        rw [collapseFrom_cons_of_not hc, collapse_cons_of_not hc]
        exact trimStart_of_head (by simpa using hc)
      | true =>
        rw [collapseFrom_true_cons hc, collapse, collapseFrom_false_cons hc, trimStart,
          List.dropWhile_cons_of_pos isWhiteSpace_space]
        exact trimStart_of_head (head?_collapseFrom_true rest)
  rw [normalizeWhiteSpace_eq, stretches_ordinary hnone, trim, hstart]
  simp [tidied, Stretch.source]

/-- **Normalizing white space respects literal sections.** The cut of the normalized text has the
sections of the text, verbatim and in order. Outside them the only white space is single spaces,
with none at the ends of the whole, and nothing but white space is lost. Normalizing again changes
nothing, and without an opening mark the text is collapsed and trimmed. -/
theorem normalizeWhiteSpace_sections (t : Text) :
    (∃ ss us, IsCut t ss ∧ IsCut (normalizeWhiteSpace t) us ∧
      us.filterMap Stretch.content? = ss.filterMap Stretch.content? ∧
      (∀ u, .ordinary u ∈ us → SingleSpaced u) ∧
      us.flatMap Stretch.squeezed = ss.flatMap Stretch.squeezed) ∧
    Trimmed (normalizeWhiteSpace t) ∧
    normalizeWhiteSpace (normalizeWhiteSpace t) = normalizeWhiteSpace t ∧
    (¬ literalOpen <:+: t → normalizeWhiteSpace t = trim (collapse t)) := by
  have hcut := isCut_stretches t
  have hnormal := isCut_normalizeWhiteSpace t
  refine ⟨⟨stretches t, tidied true (stretches t), hcut, hnormal, hcut.contents_tidied true,
    hcut.singleSpaced_tidied true, hcut.squeezed_tidied true⟩, ?_, ?_,
    normalizeWhiteSpace_of_not_infix⟩
  · rw [normalizeWhiteSpace_eq]
    exact ⟨hcut.head?_tidied, hcut.getLast?_tidied true⟩
  · rw [normalizeWhiteSpace_eq (normalizeWhiteSpace t), ← isCut_iff.1 hnormal,
      hcut.tidied_tidied true, ← normalizeWhiteSpace_eq]

theorem normalizeWhiteSpace_sections_unclosed :
    let t := " a  <![CDATA[ x  ]]>	 b <![CDATA[  c ".toList
    ∃ ss us, IsCut t ss ∧ IsCut "a <![CDATA[ x  ]]> b <![CDATA[ c".toList us ∧
      us.filterMap Stretch.content? = ss.filterMap Stretch.content? := by
  intro t
  have hnormal : normalizeWhiteSpace t = "a <![CDATA[ x  ]]> b <![CDATA[ c".toList := by
    decide +kernel
  obtain ⟨⟨ss, us, hss, hus, hcontents, -⟩, -⟩ := normalizeWhiteSpace_sections t
  rw [hnormal] at hus
  exact ⟨ss, us, hss, hus, hcontents⟩

end Dialogue.Text
