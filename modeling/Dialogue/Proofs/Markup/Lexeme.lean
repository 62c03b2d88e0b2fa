import Dialogue.Proofs.Markup.Grammar
import Dialogue.Proofs.Text.Delimiter
import Dialogue.Proofs.Text.Trim

/-!
# Scanning finds the lexemes

The scanner finds a lexeme at the beginning of a source exactly if one stands there, and then
this one (`nextLexeme_eq_ok_iff`). The content of a construct ends at its first closing
delimiter; for a tag that is the first `>` outside of quotes. Which construct begins at a `<`
does not depend on what stands behind it.
-/

namespace Dialogue.Markup

open Unicode

variable {source content rest : Text}

/-! ## Tags -/

theorem tagContent_plain {c : Char} (hc : c ∉ ['<', '>', '"', '\'']) (source : Text) :
    tagContent none (c :: source) =
      (tagContent none source).map fun (content, after) => (c :: content, after) := by
  simp only [List.mem_cons, List.not_mem_nil, or_false, not_or] at hc
  obtain ⟨hlt, hgt, hdouble, hsingle⟩ := hc
  rw [tagContent, if_neg hgt, if_neg hlt, if_neg (not_or.2 ⟨hdouble, hsingle⟩)]

theorem tagContent_quote {quote : Char} (hq : quote = '"' ∨ quote = '\'') (source : Text) :
    tagContent none (quote :: source) =
      (tagContent (some quote) source).map fun (content, after) => (quote :: content, after) := by
  have hgt : quote ≠ '>' := by rcases hq with rfl | rfl <;> decide
  have hlt : quote ≠ '<' := by rcases hq with rfl | rfl <;> decide
  rw [tagContent, if_neg hgt, if_neg hlt, if_pos hq]

theorem tagContent_quoted {quote : Char} {inside : Text} (hinside : quote ∉ inside)
    (source : Text) :
    tagContent (some quote) (inside ++ quote :: source) =
      (tagContent none source).map
        fun (content, after) => (inside ++ quote :: content, after) := by
  induction inside with
  | nil => rw [List.nil_append, tagContent, if_pos rfl]; rfl
  | cons c inside ih =>
    rw [List.mem_cons, not_or] at hinside
    obtain ⟨hne, hrest⟩ := hinside
    rw [List.cons_append, tagContent, if_neg (Ne.symm hne), ih hrest, Option.map_map]
    rfl

/-- The content of a tag ends before the first `>` outside of quotes. -/
theorem tagContent_append (h : IsTagContent content) (rest : Text) :
    tagContent none (content ++ '>' :: rest) = some (content, rest) := by
  induction h with
  | nil => rfl
  | plain hc _ ih => rw [List.cons_append, tagContent_plain hc, ih]; rfl
  | quoted hq hinside _ ih =>
    rw [List.cons_append, List.append_assoc, List.cons_append, tagContent_quote hq,
      tagContent_quoted hinside, ih]
    rfl

/-- What is read in a tag, together with the quote in which reading began. -/
theorem isTagContent_of_tagContent {quote : Option Char}
    (hquote : ∀ q ∈ quote, q = '"' ∨ q = '\'')
    (h : tagContent quote source = some (content, rest)) :
    IsTagContent (quote.toList ++ content) := by
  induction source generalizing quote content with
  | nil => cases quote <;> cases h
  | cons c tail ih =>
    cases quote with
    | some q =>
      have hq := hquote q rfl
      obtain ⟨⟨b, a⟩, hb, he⟩ := Option.map_eq_some_iff.1 h
      cases he
      by_cases hc : c = q
      · subst hc
        rw [if_pos rfl] at hb
        exact @IsTagContent.quoted c [] b hq List.not_mem_nil (@ih b none (by simp) hb)
      · rw [if_neg hc] at hb
        -- the quote goes on, so the rest of the content closes it
        cases ih hquote hb with
        | plain hplain _ => rcases hq with rfl | rfl <;> simp at hplain
        | @quoted _ inside tail _ hinside htail =>
          have hmem : q ∉ c :: inside := by
            rw [List.mem_cons, not_or]
            exact ⟨Ne.symm hc, hinside⟩
          exact @IsTagContent.quoted q (c :: inside) tail hq hmem htail
    | none =>
      rw [tagContent] at h
      split at h
      · cases h
        exact .nil
      · split at h
        · cases h
        · next hgt hlt =>
          obtain ⟨⟨b, a⟩, hb, he⟩ := Option.map_eq_some_iff.1 h
          cases he
          by_cases hq : c = '"' ∨ c = '\''
          · rw [if_pos hq] at hb
            exact @ih b (some c) (by simpa using hq) hb
          · rw [if_neg hq] at hb
            have hplain : c ∉ ['<', '>', '"', '\''] := by
              simp only [List.mem_cons, List.not_mem_nil, or_false, not_or] at hq ⊢
              exact ⟨hlt, hgt, hq⟩
            exact .plain hplain (@ih b none (by simp) hb)

/-! ## Constructs -/

namespace Construct

variable {k : Construct}

theorem opening_eq (k : Construct) : ∃ tail, k.opening = '<' :: tail := by
  cases k <;> exact ⟨_, rfl⟩

/-- Only the last character of a closing delimiter is a `>`. -/
theorem closing_eq (k : Construct) : ∃ p, k.closing = p ++ ['>'] ∧ '>' ∉ p := by
  cases k with
  | comment => exact ⟨"--".toList, rfl, by decide⟩
  | instruction => exact ⟨"?".toList, rfl, by decide⟩
  | literalBlock => exact ⟨"]]".toList, rfl, by decide⟩
  | endTag | openTag => exact ⟨[], rfl, List.not_mem_nil⟩

theorem content_append (h : k.Admits content) (rest : Text) :
    k.content (content ++ k.closing ++ rest) = some (content, rest) := by
  obtain ⟨p, hclosing, hp⟩ := k.closing_eq
  cases k with
  | endTag | openTag =>
    show tagContent none (content ++ ['>'] ++ rest) = some (content, rest)
    rw [List.append_assoc]
    exact tagContent_append h rest
  | comment | instruction | literalBlock =>
    dsimp only [Construct.content, Admits] at h ⊢
    rw [hclosing] at h ⊢
    exact Text.breakOn_append (Text.unbordered_concat hp) (List.append_ne_nil_of_right_ne_nil p
      (List.cons_ne_nil _ _)) h rest

/-- The content of a construct is what it admits up to its closing delimiter. -/
theorem content_eq_some_iff :
    k.content source = some (content, rest) ↔
      source = content ++ k.closing ++ rest ∧ k.Admits content := by
  constructor
  · intro h
    refine ⟨eq_append_of_content h, ?_⟩
    cases k with
    | endTag | openTag => exact @isTagContent_of_tagContent source content rest none (by simp) h
    | comment | instruction | literalBlock => exact Text.not_infix_of_breakOn (by decide) h
  · rintro ⟨rfl, h⟩
    exact content_append h rest

/-! ### Which construct begins -/

theorem gt_not_mem_opening (k : Construct) : '>' ∉ k.opening := by
  cases k <;> decide

theorem mem_marked (hk : k ≠ .openTag) : k ∈ marked := by
  cases k with
  | openTag => exact absurd rfl hk
  | comment | instruction | literalBlock | endTag => decide

/-- No two constructs with an opening of their own begin in the same place. -/
theorem eq_of_opening_prefix {m : Construct} (hm : m ∈ marked) (hk : k ∈ marked)
    (h : m.opening <+: source) (h' : k.opening <+: source) : m = k := by
  have hall : ∀ m ∈ marked, ∀ k ∈ marked, m.opening <+: k.opening → m = k := by decide
  rcases List.prefix_or_prefix_of_prefix h h' with hp | hp
  · exact hall m hm k hk hp
  · exact (hall k hk m hm hp).symm

theorem begins_ofSource (h : source.head? = some '<') : (ofSource source).Begins source := by
  unfold ofSource
  cases hfind : ofSource? source with
  | none =>
    obtain ⟨tail, rfl⟩ := List.head?_eq_some_iff.1 h
    refine ⟨List.prefix_append ['<'] tail, fun _ m hm hopening => ?_⟩
    exact List.find?_eq_none.1 hfind m hm (List.isPrefixOf_iff_prefix.2 hopening)
  | some m =>
    have hopening := List.find?_some hfind
    refine ⟨List.isPrefixOf_iff_prefix.1 hopening, fun hopen => ?_⟩
    have hmem : m ∈ marked := List.mem_of_find?_eq_some hfind
    have hnot : Construct.openTag ∉ marked := by decide
    exact absurd (hopen ▸ hmem) hnot

theorem Begins.eq_ofSource (h : k.Begins source) : k = ofSource source := by
  have hhead : source.head? = some '<' := by
    obtain ⟨tail, htail⟩ := k.opening_eq
    obtain ⟨rest, rfl⟩ := h.1
    rw [htail]
    rfl
  have h' := begins_ofSource hhead
  by_cases hk : k = .openTag
  · by_contra hne
    have hmem := mem_marked fun h => hne (hk.trans h.symm)
    exact h.2 hk _ hmem h'.1
  · by_cases hopen : ofSource source = .openTag
    · exact absurd h.1 (h'.2 hopen k (mem_marked hk))
    · exact eq_of_opening_prefix (mem_marked hk) (mem_marked hopen) h.1 h'.1

/-- Which construct begins is decided before its closing delimiter. -/
theorem begins_append_iff (k : Construct) (content rest : Text) :
    k.Begins (k.opening ++ content ++ k.closing ++ rest) ↔ k.Begins (k.opening ++ content) := by
  have hopening : k.opening <+: k.opening ++ content := List.prefix_append _ _
  by_cases hk : k = .openTag
  · subst hk
    have hclosing : "<".toList ++ content ++ ">".toList ++ rest =
        "<".toList ++ content ++ '>' :: rest := List.append_assoc _ _ _
    show Begins _ ("<".toList ++ content ++ ">".toList ++ rest) ↔
      Begins _ ("<".toList ++ content)
    rw [hclosing]
    unfold Begins
    simp only [Text.prefix_append_cons_iff (gt_not_mem_opening _)]
  · have hlong : k.opening <+: k.opening ++ content ++ k.closing ++ rest :=
      (hopening.trans (List.prefix_append _ _)).trans (List.prefix_append _ _)
    exact iff_of_true ⟨hlong, fun h => absurd h hk⟩ ⟨hopening, fun h => absurd h hk⟩

end Construct

/-! ## The next lexeme -/

theorem nextLexeme_of_lt (h : source.head? = some '<') :
    nextLexeme source =
      match (Construct.ofSource source).content
        (source.drop (Construct.ofSource source).opening.length) with
      | some (content, rest) => .ok (.construct (Construct.ofSource source) content, rest)
      | none => .error (Construct.ofSource source) := by
  obtain ⟨tail, rfl⟩ := List.head?_eq_some_iff.1 h
  rfl

theorem nextLexeme_of_not_lt (hne : source ≠ []) (h : source.head? ≠ some '<') :
    nextLexeme source = .ok (.text (source.takeWhile (· ≠ '<')), source.dropWhile (· ≠ '<')) := by
  cases source with
  | nil => exact absurd rfl hne
  | cons c rest =>
    have hc : c ≠ '<' := fun hc => h (congrArg some hc)
    rw [nextLexeme, List.takeWhile_cons_of_pos (by simpa using hc)]

/-- Text does not begin with a `<`. -/
theorem Lexeme.Closed.head?_ne_lt {x : Lexeme} (h : x.Closed) (hx : x.isText = true)
    (after : Text) : (x.source ++ after).head? ≠ some '<' := by
  cases x with
  | construct k content => cases hx
  | text t =>
    obtain ⟨hne, hlt⟩ := h
    cases t with
    | nil => exact absurd rfl hne
    | cons c t =>
      intro hc
      exact hlt (Option.some.inj hc ▸ List.mem_cons_self)

/-- A text is passed over in the search for the next `<`. -/
theorem Lexeme.Closed.forall_ne_lt {t : Text} (h : (Lexeme.text t).Closed) :
    ∀ c ∈ t, decide (c ≠ '<') = true := by
  intro c hc
  exact decide_eq_true fun hlt => h.2 (hlt ▸ hc)

/-- Where a text stands, a text is found, which may go on longer. -/
theorem nextLexeme_text_append {t : Text} (h : (Lexeme.text t).Closed) (rest : Text) :
    nextLexeme (t ++ rest) =
      .ok (.text (t ++ rest.takeWhile (· ≠ '<')), rest.dropWhile (· ≠ '<')) := by
  have hne : t ++ rest ≠ [] := List.append_ne_nil_of_left_ne_nil h.1 rest
  rw [nextLexeme_of_not_lt hne (h.head?_ne_lt rfl rest),
    List.takeWhile_append_of_pos h.forall_ne_lt, List.dropWhile_append_of_pos h.forall_ne_lt]

theorem head?_construct (k : Construct) (content rest : Text) :
    ((Lexeme.construct k content).source ++ rest).head? = some '<' := by
  obtain ⟨tail, htail⟩ := k.opening_eq
  simp only [Lexeme.source, htail]
  rfl

theorem nextLexeme_construct_append {k : Construct} (h : (Lexeme.construct k content).Closed)
    (rest : Text) :
    nextLexeme ((Lexeme.construct k content).source ++ rest) =
      .ok (.construct k content, rest) := by
  obtain ⟨hbegins, hadmits⟩ := h
  have hk : k = Construct.ofSource ((Lexeme.construct k content).source ++ rest) :=
    ((k.begins_append_iff content rest).2 hbegins).eq_ofSource
  have hdrop : ((Lexeme.construct k content).source ++ rest).drop k.opening.length =
      content ++ k.closing ++ rest := by
    simp only [Lexeme.source, List.append_assoc, List.drop_left]
  rw [nextLexeme_of_lt (head?_construct k content rest), ← hk, hdrop,
    Construct.content_append hadmits]

theorem closed_takeWhile (hne : source ≠ []) (h : source.head? ≠ some '<') :
    (Lexeme.text (source.takeWhile (· ≠ '<'))).Closed := by
  constructor
  · cases source with
    | nil => exact absurd rfl hne
    | cons c rest =>
      have hc : c ≠ '<' := fun hc => h (congrArg some hc)
      rw [List.takeWhile_cons_of_pos (by simpa using hc)]
      exact List.cons_ne_nil _ _
  · intro hmem
    simpa using List.mem_takeWhile_imp hmem

/-- The lexeme does not go on into what follows: behind a text comes the end or a `<`. -/
def Lexeme.StopsAt (x : Lexeme) (rest : Text) : Prop :=
  x.isText = true → ∀ c ∈ rest.head?, c = '<'

theorem nextLexeme_of_stopsAt {x : Lexeme} (h : x.Closed) (hrest : x.StopsAt rest) :
    nextLexeme (x.source ++ rest) = .ok (x, rest) := by
  cases x with
  | construct k content => exact nextLexeme_construct_append h rest
  | text t =>
    have hstop : rest.takeWhile (· ≠ '<') = [] ∧ rest.dropWhile (· ≠ '<') = rest := by
      cases rest with
      | nil => exact ⟨rfl, rfl⟩
      | cons c rest =>
        obtain rfl := hrest rfl c rfl
        exact ⟨rfl, rfl⟩
    have hnext := nextLexeme_text_append h rest
    rwa [hstop.1, hstop.2, List.append_nil] at hnext

/-- **The scanner finds the lexeme that stands at the beginning of a source.** Text goes on up
to the next `<`. -/
theorem nextLexeme_eq_ok_iff {x : Lexeme} :
    nextLexeme source = .ok (x, rest) ↔
      source = x.source ++ rest ∧ x.Closed ∧ x.StopsAt rest := by
  constructor
  · intro h
    by_cases hlt : source.head? = some '<'
    · rw [nextLexeme_of_lt hlt] at h
      have hbegins := Construct.begins_ofSource hlt
      generalize Construct.ofSource source = k at h hbegins
      split at h
      · next content after hcontent =>
        cases h
        obtain ⟨tail, htail⟩ := hbegins.1
        rw [← htail, List.drop_left] at hcontent
        obtain ⟨rfl, hadmits⟩ := Construct.content_eq_some_iff.1 hcontent
        have hsource : source = (Lexeme.construct k content).source ++ rest := by
          rw [← htail]
          simp only [Lexeme.source, List.append_assoc]
        rw [hsource] at hbegins
        exact ⟨hsource, ⟨(k.begins_append_iff content rest).1 hbegins, hadmits⟩, nofun⟩
      · cases h
    · have hne : source ≠ [] := by
        rintro rfl
        cases h
      rw [nextLexeme_of_not_lt hne hlt] at h
      cases h
      refine ⟨List.takeWhile_append_dropWhile.symm, closed_takeWhile hne hlt, fun _ c hc => ?_⟩
      have hnot := List.head?_dropWhile_not (· ≠ '<') source
      rw [hc] at hnot
      simpa using hnot
  · rintro ⟨rfl, hclosed, hrest⟩
    exact nextLexeme_of_stopsAt hclosed hrest

end Dialogue.Markup
