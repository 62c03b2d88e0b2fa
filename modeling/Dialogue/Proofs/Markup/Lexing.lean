import Dialogue.Proofs.Markup.Lexeme

/-!
# Tokenizing accepts the lexical grammar

Tokenizing a source that is made of lexemes gives their tokens and goes on behind them
(`tokenize_append`). A source is made of lexemes in at most one way (`IsLexing.unique`), and
every source begins with some after which no lexeme follows (`exists_isLexing`). So a source
is accepted exactly if it is made of lexemes, and otherwise the error is what is wrong where
they end (`tokenize_grammar`).
-/

namespace Dialogue.Markup

open Unicode Lexeme

variable {source before rest : Text} {x : Lexeme} {xs ys : List Lexeme} {p : Position}

/-! ## One lexeme -/

theorem isNameless_ofTagContent (content : Text) :
    (Token.ofTagContent content).isNameless = (tagName content).isEmpty := by
  unfold Token.ofTagContent tagName
  cases withoutSlash content <;> rfl

/-- A lexeme has the name that it needs if its token has one. -/
theorem Lexeme.named_iff : x.Named ↔ ∀ token ∈ x.token?, token.isNameless = false := by
  cases x with
  | text t => simp [Named, token?, Token.isNameless]
  | construct k content =>
    cases k with
    | comment | instruction | literalBlock =>
      simp [Named, token?, Token.ofConstruct, Token.isNameless]
    | openTag =>
      simp [Named, token?, Token.ofConstruct, isNameless_ofTagContent]
    | endTag =>
      have htrim := not_congr (Text.trim_eq_nil_iff (t := content))
      simp only [not_forall, Bool.not_eq_true] at htrim
      simp [Named, token?, Token.ofConstruct, Token.isNameless, htrim]

/-- Only an instruction has no token. -/
theorem exists_instruction_of_token? (h : x.token? = none) :
    ∃ content, x = .construct .instruction content := by
  cases x with
  | text t => cases h
  | construct k content =>
    cases k with
    | instruction => exact ⟨content, rfl⟩
    | comment | literalBlock | endTag | openTag => cases h

theorem Lexeme.Closed.source_ne_nil (h : x.Closed) : x.source ≠ [] := by
  cases x with
  | text t => exact h.1
  | construct k content =>
    obtain ⟨tail, htail⟩ := k.opening_eq
    simp [Lexeme.source, htail]

theorem nextLexeme_unique {y : Lexeme} {rest' : Text} (h : nextLexeme source = .ok (x, rest))
    (h' : nextLexeme source = .ok (y, rest')) : x = y ∧ rest = rest' :=
  Prod.mk.inj (Except.ok.inj (h.symm.trans h'))

/-- Where a lexeme stands, the scanner finds it, or a text that goes on longer. -/
theorem exists_nextLexeme (h : x.Closed) (after : Text) :
    ∃ y rest, nextLexeme (x.source ++ after) = .ok (y, rest) ∧ y.isText = x.isText ∧
      x.source <+: y.source ∧ (x.isText = false → y = x) := by
  cases x with
  | construct k content =>
    exact ⟨_, after, nextLexeme_construct_append h after, rfl, List.prefix_refl _, fun _ => rfl⟩
  | text t =>
    exact ⟨_, _, nextLexeme_text_append h after, rfl, List.prefix_append t _, nofun⟩

/-- Where the scanner finds a construct without an end, no lexeme stands. -/
theorem fault_of_nextLexeme {k : Construct} (hne : source ≠ [])
    (h : nextLexeme source = .error k) :
    k.Begins source ∧ ∀ (x : Lexeme) (after : Text), x.Closed → source ≠ x.source ++ after := by
  constructor
  · by_cases hlt : source.head? = some '<'
    · rw [nextLexeme_of_lt hlt] at h
      split at h
      · cases h
      · cases h
        exact Construct.begins_ofSource hlt
    · rw [nextLexeme_of_not_lt hne hlt] at h
      cases h
  · rintro x after hclosed rfl
    obtain ⟨y, rest, hnext, -⟩ := exists_nextLexeme hclosed after
    rw [h] at hnext
    cases hnext

/-! ## Tokenizing -/

theorem tokenize_nil (p : Position) : tokenize p [] = (.ok [], p) := by
  rw [tokenize, if_pos rfl]

theorem tokenize_of_error {k : Construct} (p : Position) (hne : source ≠ [])
    (h : nextLexeme source = .error k) :
    tokenize p source = (.error (.unterminated k source ⟨p, p.offset + 1⟩), p) := by
  rw [tokenize, if_neg hne]
  split
  · next h' =>
    rw [h] at h'
    cases h'
    rfl
  · next h' =>
    rw [h] at h'
    cases h'

theorem tokenize_of_ok (p : Position) (h : nextLexeme source = .ok (x, rest)) :
    tokenize p source =
      match x.token? with
      | none => tokenize (p.advance x.source) rest
      | some token =>
        if token.isNameless then
          (.error (.emptyTagName x.source ⟨p, (p.advance x.source).offset⟩), p.advance x.source)
        else
          ((tokenize (p.advance x.source) rest).1.map
              (⟨token, ⟨p, (p.advance x.source).offset⟩⟩ :: ·),
            (tokenize (p.advance x.source) rest).2) := by
  have hne : source ≠ [] := by
    rintro rfl
    cases h
  rw [tokenize, if_neg hne]
  split
  · next h' =>
    rw [h] at h'
    cases h'
  · next h' =>
    rw [h] at h'
    cases h'
    rfl

/-- A lexeme gives its tokens, and tokenizing goes on behind it. -/
theorem tokenize_of_named (p : Position) (h : nextLexeme source = .ok (x, rest))
    (hx : x.Named) :
    tokenize p source =
      ((tokenize (p.advance x.source) rest).1.map (x.tokensAt p ++ ·),
        (tokenize (p.advance x.source) rest).2) := by
  rw [tokenize_of_ok p h]
  rw [named_iff] at hx
  cases htoken : x.token? with
  | none =>
    simp only [tokensAt, htoken]
    rcases tokenize (p.advance x.source) rest with ⟨error | tokens, last⟩ <;> rfl
  | some token =>
    simp only [tokensAt, htoken, hx token htoken]
    rfl

theorem tokenize_of_not_named (p : Position) (h : nextLexeme source = .ok (x, rest))
    (hx : ¬ x.Named) :
    tokenize p source =
      (.error (.emptyTagName x.source ⟨p, (p.advance x.source).offset⟩), p.advance x.source) := by
  rw [named_iff] at hx
  push Not at hx
  obtain ⟨token, htoken, hnameless⟩ := hx
  rw [tokenize_of_ok p h, htoken]
  simp only [ne_eq, Bool.not_eq_false] at hnameless
  exact if_pos hnameless

/-! ## Lexemes in sequence -/

theorem Lexeme.sources_cons (x : Lexeme) (xs : List Lexeme) :
    sources (x :: xs) = x.source ++ sources xs := rfl

theorem Lexeme.sources_append (xs ys : List Lexeme) :
    sources (xs ++ ys) = sources xs ++ sources ys := List.flatMap_append

def Lexeme.StopAt (xs : List Lexeme) (rest : Text) : Prop := ∀ x ∈ xs.getLast?, x.StopsAt rest

theorem stopAt_nil (rest : Text) : StopAt [] rest := nofun

theorem stopAt_end (xs : List Lexeme) : StopAt xs [] := fun _ _ _ _ => nofun

theorem Lexeme.StopsAt.of_append (h : x.StopsAt (before ++ rest)) : x.StopsAt before := by
  intro hx c hc
  apply h hx c
  rw [List.head?_append, hc]
  rfl

theorem Lexeme.StopAt.tail (h : StopAt (x :: xs) rest) : StopAt xs rest := by
  intro y hy
  exact h y (by rw [List.getLast?_cons, hy]; rfl)

namespace IsLexing

theorem tail (h : IsLexing source (x :: xs)) : IsLexing (sources xs) xs where
  source_eq := rfl
  valid y hy := h.valid y (List.mem_cons_of_mem x hy)
  apart := h.apart.tail

/-- A lexeme may stand in front of others if no text follows on text. -/
theorem cons (hx : x.Valid) (h : IsLexing source xs)
    (hstop : x.StopsAt source) :
    IsLexing (x.source ++ source) (x :: xs) where
  source_eq := by rw [← h.source_eq]; rfl
  valid := List.forall_mem_cons.2 ⟨hx, h.valid⟩
  apart := by
    refine List.isChain_cons.2 ⟨fun y hy htext => ?_, h.apart⟩
    cases xs with
    | nil => cases hy
    | cons z zs =>
      obtain rfl : z = y := Option.some.inj hy
      by_contra hz
      rw [Bool.not_eq_false] at hz
      have hclosed := (h.valid z List.mem_cons_self).closed
      have hsource : z.source ++ sources zs = source := h.source_eq
      have hhead := hclosed.head?_ne_lt hz (sources zs)
      rw [hsource] at hhead
      cases source with
      | nil => exact hclosed.source_ne_nil (List.append_eq_nil_iff.1 hsource).1
      | cons c tail => exact hhead (congrArg some (hstop htext c rfl))

/-- What follows on text begins with a `<`. -/
theorem head?_of_isText {y : Lexeme} (h : IsLexing source (x :: y :: ys)) (hx : x.isText = true)
    (rest : Text) : (sources (y :: ys) ++ rest).head? = some '<' := by
  have hy : y.isText = false := (List.isChain_cons_cons.1 h.apart).1 hx
  cases y with
  | text t => cases hy
  | construct k content =>
    rw [sources_cons, List.append_assoc]
    exact head?_construct k content _

/-- No lexeme goes on into those that follow. -/
theorem stopsAt (h : IsLexing source (x :: xs)) (hrest : StopAt (x :: xs) rest) :
    x.StopsAt (sources xs ++ rest) := by
  intro hx
  cases xs with
  | nil => exact hrest x rfl hx
  | cons y ys =>
    intro c hc
    rw [h.head?_of_isText hx rest] at hc
    exact (Option.some.inj hc).symm

/-- The scanner finds the first one of the lexemes of a source. -/
theorem nextLexeme_append (h : IsLexing before (x :: xs)) (hrest : StopAt (x :: xs) rest) :
    nextLexeme (before ++ rest) = .ok (x, sources xs ++ rest) := by
  refine nextLexeme_eq_ok_iff.2 ⟨?_, (h.valid x List.mem_cons_self).closed, h.stopsAt hrest⟩
  rw [← h.source_eq, sources_cons, List.append_assoc]

/-- The scanner finds the lexemes of a source one after the other. -/
theorem nextLexeme_eq (h : IsLexing source (x :: xs)) :
    nextLexeme source = .ok (x, sources xs) := by
  have hnext := h.nextLexeme_append (stopAt_end _)
  rwa [List.append_nil, List.append_nil] at hnext

/-- **A source is made of lexemes in at most one way.** -/
theorem unique (h : IsLexing source xs) (h' : IsLexing source ys) : xs = ys := by
  induction xs generalizing source ys with
  | nil =>
    obtain rfl : [] = source := h.source_eq
    cases ys with
    | nil => rfl
    | cons y ys => cases h'.nextLexeme_eq
  | cons x xs ih =>
    cases ys with
    | nil =>
      obtain rfl : [] = source := h'.source_eq
      cases h.nextLexeme_eq
    | cons y ys =>
      obtain ⟨rfl, htail⟩ := nextLexeme_unique h.nextLexeme_eq h'.nextLexeme_eq
      have hys := h'.tail
      rw [← htail] at hys
      rw [ih h.tail hys]

end IsLexing

theorem Lexeme.StopAt.cons (h : StopAt xs rest) (hxs : IsLexing before xs)
    (hx : x.StopsAt (before ++ rest)) : StopAt (x :: xs) rest := by
  cases xs with
  | nil =>
    obtain rfl : [] = before := hxs.source_eq
    intro y hy
    obtain rfl : x = y := Option.some.inj hy
    exact hx
  | cons z zs => rwa [StopAt, List.getLast?_cons_cons]

/-- **Tokenizing goes on behind lexemes**, with their tokens in front. -/
theorem tokenize_append (p : Position) (h : IsLexing before xs) (hrest : StopAt xs rest) :
    tokenize p (before ++ rest) =
      ((tokenize (p.advance before) rest).1.map (tokensFrom p xs ++ ·),
        (tokenize (p.advance before) rest).2) := by
  induction xs generalizing p before with
  | nil =>
    obtain rfl : [] = before := h.source_eq
    show tokenize p rest = ((tokenize p rest).1.map ([] ++ ·), (tokenize p rest).2)
    rcases tokenize p rest with ⟨error | tokens, last⟩ <;> rfl
  | cons x xs ih =>
    have hnamed := (h.valid x List.mem_cons_self).named
    have hbefore : before = x.source ++ sources xs := h.source_eq.symm
    rw [tokenize_of_named p (h.nextLexeme_append hrest) hnamed, ih _ h.tail hrest.tail,
      hbefore, Position.advance_append]
    rcases tokenize ((p.advance x.source).advance (sources xs)) rest with
      ⟨error | tokens, last⟩
    · rfl
    · simp [Except.map, tokensFrom]

/-- A source that is made of lexemes gives their tokens. -/
theorem tokenize_of_isLexing (p : Position) (h : IsLexing source xs) :
    (tokenize p source).1 = .ok (tokensFrom p xs) := by
  have happend := tokenize_append p h (stopAt_end xs)
  rw [List.append_nil, tokenize_nil] at happend
  rw [happend]
  simp [Except.map]

/-! ## Where no lexeme follows -/

/-- Where a tag without a name stands, no lexeme does. -/
theorem noLexeme_of_not_named (h : nextLexeme source = .ok (x, rest)) (hx : ¬ x.Named) :
    NoLexeme source := by
  rintro y after hy rfl
  obtain ⟨z, rest', hnext, hkind, -, hsame⟩ := exists_nextLexeme hy.closed after
  obtain ⟨rfl, -⟩ := nextLexeme_unique h hnext
  cases hy' : y.isText with
  | true =>
    cases x with
    | text t => exact hx trivial
    | construct k content => cases hkind.trans hy'
  | false => exact hx (hsame hy' ▸ hy.named)

/-- Every source begins with lexemes after which none follows. -/
theorem exists_isLexing (source : Text) :
    ∃ before rest xs, source = before ++ rest ∧ IsLexing before xs ∧ NoLexeme rest ∧
      StopAt xs rest := by
  have hnil : IsLexing [] [] := ⟨rfl, by simp, .nil⟩
  by_cases hne : source = []
  · refine ⟨[], [], [], hne, hnil, ?_, stopAt_nil []⟩
    intro x after hx hsource
    exact hx.closed.source_ne_nil (List.append_eq_nil_iff.1 hsource.symm).1
  · match hnext : nextLexeme source with
    | .error k =>
      have hfault := fault_of_nextLexeme hne hnext
      exact ⟨[], source, [], rfl, hnil, fun x after hx => hfault.2 x after hx.closed,
        stopAt_nil source⟩
    | .ok (x, tail) =>
      by_cases hnamed : x.Named
      · obtain ⟨before, rest, xs, htail, hxs, hrest, hlast⟩ := exists_isLexing tail
        obtain ⟨hsource, hclosed, hx⟩ := nextLexeme_eq_ok_iff.1 hnext
        rw [htail] at hx
        refine ⟨x.source ++ before, rest, x :: xs, ?_,
          hxs.cons ⟨hclosed, hnamed⟩ hx.of_append, hrest, hlast.cons hxs hx⟩
        rw [hsource, htail, List.append_assoc]
      · exact ⟨[], source, [], rfl, hnil, noLexeme_of_not_named hnext hnamed,
          stopAt_nil source⟩
termination_by source.length
decreasing_by exact length_of_nextLexeme hnext

/-- Where no lexeme stands, a `<` does. -/
theorem NoLexeme.head?_eq (h : NoLexeme source) (hne : source ≠ []) :
    source.head? = some '<' := by
  by_contra hlt
  exact h _ _ ⟨closed_takeWhile hne hlt, trivial⟩ List.takeWhile_append_dropWhile.symm

/-- Where no lexeme stands, tokenizing fails with what is wrong there. -/
theorem NoLexeme.exists_fault (h : NoLexeme source) (hne : source ≠ []) (p : Position) :
    ∃ e, (tokenize p source).1 = .error e ∧ FaultAt p source e := by
  match hnext : nextLexeme source with
  | .error k =>
    obtain ⟨hbegins, hclosed⟩ := fault_of_nextLexeme hne hnext
    rw [tokenize_of_error p hne hnext]
    exact ⟨_, rfl, .unterminated hbegins hclosed⟩
  | .ok (x, tail) =>
    obtain ⟨hsource, hclosed, -⟩ := nextLexeme_eq_ok_iff.1 hnext
    have hnamed : ¬ x.Named := fun hnamed => h x tail ⟨hclosed, hnamed⟩ hsource
    rw [tokenize_of_not_named p hnext hnamed]
    exact ⟨_, rfl, .nameless hsource hclosed hnamed⟩

/-- No lexemes reach further than those after which none follows. -/
theorem IsLexing.length_le {before' rest' : Text} (h : IsLexing before xs)
    (hrest : NoLexeme rest) (hstop : StopAt xs rest)
    (h' : IsLexing before' ys) (hsource : before ++ rest = before' ++ rest') :
    before'.length ≤ before.length := by
  induction ys generalizing before xs before' with
  | nil =>
    obtain rfl : [] = before' := h'.source_eq
    exact Nat.zero_le _
  | cons y ys ih =>
    obtain rfl : y.source ++ sources ys = before' := h'.source_eq
    have hy := h'.valid y List.mem_cons_self
    rw [List.append_assoc] at hsource
    cases xs with
    | nil =>
      obtain rfl : [] = before := h.source_eq
      exact absurd hsource (hrest y _ hy)
    | cons x xs =>
      have hnext := h.nextLexeme_append hstop
      obtain rfl : x.source ++ sources xs = before := h.source_eq
      by_cases hy' : y.StopsAt (sources ys ++ rest')
      · -- the scanner stops behind `y`, so both begin with the same lexeme
        have hnext' := nextLexeme_eq_ok_iff.2 ⟨hsource, hy.closed, hy'⟩
        obtain ⟨rfl, htail⟩ := nextLexeme_unique hnext hnext'
        have hlength := ih h.tail hstop.tail h'.tail htail
        simp only [List.length_append]
        omega
      · -- a text that could go on is the last one
        unfold StopsAt at hy'
        push Not at hy'
        obtain ⟨htext, c, hc, hlt⟩ := hy'
        cases ys with
        | cons z zs =>
          rw [h'.head?_of_isText htext rest'] at hc
          exact absurd (Option.some.inj hc).symm hlt
        | nil =>
          obtain ⟨z, r, hz, -, hlonger, -⟩ := exists_nextLexeme hy.closed (sources [] ++ rest')
          rw [← hsource] at hz
          obtain ⟨rfl, -⟩ := nextLexeme_unique hnext hz
          have hlength := hlonger.length_le
          simp only [sources, List.flatMap_nil, List.append_nil, List.length_append]
          omega

/-- A source gives tokens exactly if it is made of lexemes, and then it gives theirs. -/
theorem tokenize_eq_ok_iff {tokens : List SpannedToken} :
    (tokenize p source).1 = .ok tokens ↔
      ∃ xs, IsLexing source xs ∧ tokens = tokensFrom p xs := by
  constructor
  · intro h
    obtain ⟨before, rest, xs, rfl, hxs, hrest, hlast⟩ := exists_isLexing source
    by_cases hnil : rest = []
    · subst hnil
      rw [List.append_nil] at h ⊢
      rw [tokenize_of_isLexing p hxs] at h
      exact ⟨xs, hxs, (Except.ok.inj h).symm⟩
    · obtain ⟨e, he, -⟩ := hrest.exists_fault hnil (p.advance before)
      rw [tokenize_append p hxs hlast, he] at h
      cases h
  · rintro ⟨xs, hxs, rfl⟩
    exact tokenize_of_isLexing p hxs

/-- **Tokenizing accepts exactly the sources that are made of lexemes.** They are so in one
way, and the tokens are those of the lexemes. Any other source begins with lexemes after
which none follows; none reach further, and the error is what is wrong where they end. -/
theorem tokenize_grammar (source : Text) :
    (∀ tokens, (tokenize .start source).1 = .ok tokens ↔
      ∃ xs, IsLexing source xs ∧ tokens = tokensFrom .start xs) ∧
    (∀ xs ys, IsLexing source xs → IsLexing source ys → xs = ys) ∧
    ((∀ xs, ¬ IsLexing source xs) →
      ∃ before rest xs e, source = before ++ rest ∧ IsLexing before xs ∧ NoLexeme rest ∧
        (∀ before' rest' ys, source = before' ++ rest' → IsLexing before' ys →
          before'.length ≤ before.length) ∧
        rest.head? = some '<' ∧
        (tokenize .start source).1 = .error e ∧
        FaultAt (Position.start.advance before) rest e) := by
  refine ⟨fun _ => tokenize_eq_ok_iff, fun _ _ => IsLexing.unique, fun hnot => ?_⟩
  obtain ⟨before, rest, xs, hsource, hxs, hrest, hlast⟩ := exists_isLexing source
  have hne : rest ≠ [] := by
    rintro rfl
    rw [List.append_nil] at hsource
    exact hnot xs (hsource ▸ hxs)
  obtain ⟨e, he, hfault⟩ := hrest.exists_fault hne (Position.start.advance before)
  refine ⟨before, rest, xs, e, hsource, hxs, hrest, ?_, hrest.head?_eq hne, ?_, hfault⟩
  · intro before' rest' ys hsource' hys
    exact hxs.length_le hrest hlast hys (hsource.symm.trans hsource')
  · rw [hsource, tokenize_append .start hxs hlast, he]
    rfl

end Dialogue.Markup
