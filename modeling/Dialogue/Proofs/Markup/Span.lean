import Dialogue.Proofs.Markup.Lexing
import Mathlib.Data.List.DropRight

/-!
# Spans are exact

The position that tokenizing carries along is the one that counting gives: the bytes of all that
was read, its line feeds, and the characters behind the last of them (`Position.advance_behind`).
So each token has the bytes of its lexeme as its span, between two spans there are only
instructions (`exactSpans_tokensFrom`), and a chunk that fails is reported where the construct
stands that is wrong. This holds for any number of chunks that are read in turn, also behind those
that have failed (`tokenizeInTurn_exact`).
-/

namespace Dialogue.Markup

open Lexeme

variable {before : Text} {x y : Lexeme} {xs : List Lexeme} {span : Span}
  {tokens : List SpannedToken} {offset : Nat}

/-! ## Counting -/

namespace Position

/-- The position behind a text, counted: the bytes, the lines, and the characters of the last
line. -/
def behind (t : Text) : Position :=
  ⟨Text.byteLength t, 1 + t.count '\n', 1 + (t.rtakeWhile (· ≠ '\n')).length⟩

theorem behind_concat (t : Text) (c : Char) : behind (t ++ [c]) = (behind t).step c := by
  have hbytes : Text.byteLength (t ++ [c]) = Text.byteLength t + c.utf8Size := by
    rw [Text.byteLength_append]
    rfl
  by_cases hc : c = '\n'
  · subst hc
    simp [behind, step, hbytes, Nat.add_assoc]
  · simp [behind, step, hbytes, hc, Nat.add_assoc]

/-- **Going on from a counted position gives the counted position.** -/
theorem advance_behind (s t : Text) : (behind s).advance t = behind (s ++ t) := by
  induction t generalizing s with
  | nil =>
    rw [List.append_nil]
    rfl
  | cons c t ih =>
    show ((behind s).step c).advance t = _
    rw [← behind_concat, ih, List.append_assoc]
    rfl

end Position

/-- The part of a source that a text takes behind another one. -/
def Span.ofText (before t : Text) : Span := ⟨.behind before, Text.byteLength (before ++ t)⟩

def Span.Covers (s : Span) (offset : Nat) : Prop := s.start.offset ≤ offset ∧ offset < s.stop

theorem byteLength_pos {t : Text} (h : t ≠ []) : 0 < Text.byteLength t := by
  cases t with
  | nil => exact absurd rfl h
  | cons c t =>
    have := c.utf8Size_pos
    rw [Text.byteLength]
    omega

theorem Span.covers_ofText_iff {t : Text} :
    (Span.ofText before t).Covers offset ↔
      Text.byteLength before ≤ offset ∧ offset < Text.byteLength before + Text.byteLength t := by
  rw [← Text.byteLength_append]
  exact Iff.rfl

/-! ## The part that a lexeme takes -/

/-- The lexeme is one of those that stand behind the text `before`, and takes this part of the
source. -/
def Lexeme.Occupies (x : Lexeme) (before : Text) (xs : List Lexeme) (span : Span) : Prop :=
  ∃ ys zs, xs = ys ++ x :: zs ∧ span = Span.ofText (before ++ sources ys) x.source

theorem Lexeme.occupies_cons_iff :
    x.Occupies before (y :: xs) span ↔
      (x = y ∧ span = Span.ofText before y.source) ∨ x.Occupies (before ++ y.source) xs span := by
  constructor
  · rintro ⟨ys, zs, hxs, rfl⟩
    rcases List.cons_eq_append_iff.1 hxs with ⟨rfl, h⟩ | ⟨ys, rfl, rfl⟩
    · obtain ⟨rfl, rfl⟩ := List.cons.inj h
      left
      rw [show sources [] = [] from rfl, List.append_nil]
      exact ⟨rfl, rfl⟩
    · right
      refine ⟨ys, zs, rfl, ?_⟩
      rw [sources_cons, List.append_assoc]
  · rintro (⟨rfl, rfl⟩ | ⟨ys, zs, rfl, rfl⟩)
    · refine ⟨[], xs, rfl, ?_⟩
      rw [show sources [] = [] from rfl, List.append_nil]
    · refine ⟨y :: ys, zs, rfl, ?_⟩
      rw [sources_cons, List.append_assoc]

/-- A lexeme takes no part in front of where the lexemes begin. -/
theorem Lexeme.Occupies.le_start (h : x.Occupies before xs span) :
    Text.byteLength before ≤ span.start.offset := by
  obtain ⟨ys, zs, -, rfl⟩ := h
  show _ ≤ Text.byteLength (before ++ sources ys)
  rw [Text.byteLength_append]
  exact Nat.le_add_right _ _

/-- Every byte belongs to one of the lexemes. -/
theorem exists_occupies (h : (Span.ofText before (sources xs)).Covers offset) :
    ∃ (x : Lexeme) (span : Span), x.Occupies before xs span ∧ span.Covers offset := by
  induction xs generalizing before with
  | nil =>
    rw [Span.covers_ofText_iff] at h
    have hnil : Text.byteLength (sources []) = 0 := rfl
    omega
  | cons y xs ih =>
    by_cases hy : (Span.ofText before y.source).Covers offset
    · exact ⟨y, _, occupies_cons_iff.2 (.inl ⟨rfl, rfl⟩), hy⟩
    · have hrest : (Span.ofText (before ++ y.source) (sources xs)).Covers offset := by
        rw [Span.covers_ofText_iff] at h hy ⊢
        rw [sources_cons, Text.byteLength_append] at h
        rw [Text.byteLength_append]
        omega
      obtain ⟨x, span, hx, hspan⟩ := ih hrest
      exact ⟨x, span, occupies_cons_iff.2 (.inr hx), hspan⟩

/-- No byte belongs to two lexemes. -/
theorem Lexeme.Occupies.unique {span' : Span} (hx : x.Occupies before xs span)
    (hspan : span.Covers offset) (hy : y.Occupies before xs span')
    (hspan' : span'.Covers offset) : x = y := by
  induction xs generalizing before with
  | nil =>
    obtain ⟨ys, zs, hnil, -⟩ := hx
    simp at hnil
  | cons z xs ih =>
    -- a byte of the first lexeme lies in front of what the others take
    have happart : ∀ {w : Lexeme} {s : Span}, w.Occupies (before ++ z.source) xs s →
        s.Covers offset → ¬ (Span.ofText before z.source).Covers offset :=
      fun hw hs hz => absurd hz.2 (Nat.not_lt.2 (hw.le_start.trans hs.1))
    rcases occupies_cons_iff.1 hx with ⟨rfl, rfl⟩ | hx
    · rcases occupies_cons_iff.1 hy with ⟨rfl, -⟩ | hy
      · rfl
      · exact absurd hspan (happart hy hspan')
    · rcases occupies_cons_iff.1 hy with ⟨rfl, rfl⟩ | hy
      · exact absurd hspan' (happart hx hspan)
      · exact ih hx hy

/-! ## The tokens of lexemes -/

/-- The tokens of lexemes that stand behind the text `before` have exact spans. -/
structure ExactSpans (before : Text) (xs : List Lexeme) (tokens : List SpannedToken) : Prop where
  /-- There is a token for each lexeme that has one, and its span is what the lexeme takes. -/
  mem_iff : ∀ token span, ⟨token, span⟩ ∈ tokens ↔
    ∃ x : Lexeme, x.Occupies before xs span ∧ x.token? = some token
  start_lt_stop : ∀ t ∈ tokens, t.span.start.offset < t.span.stop
  increasing : tokens.Pairwise fun s t => s.span.stop ≤ t.span.start.offset
  /-- The bytes in no span are those of the instructions. -/
  uncovered_iff : ∀ offset, (Span.ofText before (sources xs)).Covers offset →
    ((∀ t ∈ tokens, ¬ t.span.Covers offset) ↔
      ∃ content span, (Lexeme.construct .instruction content).Occupies before xs span ∧
        span.Covers offset)

theorem tokensFrom_cons (before : Text) (x : Lexeme) (xs : List Lexeme) :
    tokensFrom (.behind before) (x :: xs) =
      (x.token?.map fun token => ⟨token, Span.ofText before x.source⟩).toList ++
        tokensFrom (.behind (before ++ x.source)) xs := by
  rw [tokensFrom, tokensAt, Position.advance_behind]
  rfl

theorem mem_tokensFrom {token : Token} :
    ⟨token, span⟩ ∈ tokensFrom (.behind before) xs ↔
      ∃ x : Lexeme, x.Occupies before xs span ∧ x.token? = some token := by
  induction xs generalizing before with
  | nil => simp [tokensFrom, Occupies]
  | cons y xs ih =>
    rw [tokensFrom_cons, List.mem_append, ih]
    simp only [occupies_cons_iff, or_and_right, exists_or, Option.mem_toList,
      Option.map_eq_some_iff, SpannedToken.mk.injEq]
    refine or_congr_left ⟨?_, ?_⟩
    · rintro ⟨_, htoken, rfl, rfl⟩
      exact ⟨y, ⟨rfl, rfl⟩, htoken⟩
    · rintro ⟨_, ⟨rfl, rfl⟩, htoken⟩
      exact ⟨token, htoken, rfl, rfl⟩

theorem increasing_tokensFrom (before : Text) (xs : List Lexeme) :
    (tokensFrom (.behind before) xs).Pairwise fun s t => s.span.stop ≤ t.span.start.offset := by
  induction xs generalizing before with
  | nil => exact .nil
  | cons y xs ih =>
    rw [tokensFrom_cons]
    refine List.pairwise_append.2 ⟨?_, ih _, ?_⟩
    · cases y.token? with
      | none => exact .nil
      | some token => exact List.pairwise_singleton _ _
    · intro s hs t ht
      obtain ⟨token, -, rfl⟩ := Option.map_eq_some_iff.1 (Option.mem_toList.1 hs)
      obtain ⟨x, hx, -⟩ := mem_tokensFrom.1 ht
      exact hx.le_start

/-- **The tokens of lexemes have exact spans.** -/
theorem exactSpans_tokensFrom (h : ∀ x ∈ xs, x.Closed) :
    ExactSpans before xs (tokensFrom (.behind before) xs) where
  mem_iff _ _ := mem_tokensFrom
  start_lt_stop := by
    rintro ⟨token, span⟩ ht
    obtain ⟨x, ⟨ys, zs, rfl, rfl⟩, -⟩ := mem_tokensFrom.1 ht
    have hpos := byteLength_pos (h x (List.mem_append_right ys List.mem_cons_self)).source_ne_nil
    exact (Nat.lt_add_of_pos_right hpos).trans_eq (Text.byteLength_append _ _).symm
  increasing := increasing_tokensFrom before xs
  uncovered_iff := by
    intro offset hoffset
    constructor
    · intro huncovered
      obtain ⟨x, span, hx, hspan⟩ := exists_occupies hoffset
      cases htoken : x.token? with
      | none =>
        obtain ⟨content, rfl⟩ := exists_instruction_of_token? htoken
        exact ⟨content, span, hx, hspan⟩
      | some token =>
        exact absurd hspan (huncovered ⟨token, span⟩ (mem_tokensFrom.2 ⟨x, hx, htoken⟩))
    · rintro ⟨content, span, hx, hspan⟩ ⟨token, span'⟩ ht hspan'
      obtain ⟨y, hy, htoken⟩ := mem_tokensFrom.1 ht
      obtain rfl := hx.unique hspan hy hspan'
      cases htoken

/-! ## Chunks -/

/-- What a chunk gives behind the text `before`, and what is read of it: the whole chunk, or what
stands in front of a construct without an end, or all up to the end of a tag without a name. -/
inductive ReadsChunk (before : Text) :
    Text → Except MarkupError (List SpannedToken) → Text → Prop
  | accepted {chunk : Text} {xs : List Lexeme} {tokens : List SpannedToken} : IsLexing chunk xs →
      ExactSpans before xs tokens → ReadsChunk before chunk (.ok tokens) chunk
  | unterminated {read rest : Text} {xs : List Lexeme} {k : Construct} : IsLexing read xs →
      k.Begins rest → (∀ (x : Lexeme) (after : Text), x.Closed → rest ≠ x.source ++ after) →
      ReadsChunk before (read ++ rest)
        (.error (.unterminated k rest
          ⟨.behind (before ++ read), Text.byteLength (before ++ read) + 1⟩)) read
  | nameless {read rest : Text} {xs : List Lexeme} {x : Lexeme} : IsLexing read xs →
      x.Closed → ¬ x.Named → ReadsChunk before (read ++ x.source ++ rest)
        (.error (.emptyTagName x.source (Span.ofText (before ++ read) x.source)))
        (read ++ x.source)

/-- **A chunk is read exactly**, from any counted position, and the position behind what is read
is the counted one again. -/
theorem tokenize_exact (before chunk : Text) :
    ∃ read, ReadsChunk before chunk (tokenize (.behind before) chunk).1 read ∧
      (tokenize (.behind before) chunk).2 = .behind (before ++ read) := by
  obtain ⟨lexed, rest, xs, rfl, hxs, hrest, hstop⟩ := exists_isLexing chunk
  rw [tokenize_append _ hxs hstop, Position.advance_behind]
  by_cases hnil : rest = []
  · subst hnil
    refine ⟨lexed, ?_, by rw [tokenize_nil]⟩
    rw [tokenize_nil, List.append_nil]
    show ReadsChunk before lexed (.ok (tokensFrom (.behind before) xs ++ [])) lexed
    rw [List.append_nil]
    exact .accepted hxs (exactSpans_tokensFrom fun x hx => (hxs.valid x hx).closed)
  · cases hnext : nextLexeme rest with
    | error k =>
      obtain ⟨hbegins, hclosed⟩ := fault_of_nextLexeme hnil hnext
      rw [tokenize_of_error _ hnil hnext]
      exact ⟨lexed, .unterminated hxs hbegins hclosed, rfl⟩
    | ok found =>
      obtain ⟨x, tail⟩ := found
      obtain ⟨rfl, hclosed, -⟩ := nextLexeme_eq_ok_iff.1 hnext
      have hnamed : ¬ x.Named := fun hnamed => hrest x tail ⟨hclosed, hnamed⟩ rfl
      rw [tokenize_of_not_named _ hnext hnamed, Position.advance_behind, ← List.append_assoc]
      refine ⟨lexed ++ x.source, .nameless hxs hclosed hnamed, ?_⟩
      rw [List.append_assoc]

/-- Tokenizes chunks in turn, each from the position at which the one before it was left. -/
def tokenizeInTurn (p : Position) :
    List Text → List (Except MarkupError (List SpannedToken)) × Position
  | [] => ([], p)
  | chunk :: chunks =>
    let (result, next) := tokenize p chunk
    let (results, last) := tokenizeInTurn next chunks
    (result :: results, last)

/-- What chunks give in turn behind the text `before`, and all the text that is then read. -/
inductive ReadsInTurn : Text → List Text → List (Except MarkupError (List SpannedToken)) → Text →
    Prop
  | nil {before : Text} : ReadsInTurn before [] [] before
  | cons {before chunk read after : Text} {result : Except MarkupError (List SpannedToken)}
      {chunks : List Text} {results : List (Except MarkupError (List SpannedToken))} :
      ReadsChunk before chunk result read → ReadsInTurn (before ++ read) chunks results after →
      ReadsInTurn before (chunk :: chunks) (result :: results) after

theorem tokenizeInTurn_behind (before : Text) (chunks : List Text) :
    ∃ after, ReadsInTurn before chunks (tokenizeInTurn (.behind before) chunks).1 after ∧
      (tokenizeInTurn (.behind before) chunks).2 = .behind after := by
  induction chunks generalizing before with
  | nil => exact ⟨before, .nil, rfl⟩
  | cons chunk chunks ih =>
    obtain ⟨read, hread, hnext⟩ := tokenize_exact before chunk
    obtain ⟨after, hreads, hlast⟩ := ih (before ++ read)
    have hturn : tokenizeInTurn (.behind before) (chunk :: chunks) =
        ((tokenize (.behind before) chunk).1 ::
          (tokenizeInTurn (.behind (before ++ read)) chunks).1,
          (tokenizeInTurn (.behind (before ++ read)) chunks).2) := by
      rw [← hnext]
      rfl
    rw [hturn]
    exact ⟨after, .cons hread hreads, hlast⟩

/-- **Every span is exact**, of tokens and of errors, for chunks that are read in turn from the
beginning of a source, whether they are accepted or not. -/
theorem tokenizeInTurn_exact (chunks : List Text) :
    ∃ after, ReadsInTurn [] chunks (tokenizeInTurn .start chunks).1 after ∧
      (tokenizeInTurn .start chunks).2 = .behind after :=
  tokenizeInTurn_behind [] chunks

/-- What stands behind a tag without a name in its chunk is passed over. -/
example : tokenizeInTurn .start ["é\n< >b".toList, "<?x?><b/>".toList] =
    ([.error (.emptyTagName "< >".toList ⟨⟨3, 2, 1⟩, 6⟩),
      .ok [⟨.emptyTag "b".toList [], ⟨⟨11, 2, 9⟩, 15⟩⟩]], ⟨15, 2, 13⟩) := by
  decide +kernel

end Dialogue.Markup
