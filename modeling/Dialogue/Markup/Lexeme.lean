import Dialogue.Text.Basic

/-!
# Lexemes

A source is a sequence of lexemes: runs of text without `<`, and constructs, which stand
between an opening and a closing delimiter. Which construct begins at a `<` is decided by
the characters behind it. Comments, literal blocks and instructions end at the first closing
delimiter; a tag ends at the first `>` outside quotes, and a `<` outside quotes breaks it.
-/

namespace Dialogue.Markup

/-- What can begin with `<`. -/
inductive Construct where
  | comment
  | instruction
  | literalBlock
  | endTag
  | openTag
deriving DecidableEq, Repr

namespace Construct

def opening : Construct → Text
  | .comment => "<!--".toList
  | .instruction => "<?".toList
  | .literalBlock => "<![CDATA[".toList
  | .endTag => "</".toList
  | .openTag => "<".toList

def closing : Construct → Text
  | .comment => "-->".toList
  | .instruction => "?>".toList
  | .literalBlock => "]]>".toList
  | .endTag => ">".toList
  | .openTag => ">".toList

/-- The name of a construct in error reports. -/
def label : Construct → Text
  | .comment => "comment".toList
  | .instruction => "processing_instruction".toList
  | .literalBlock => "literal_block".toList
  | .endTag => "end_tag".toList
  | .openTag => "open_or_empty_tag".toList

/-- The name of a construct in the trail of a failure. -/
def title : Construct → Text
  | .comment => "comment".toList
  | .instruction => "processing instruction".toList
  | .literalBlock => "literal block".toList
  | .endTag => "end tag".toList
  | .openTag => "open or empty tag".toList

/-- The constructs that have an opening of their own, in the order in which they are tried.
Any other `<` opens a tag. -/
def marked : List Construct := [.comment, .instruction, .literalBlock, .endTag]

/-- The construct with an opening of its own with which a source begins. -/
def ofSource? (source : Text) : Option Construct :=
  marked.find? (fun k => k.opening.isPrefixOf source)

/-- The construct with which a source begins, if its first character is `<`. -/
def ofSource (source : Text) : Construct := (ofSource? source).getD .openTag

end Construct

/-- The content of a tag and what follows its `>`. The first argument is the quote inside
which the content goes on. -/
def tagContent : Option Char → Text → Option (Text × Text)
  | _, [] => none
  | some quote, c :: rest =>
    (tagContent (if c = quote then none else some quote) rest).map
      fun (content, after) => (c :: content, after)
  | none, c :: rest =>
    if c = '>' then some ([], rest)
    else if c = '<' then none
    else
      (tagContent (if c = '"' ∨ c = '\'' then some c else none) rest).map
        fun (content, after) => (c :: content, after)

/-- The content of a construct and what follows it, given what follows its opening. -/
def Construct.content (k : Construct) (source : Text) : Option (Text × Text) :=
  match k with
  | .endTag | .openTag => tagContent none source
  | _ => Text.breakOn k.closing source

inductive Lexeme where
  | text (text : Text)
  | construct (kind : Construct) (content : Text)
deriving DecidableEq, Repr

def Lexeme.source : Lexeme → Text
  | .text t => t
  | .construct k content => k.opening ++ content ++ k.closing

/-! ## Scanning -/

/-- What a scanner found missing. -/
inductive ScanFault where
  /-- A fixed delimiter. -/
  | delimiter
  /-- One certain character. -/
  | character (c : Char)
  /-- The end of what was begun. -/
  | terminator
  /-- At least one character of a run. -/
  | run
  /-- One of several alternatives. -/
  | alternative
  /-- What the scanner of this name reads. -/
  | within (name : Text)
deriving DecidableEq, Repr

/-- The failures that led to one another, the innermost first, each with the number of bytes
before it. -/
abbrev Trail := List (Nat × ScanFault)

/-- Reads a run of text up to the next `<`. -/
def scanText (source : Text) : Except Trail (Text × Text) :=
  match source.takeWhile (· ≠ '<') with
  | [] => .error [(0, .run), (0, .within "text".toList)]
  | run => .ok (run, source.dropWhile (· ≠ '<'))

/-- Reads a `<` and finds which construct with an opening of its own it begins. -/
def scanStart (source : Text) : Except Trail (Construct × Text) :=
  match source with
  | '<' :: rest =>
    match Construct.ofSource? source with
    | some k => .ok (k, rest)
    | none => .error [(1, .delimiter), (1, .alternative), (0, .within "tag start".toList)]
  | _ => .error [(0, .character '<'), (0, .within "tag start".toList)]

def Construct.scan (k : Construct) (source : Text) : Except Trail (Text × Text) :=
  if k.opening.isPrefixOf source then
    match k.content (source.drop k.opening.length) with
    | some found => .ok found
    | none => .error [(k.opening.length, .terminator), (0, .within k.title)]
  else .error [(0, if k = .openTag then .character '<' else .delimiter), (0, .within k.title)]

/-- The first lexeme of a source and what follows it. If there is none, the construct that
begins here has no end. -/
def nextLexeme (source : Text) : Except Construct (Lexeme × Text) :=
  match source.takeWhile (· ≠ '<') with
  | [] =>
    let k := Construct.ofSource source
    match k.content (source.drop k.opening.length) with
    | some (content, rest) => .ok (.construct k content, rest)
    | none => .error k
  | run => .ok (.text run, source.dropWhile (· ≠ '<'))

/-! ## Lexemes are parts of the source -/

theorem eq_append_of_tagContent {quote : Option Char} {source content rest : Text}
    (h : tagContent quote source = some (content, rest)) : source = content ++ '>' :: rest := by
  induction source generalizing quote content with
  | nil => cases quote <;> simp [tagContent] at h
  | cons c tail ih =>
    cases quote with
    | some q =>
      obtain ⟨⟨b, a⟩, hb, he⟩ := Option.map_eq_some_iff.1 h
      simp only [Prod.mk.injEq] at he
      obtain ⟨rfl, rfl⟩ := he
      simp [ih hb]
    | none =>
      rw [tagContent] at h
      split at h
      · simp only [Option.some.injEq, Prod.mk.injEq] at h
        obtain ⟨rfl, rfl⟩ := h
        simp_all
      · split at h
        · cases h
        · obtain ⟨⟨b, a⟩, hb, he⟩ := Option.map_eq_some_iff.1 h
          simp only [Prod.mk.injEq] at he
          obtain ⟨rfl, rfl⟩ := he
          simp [ih hb]

theorem Construct.eq_append_of_content {k : Construct} {source content rest : Text}
    (h : k.content source = some (content, rest)) : source = content ++ k.closing ++ rest := by
  cases k with
  | endTag | openTag => simpa [closing] using eq_append_of_tagContent h
  | comment | instruction | literalBlock => exact Text.eq_append_of_breakOn h

/-- What follows the first lexeme is shorter than the source. -/
theorem length_of_nextLexeme {source rest : Text} {x : Lexeme}
    (h : nextLexeme source = .ok (x, rest)) : rest.length < source.length := by
  rw [nextLexeme] at h
  split at h
  · dsimp only at h
    split at h
    · rename_i content tail hc
      cases h
      have := congrArg List.length (Construct.eq_append_of_content hc)
      have hpos : 0 < (Construct.ofSource source).closing.length := by
        generalize Construct.ofSource source = k
        cases k <;> decide
      simp at this
      omega
    · cases h
  · rename_i run hne
    cases h
    have hpos : 0 < (source.takeWhile (· ≠ '<')).length :=
      List.length_pos_iff.2 (fun h => hne h)
    have := congrArg List.length (List.takeWhile_append_dropWhile (p := (· ≠ '<')) (l := source))
    simp only [List.length_append] at this
    omega

end Dialogue.Markup
