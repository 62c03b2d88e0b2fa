import Dialogue.Markup.Token
import Mathlib.Data.List.Chain

/-!
# The lexical grammar

Which texts are lexemes, said without a scanner, and what it means that a source is made of
them. The parts of a source are told apart by what stands in them: text has no `<` in it, a
comment no `-->`, a literal block no `]]>`, an instruction no `?>`, and in a tag every quote is
closed and all angle brackets stand in quotes.
-/

namespace Dialogue.Markup

open Unicode

/-- What may stand in a tag: its quotes are closed, and neither `<` nor `>` stands outside of
them. -/
inductive IsTagContent : Text → Prop
  | nil : IsTagContent []
  | plain {c : Char} {rest : Text} : c ∉ ['<', '>', '"', '\''] → IsTagContent rest →
      IsTagContent (c :: rest)
  | quoted {quote : Char} {inside rest : Text} : quote = '"' ∨ quote = '\'' → quote ∉ inside →
      IsTagContent rest → IsTagContent (quote :: (inside ++ quote :: rest))

namespace Construct

/-- What may stand between the delimiters of a construct. -/
def Admits (k : Construct) (content : Text) : Prop :=
  match k with
  | .comment | .instruction | .literalBlock => ¬ k.closing <:+: content
  | .endTag | .openTag => IsTagContent content

/-- The construct begins here. A `<` begins an opening or empty tag only if no other construct
begins with it. -/
def Begins (k : Construct) (source : Text) : Prop :=
  k.opening <+: source ∧ (k = .openTag → ∀ m ∈ marked, ¬ m.opening <+: source)

end Construct

/-- The name of an opening or empty tag: what stands before the first white space, not
counting a slash at the end. -/
def tagName (content : Text) : Text :=
  ((withoutSlash content).getD content).takeWhile (!isWhiteSpace ·)

namespace Lexeme

def isText : Lexeme → Bool
  | .text _ => true
  | .construct _ _ => false

/-- What is written is a lexeme, but for the name that a tag needs. -/
def Closed : Lexeme → Prop
  | .text t => t ≠ [] ∧ '<' ∉ t
  | .construct k content => k.Begins (k.opening ++ content) ∧ k.Admits content

def Named : Lexeme → Prop
  | .construct .endTag content => ∃ c ∈ content, isWhiteSpace c = false
  | .construct .openTag content => tagName content ≠ []
  | _ => True

structure Valid (x : Lexeme) : Prop where
  closed : x.Closed
  named : x.Named

def sources (xs : List Lexeme) : Text := xs.flatMap source

/-- The tokens of a lexeme that stands at the given position: one, or none for an
instruction. -/
def tokensAt (x : Lexeme) (p : Position) : List SpannedToken :=
  (x.token?.map fun token => ⟨token, ⟨p, (p.advance x.source).offset⟩⟩).toList

def tokensFrom (p : Position) : List Lexeme → List SpannedToken
  | [] => []
  | x :: rest => x.tokensAt p ++ tokensFrom (p.advance x.source) rest

end Lexeme

/-- The source is made of the lexemes. No text follows on text. -/
structure IsLexing (source : Text) (xs : List Lexeme) : Prop where
  source_eq : Lexeme.sources xs = source
  valid : ∀ x ∈ xs, x.Valid
  apart : xs.IsChain fun x y => x.isText = true → y.isText = false

def NoLexeme (source : Text) : Prop :=
  ∀ (x : Lexeme) (after : Text), x.Valid → source ≠ x.source ++ after

/-- What is wrong at a position where no lexeme stands: a tag without a name, or a construct
without an end. -/
inductive FaultAt (p : Position) (source : Text) : MarkupError → Prop
  | nameless {x : Lexeme} {after : Text} : source = x.source ++ after → x.Closed → ¬ x.Named →
      FaultAt p source (.emptyTagName x.source ⟨p, (p.advance x.source).offset⟩)
  | unterminated {k : Construct} : k.Begins source →
      (∀ (x : Lexeme) (after : Text), x.Closed → source ≠ x.source ++ after) →
      FaultAt p source (.unterminated k source ⟨p, p.offset + 1⟩)

end Dialogue.Markup
