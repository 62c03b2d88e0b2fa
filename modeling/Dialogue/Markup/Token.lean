import Dialogue.Markup.Lexeme
import Dialogue.Markup.Error

/-!
# Tokens

A token is what a lexeme means: a tag is taken apart into its name and its attribute text,
and an instruction means nothing. Tokenizing goes on from any position, so that a source can
be given in chunks.
-/

namespace Dialogue.Markup

open Unicode

/-- A token. The attribute text of a tag is kept as written. -/
inductive Token where
  | text (text : Text)
  | startTag (name attributes : Text)
  | emptyTag (name attributes : Text)
  | endTag (name : Text)
  | literalBlock (text : Text)
  | comment (text : Text)
deriving DecidableEq, Repr

/-- The content of a tag without the slash at its end, if there is one. -/
def withoutSlash (content : Text) : Option Text :=
  if content.getLast? = some '/' then some content.dropLast else none

/-- The token of a tag that is not an end tag. The name goes up to the first white space; a
slash at the end makes the tag empty. -/
def Token.ofTagContent (content : Text) : Token :=
  match withoutSlash content with
  | some content =>
    .emptyTag (content.takeWhile (!isWhiteSpace ·)) (content.dropWhile (!isWhiteSpace ·))
  | none => .startTag (content.takeWhile (!isWhiteSpace ·)) (content.dropWhile (!isWhiteSpace ·))

/-- The token of a construct. An instruction has none. -/
def Token.ofConstruct (content : Text) : Construct → Option Token
  | .comment => some (.comment content)
  | .instruction => none
  | .literalBlock => some (.literalBlock content)
  | .endTag => some (.endTag (Text.trim content))
  | .openTag => some (ofTagContent content)

def Lexeme.token? : Lexeme → Option Token
  | .text t => some (.text t)
  | .construct k content => Token.ofConstruct content k

def Token.isNameless : Token → Bool
  | .startTag name _ | .emptyTag name _ | .endTag name => name.isEmpty
  | _ => false

structure SpannedToken where
  token : Token
  span : Span
deriving DecidableEq, Repr

/-- Tokenizes a chunk that begins at the given position. Also returns the position behind all
that was read: behind the chunk, or before the construct that has no end, or behind the tag
that has no name. -/
def tokenize (position : Position) (chunk : Text) :
    Except MarkupError (List SpannedToken) × Position :=
  if chunk = [] then (.ok [], position)
  else
    match _h : nextLexeme chunk with
    | .error k =>
      (.error (.unterminated k chunk ⟨position, position.offset + 1⟩), position)
    | .ok (x, rest) =>
      let next := position.advance x.source
      let span : Span := ⟨position, next.offset⟩
      match x.token? with
      | none => tokenize next rest
      | some token =>
        if token.isNameless then (.error (.emptyTagName x.source span), next)
        else
          let (tokens, last) := tokenize next rest
          (tokens.map (⟨token, span⟩ :: ·), last)
termination_by chunk.length
decreasing_by all_goals exact length_of_nextLexeme _h

end Dialogue.Markup
