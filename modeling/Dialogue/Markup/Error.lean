import Dialogue.Markup.Position
import Dialogue.Markup.Lexeme

/-!
# Errors in markup

What can be wrong with a source, and the messages that say so. A construct without an end is
reported with the beginning of what follows its opening, and with the trail that shows where
the end was looked for.
-/

namespace Dialogue.Markup

/-- What is wrong with a source. -/
inductive MarkupError where
  /-- The construct at the beginning of `remaining` has no end. -/
  | unterminated (construct : Construct) (remaining : Text) (span : Span)
  /-- The tag has no name. -/
  | emptyTagName (tag : Text) (span : Span)
  /-- An end tag stands where another element is open. -/
  | unmatchedEndTag (expected found : Text) (span : Span)
  /-- An end tag stands where no element is open. -/
  | strayEndTag (found : Text) (span : Span)
  /-- An element is never closed. -/
  | unclosedElement (name : Text) (span : Span)
deriving DecidableEq, Repr

/-- The beginning of a source that a message shows. -/
def excerpt (source : Text) : Text := source.take 20

/-- The first line of a source, without the white space at its end. -/
def firstLine (source : Text) : Text := Text.trimEnd (source.takeWhile (· ≠ '\n'))

/-- One entry of a trail: its number, what was looked for, and the first line of the source
with a caret below the byte at `offset`. -/
def trailEntry (number : Nat) (what line : Text) (offset : Nat) : Text :=
  Text.ofNat number ++ ": at line 1, in ".toList ++ what ++ ":\n".toList ++ line ++ ['\n']
    ++ List.replicate offset ' ' ++ "^\n\n".toList

/-- The trail of a construct without an end. An opening holds no line feed, so both entries
lie on the first line of what remains. -/
def unterminatedTrail (construct : Construct) (remaining : Text) : Text :=
  trailEntry 0 "TakeUntil".toList (firstLine remaining) construct.opening.length
    ++ trailEntry 1 construct.title (firstLine remaining) 0

namespace MarkupError

def span : MarkupError → Span
  | .unterminated _ _ span | .emptyTagName _ span | .unmatchedEndTag _ _ span
  | .strayEndTag _ span | .unclosedElement _ span => span

def message : MarkupError → Text
  | .unterminated construct remaining span =>
    "Unterminated ".toList ++ construct.label ++ " at position ".toList ++ span.render
      ++ ", found \"".toList ++ excerpt remaining ++ "\": ".toList
      ++ unterminatedTrail construct remaining
  | .emptyTagName tag span =>
    "Missing tag name at position ".toList ++ span.render ++ ", found \"".toList ++ excerpt tag
      ++ "\"".toList
  | .unmatchedEndTag expected found span =>
    "End tag </".toList ++ found ++ "> does not close <".toList ++ expected
      ++ "> at position ".toList ++ span.render
  | .strayEndTag found span =>
    "End tag </".toList ++ found ++ "> has no open element at position ".toList ++ span.render
  | .unclosedElement name span =>
    "Element <".toList ++ name ++ "> opened at position ".toList ++ span.render
      ++ " is never closed".toList

end MarkupError

end Dialogue.Markup
