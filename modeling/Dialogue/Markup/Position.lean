import Dialogue.Text.Basic

/-!
# Positions in a source

A position counts bytes from 0, and lines and columns from 1. Only a line feed ends a line,
and a column is one character wide.
-/

namespace Dialogue.Markup

structure Position where
  offset : Nat
  line : Nat
  column : Nat
deriving DecidableEq, Repr

namespace Position

def start : Position := ⟨0, 1, 1⟩

/-- The position behind a character. -/
def step (p : Position) (c : Char) : Position :=
  if c = '\n' then ⟨p.offset + c.utf8Size, p.line + 1, 1⟩
  else ⟨p.offset + c.utf8Size, p.line, p.column + 1⟩

def advance (p : Position) (t : Text) : Position := t.foldl step p

/-- Behind two texts is behind the second, from behind the first. -/
theorem advance_append (p : Position) (s t : Text) :
    p.advance (s ++ t) = (p.advance s).advance t := List.foldl_append

end Position

/-- A part of a source: the position where it begins and the offset where it ends. -/
structure Span where
  start : Position
  stop : Nat
deriving DecidableEq, Repr

def Span.render (s : Span) : Text :=
  "line: ".toList ++ Text.ofNat s.start.line ++ ", column: ".toList ++ Text.ofNat s.start.column
    ++ ", start: ".toList ++ Text.ofNat s.start.offset ++ ", end: ".toList ++ Text.ofNat s.stop

end Dialogue.Markup
