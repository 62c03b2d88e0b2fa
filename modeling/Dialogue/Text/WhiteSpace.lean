import Dialogue.Text.Basic

/-!
# Collapsing white space

A run of white space counts as one space. Inside a literal section, `<![CDATA[` up to the
next `]]>`, white space is part of the content and stays as it is.
-/

namespace Dialogue.Text

open Unicode

def literalOpen : Text := "<![CDATA[".toList

theorem length_literalOpen : literalOpen.length = 9 := by decide

def literalClose : Text := "]]>".toList

/-- Makes one space of each run of white space; `inRun` says whether the text goes on after
white space. -/
def collapseFrom (inRun : Bool) : Text → Text
  | [] => []
  | c :: rest =>
    if isWhiteSpace c then
      if inRun then collapseFrom true rest else ' ' :: collapseFrom true rest
    else c :: collapseFrom false rest

/-- The text with one space for each run of white space, also at its ends. -/
def collapse (t : Text) : Text := collapseFrom false t

/-! ## Literal sections -/

/-- A stretch of a text: ordinary, or the content of a literal section. -/
inductive Stretch where
  | ordinary (text : Text)
  | literal (content : Text)
deriving DecidableEq, Repr

/-- The stretches of a text, cut at its complete literal sections from the left. A mark that
opens a section without end is ordinary text. -/
def stretches (t : Text) : List Stretch :=
  match _hopen : breakOn literalOpen t with
  | none => [.ordinary t]
  | some (before, inside) =>
    match _hclose : breakOn literalClose inside with
    | none => [.ordinary t]
    | some (content, rest) => .ordinary before :: .literal content :: stretches rest
termination_by t.length
decreasing_by
  have := length_of_breakOn _hopen
  have := length_of_breakOn _hclose
  have := length_literalOpen
  omega

/-- Appends the characters of an ordinary stretch, one space for each run of white space and
none at the beginning of the whole. The result so far is given in reverse. -/
def appendCollapsed (result : Text) : Text → Text
  | [] => result
  | c :: rest =>
    if isWhiteSpace c then
      appendCollapsed (if result.isEmpty || result.head? == some ' ' then result else ' ' :: result)
        rest
    else appendCollapsed (c :: result) rest

def appendStretch (result : Text) : Stretch → Text
  | .ordinary t => appendCollapsed result t
  | .literal content => (literalOpen ++ content ++ literalClose).reverse ++ result

/-- The text with one space for each run of white space outside literal sections, and none
at its ends. -/
def normalizeWhiteSpace (t : Text) : Text :=
  match (stretches t).foldl appendStretch [] with
  | ' ' :: result => result.reverse
  | result => result.reverse

end Dialogue.Text
