import Dialogue.Text.Casing

/-!
# Normal forms for matching

Patterns are matched against texts in a normal form: words of letters and digits in
uppercase, one space apart. `normalizeInput` brings what was said into this form by
deleting everything else; `fitPattern` makes a space of it, and leaves the two wildcards.
-/

namespace Dialogue.Text

open Unicode

/-- The text without its tags; `inTag` says whether it goes on inside one. -/
def withoutTagsFrom (inTag : Bool) : Text → Text
  | [] => []
  | c :: rest =>
    if c = '<' then withoutTagsFrom true rest
    else if inTag then withoutTagsFrom (c ≠ '>') rest
    else c :: withoutTagsFrom false rest

/-- The trimmed text without its tags. A tag ends at the next `>`. -/
def removeMarkup (t : Text) : Text := trim (withoutTagsFrom false t)

/-- The words of letters and digits, one space apart. Other characters are deleted, so they
do not separate words. -/
def normalizeWords (t : Text) : Text :=
  join [' '] (words (t.filter (fun c => isAlphanumeric c || isWhiteSpace c)))

/-- The form in which input and its context are matched: the words in uppercase. -/
def normalizeInput (t : Text) : Text := upper (normalizeWords t)

def isPatternChar (c : Char) : Bool := isAlphanumeric c || c == '*' || c == '_'

/-- The text in the form of a pattern: without tags, in uppercase, with one space for each
run of characters that cannot stand in a pattern. -/
def fitPattern (t : Text) : Text :=
  join [' '] (words (upper ((removeMarkup t).map (fun c => if isPatternChar c then c else ' '))))

end Dialogue.Text
