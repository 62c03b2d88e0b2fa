import Dialogue.Unicode.Alphabetic
import Dialogue.Unicode.Numeric

/-!
# White space and alphanumeric characters

The two classes on which all normalization of text rests. White space is the Unicode
property White_Space: it has the no-break space and the ideographic space in it, and the
zero-width space not.
-/

namespace Dialogue.Unicode

/-- The code points with the property White_Space. -/
def whiteSpaceRanges : List Range :=
  [(0x9, 0xD), (0x20, 0x20), (0x85, 0x85), (0xA0, 0xA0), (0x1680, 0x1680), (0x2000, 0x200A),
   (0x2028, 0x2029), (0x202F, 0x202F), (0x205F, 0x205F), (0x3000, 0x3000)]

/-- The character separates words. -/
def isWhiteSpace (c : Char) : Bool := inRanges whiteSpaceRanges c.toNat

def isAlphanumeric (c : Char) : Bool := isAlphabetic c || isNumeric c

end Dialogue.Unicode
