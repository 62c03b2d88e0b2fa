import Dialogue.Text.Basic
import Dialogue.Unicode.CaseFolding
import Dialogue.Unicode.Uppercase

/-!
# Patterns

A pattern is a sequence of tokens one space apart. A token is a wildcard, which stands for
one or more words, or a word of uppercase letters and numbers, which stands for itself. A
text that is not a pattern is refused with the first fault in it.
-/

namespace Dialogue

open Unicode

/-- The two spellings of a wildcard. They mean the same. -/
inductive Wildcard where
  | star
  | underscore
deriving DecidableEq, Repr

inductive PatternToken where
  | wildcard (spelling : Wildcard)
  | word (word : Text)
deriving DecidableEq, Repr

abbrev Pattern := List PatternToken

/-- What is wrong with the text of a pattern. -/
inductive PatternFault where
  | empty
  /-- Two spaces meet, or a space stands at an end; tokens are counted from 1. -/
  | emptyToken (position : Nat)
  | unexpectedCharacter (character : Char) (token : Text)
deriving DecidableEq, Repr

def PatternFault.reason : PatternFault → Text
  | .empty => "pattern is empty".toList
  | .emptyToken position => "empty token at position ".toList ++ Text.ofNat position
  | .unexpectedCharacter c token =>
    "unexpected character '".toList ++ [c] ++ "' in token \"".toList ++ token ++ "\"".toList

structure InvalidPattern where
  pattern : Text
  fault : PatternFault
deriving DecidableEq, Repr

def InvalidPattern.message (e : InvalidPattern) : Text :=
  "Invalid pattern \"".toList ++ e.pattern ++ "\": ".toList ++ e.fault.reason

def Wildcard.text : Wildcard → Text
  | .star => ['*']
  | .underscore => ['_']

def PatternToken.text : PatternToken → Text
  | .wildcard spelling => spelling.text
  | .word w => w

def PatternToken.isWildcard : PatternToken → Bool
  | .wildcard _ => true
  | .word _ => false

/-- The character may stand in a word of a pattern. -/
def isPatternWordChar (c : Char) : Bool := isUppercase c || isNumeric c

/-- The token with the given written form, which is the one at `position`. -/
def PatternToken.parse? (position : Nat) (token : Text) : Except PatternFault PatternToken :=
  if token = [] then .error (.emptyToken position)
  else if token = ['*'] then .ok (.wildcard .star)
  else if token = ['_'] then .ok (.wildcard .underscore)
  else
    match token.find? (fun c => !isPatternWordChar c) with
    | some c => .error (.unexpectedCharacter c token)
    | none => .ok (.word token)

namespace Pattern

def text (p : Pattern) : Text := Text.join [' '] (p.map PatternToken.text)

def wildcardCount (p : Pattern) : Nat := p.countP PatternToken.isWildcard

/-- The number of words that stand for themselves. -/
def literalCount (p : Pattern) : Nat := p.countP (fun t => !t.isWildcard)

/-- The tokens with the given written forms, the first of which is the one at `position`. -/
def parseTokens (position : Nat) : List Text → Except PatternFault Pattern
  | [] => .ok []
  | t :: rest => do
    let token ← PatternToken.parse? position t
    let tokens ← parseTokens (position + 1) rest
    return token :: tokens

def parse? (text : Text) : Except InvalidPattern Pattern :=
  if text = [] then .error ⟨text, .empty⟩
  else
    match parseTokens 1 (Text.splitWhen (· == ' ') text) with
    | .ok p => .ok p
    | .error fault => .error ⟨text, fault⟩

end Pattern

end Dialogue
