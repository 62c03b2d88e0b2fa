import Dialogue.Json.Value

/-!
# Reading JSON

A JSON text is cut into tokens, and the tokens are read with a stack of the arrays and
objects that are still open. Reading is strict: no comments, no trailing commas, no leading
zeros, no unescaped control characters, and nothing but blanks after the value.
-/

namespace Dialogue.Json

/-! ## Strings -/

/-- A part of a string: a character, or an escaped UTF-16 code unit. -/
inductive StringPart where
  | character (c : Char)
  | unit (n : Nat)
deriving DecidableEq, Repr

def hexDigit? (c : Char) : Option Nat :=
  if '0' ≤ c ∧ c ≤ '9' then some (c.toNat - '0'.toNat)
  else if 'a' ≤ c ∧ c ≤ 'f' then some (c.toNat - 'a'.toNat + 10)
  else if 'A' ≤ c ∧ c ≤ 'F' then some (c.toNat - 'A'.toNat + 10)
  else none

def hexUnit? (a b c d : Char) : Option Nat := do
  return (((← hexDigit? a) * 16 + (← hexDigit? b)) * 16 + (← hexDigit? c)) * 16 + (← hexDigit? d)

/-- The character for which a short escape stands. -/
def shortEscape? : Char → Option Char
  | '"' => some '"'
  | '\\' => some '\\'
  | '/' => some '/'
  | 'b' => some (Char.ofNat 0x8)
  | 'f' => some (Char.ofNat 0xC)
  | 'n' => some '\n'
  | 'r' => some '\r'
  | 't' => some '\t'
  | _ => none

/-- The parts of a string up to its closing quote, and what follows it. -/
def readString : Text → Option (List StringPart × Text)
  | '"' :: rest => some ([], rest)
  | '\\' :: 'u' :: a :: b :: c :: d :: rest => do
    let n ← hexUnit? a b c d
    let (parts, after) ← readString rest
    return (.unit n :: parts, after)
  | '\\' :: e :: rest => do
    let c ← shortEscape? e
    let (parts, after) ← readString rest
    return (.character c :: parts, after)
  | c :: rest =>
    if c = '\\' ∨ c.toNat < 0x20 then none
    else (readString rest).map fun (parts, after) => (.character c :: parts, after)
  | [] => none

def isHighSurrogate (n : Nat) : Bool := 0xD800 ≤ n && n ≤ 0xDBFF

def isLowSurrogate (n : Nat) : Bool := 0xDC00 ≤ n && n ≤ 0xDFFF

/-- The text of a string, if every surrogate has its other half. -/
def textOfParts? : List StringPart → Option Text
  | [] => some []
  | .character c :: rest => (textOfParts? rest).map (c :: ·)
  | .unit m :: .unit n :: rest =>
    if isHighSurrogate m then
      if isLowSurrogate n then
        (textOfParts? rest).map
          (Char.ofNat (0x10000 + (m - 0xD800) * 0x400 + (n - 0xDC00)) :: ·)
      else none
    else if isLowSurrogate m then none
    else (textOfParts? (.unit n :: rest)).map (Char.ofNat m :: ·)
  | .unit m :: rest =>
    if isHighSurrogate m || isLowSurrogate m then none
    else (textOfParts? rest).map (Char.ofNat m :: ·)

/-! ## Numbers -/

/-- The digits at the beginning of a source, and what follows them. -/
def readDigits (source : Text) : Text × Text :=
  (source.takeWhile Char.isDigit, source.dropWhile Char.isDigit)

def natOfDigits (digits : Text) : Nat :=
  digits.foldl (fun n c => n * 10 + (c.toNat - '0'.toNat)) 0

/-- What follows the fraction of a number, if it has one, and whether it has. A point needs a
digit behind it. -/
def readFraction (source : Text) : Option (Bool × Text) :=
  match source with
  | '.' :: rest =>
    match readDigits rest with
    | ([], _) => none
    | (_, rest) => some (true, rest)
  | _ => some (false, source)

/-- What follows the exponent of a number, if it has one, and whether it has. -/
def readExponent (source : Text) : Option (Bool × Text) :=
  match source with
  | c :: rest =>
    if c = 'e' ∨ c = 'E' then
      let rest := match rest with
        | '+' :: rest => rest
        | '-' :: rest => rest
        | _ => rest
      match readDigits rest with
      | ([], _) => none
      | (_, rest) => some (true, rest)
    else some (false, source)
  | [] => some (false, source)

def readNumber (source : Text) : Option (Json × Text) := do
  let (negative, unsigned) := match source with
    | '-' :: rest => (true, rest)
    | _ => (false, source)
  let (digits, rest) ← match unsigned with
    | '0' :: rest => some (['0'], rest)
    | _ =>
      match readDigits unsigned with
      | ([], _) => none
      | found => some found
  let (hasFraction, rest) ← readFraction rest
  let (hasExponent, rest) ← readExponent rest
  return (if negative || hasFraction || hasExponent then .otherNumber
    else .natural (natOfDigits digits), rest)

/-! ## Tokens -/

/-- A token of a JSON text. Strings are kept apart from other scalars since they may be the
names of fields. -/
inductive JsonToken where
  | openBracket
  | closeBracket
  | openBrace
  | closeBrace
  | comma
  | colon
  | string (text : Option Text)
  | scalar (value : Json)

def isBlank (c : Char) : Bool := c == ' ' || c == '\n' || c == '\t' || c == '\r'

def punctuation? : Char → Option JsonToken
  | '[' => some .openBracket
  | ']' => some .closeBracket
  | '\x7b' => some .openBrace
  | '\x7d' => some .closeBrace
  | ',' => some .comma
  | ':' => some .colon
  | _ => none

def keywords : List (Text × Json) :=
  [("null".toList, .null), ("true".toList, .bool true), ("false".toList, .bool false)]

/-- The keyword at the beginning of a source, and what follows it. -/
def readKeyword (source : Text) : Option (Json × Text) :=
  (keywords.find? (fun k => k.1.isPrefixOf source)).map fun (word, value) =>
    (value, source.drop word.length)

/-- The first token of a source that begins with no blank, and what follows it. -/
def readToken (source : Text) : Option (JsonToken × Text) :=
  match source with
  | [] => none
  | c :: rest =>
    match punctuation? c with
    | some token => some (token, rest)
    | none =>
      if c = '"' then
        (readString rest).map fun (parts, after) => (.string (textOfParts? parts), after)
      else if c = '-' ∨ c.isDigit then
        (readNumber source).map fun (value, after) => (.scalar value, after)
      else (readKeyword source).map fun (value, after) => (.scalar value, after)

/-- The tokens of a source. Each takes at least one character, so `fuel` never runs out if it
is at least the length of the source. -/
def readTokensWithin : Nat → Text → Option (List JsonToken)
  | 0, source => if source.all isBlank then some [] else none
  | fuel + 1, source =>
    match source.dropWhile isBlank with
    | [] => some []
    | source => do
      let (token, rest) ← readToken source
      let tokens ← readTokensWithin fuel rest
      return token :: tokens

def readTokens (source : Text) : Option (List JsonToken) := readTokensWithin source.length source

/-! ## Values -/

/-- An array or an object that is still open, with what was read of it, the last first. -/
inductive OpenValue where
  | array (elements : List Json)
  | object (fields : List (Option Text × Json)) (name : Option Text)

mutual

/-- Reads tokens where a value is to begin. -/
def readValue (stack : List OpenValue) : List JsonToken → Option Json
  | .scalar value :: rest => closeValue stack value rest
  | .string text :: rest => closeValue stack (.string text) rest
  | .openBracket :: .closeBracket :: rest => closeValue stack (.array []) rest
  | .openBracket :: rest => readValue (.array [] :: stack) rest
  | .openBrace :: .closeBrace :: rest => closeValue stack (.object []) rest
  | .openBrace :: .string name :: .colon :: rest => readValue (.object [] name :: stack) rest
  | _ => none
termination_by structural tokens => tokens

/-- Reads tokens where a value has just ended. -/
def closeValue (stack : List OpenValue) (value : Json) (tokens : List JsonToken) : Option Json :=
  match stack, tokens with
  | [], [] => some value
  | .array elements :: outer, .comma :: rest => readValue (.array (value :: elements) :: outer) rest
  | .array elements :: outer, .closeBracket :: rest =>
    closeValue outer (.array (value :: elements).reverse) rest
  | .object fields name :: outer, .comma :: .string next :: .colon :: rest =>
    readValue (.object ((name, value) :: fields) next :: outer) rest
  | .object fields name :: outer, .closeBrace :: rest =>
    closeValue outer (.object ((name, value) :: fields).reverse) rest
  | _, _ => none
termination_by structural tokens

end

def parse? (source : Text) : Option Json := (readTokens source).bind (readValue [])

end Dialogue.Json
