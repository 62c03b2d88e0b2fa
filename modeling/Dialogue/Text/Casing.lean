import Dialogue.Text.Basic
import Dialogue.Unicode.Cased
import Dialogue.Unicode.CaseMapping

/-!
# Casing of texts

Uppercase is the full mapping character by character. Lowercase has one rule that looks at
the neighbours: a capital sigma that ends a word becomes `ς`. Casing word by word and
sentence by sentence uses the mapping of single characters, which knows no final sigma.
-/

namespace Dialogue.Text

open Unicode

def upper (t : Text) : Text := t.flatMap upperChar

/-- After characters that case ignores, if any, comes a letter that has case. -/
def startsCased (t : Text) : Bool :=
  match t.dropWhile isCaseIgnorable with
  | c :: _ => isCased c
  | [] => false

/-- The lowercase form of a text that follows `before`, which is given in reverse. -/
def lowerAfter (before : Text) : Text → Text
  | [] => []
  | c :: rest =>
    let form :=
      if c = 'Σ' then (if startsCased before && !startsCased rest then ['ς'] else ['σ'])
      else lowerChar c
    form ++ lowerAfter (c :: before) rest

/-- The full lowercase form: a capital sigma is final if a letter stands before it and none
after it. -/
def lower (t : Text) : Text := lowerAfter [] t

/-- Uppercases the first character of each word and lowercases the others; `atStart` says
whether a word may begin here. -/
def capitalizeWordsFrom (atStart : Bool) : Text → Text
  | [] => []
  | c :: rest =>
    if isWhiteSpace c then c :: capitalizeWordsFrom true rest
    else (if atStart then upperChar c else lowerChar c) ++ capitalizeWordsFrom false rest

def capitalizeWords (t : Text) : Text := capitalizeWordsFrom true t

end Dialogue.Text
