import Dialogue.Text.Casing
import Dialogue.Text.Occurrence

/-!
# Shifting pronouns

A pronoun table replaces whole words: the text is uppercased and every word gets a space of
its own on either side, so that a rule padded in the same way finds words and nothing less.
What a rule puts in has its spaces replaced by a guard character, which no later rule can
match; the guards become spaces again at the end.
-/

namespace Dialogue.Text

/-- The character that stands for a space inside text that a rule has put in. -/
def guardChar : Char := Char.ofNat 1

def padWords (ws : List Text) : Text := [' '] ++ join "  ".toList ws ++ [' ']

/-- The trimmed replacement with guards at its ends and in place of its spaces. -/
def guarded (replacement : Text) : Text :=
  [guardChar] ++ (trim replacement).map (fun c => if c = ' ' then guardChar else c) ++ [guardChar]

/-- One rule at work on padded words. A rule without a word to find does nothing. -/
def shiftRule (working : Text) (rule : Text × Text) : Text :=
  let find := padWords (words (upper rule.1))
  if (trim find).isEmpty then working else replaceAll find (guarded rule.2) working

/-! ## The finish -/

/-- Glues a word that begins with an apostrophe to the word before it. The words so far are
given in reverse. -/
def glueContractions (result : List Text) : List Text → List Text
  | [] => result.reverse
  | w :: ws =>
    match result with
    | previous :: earlier =>
      if w.head? == some '\'' then glueContractions ((previous ++ w) :: earlier) ws
      else glueContractions (w :: result) ws
    | [] => glueContractions [w] ws

/-- The pronoun `i` in uppercase, also in a contraction such as `i'm`. -/
def capitalizeI : Text → Text
  | ['i'] => ['I']
  | 'i' :: '\'' :: rest => 'I' :: '\'' :: rest
  | w => w

/-- The words one space apart, with contractions glued and the pronoun `I` in uppercase. -/
def prettify (t : Text) : Text :=
  join [' '] ((glueContractions [] (words t)).map capitalizeI)

/-- The text with its pronouns shifted by the table, in lowercase but for the pronoun `I`. -/
def shiftPronouns (table : SubstitutionTable) (t : Text) : Text :=
  match words t with
  | [] => []
  | ws =>
    let shifted := table.foldl shiftRule (padWords (ws.map upper))
    prettify (lower (replaceAll [guardChar] [' '] shifted))

/-! ## The built-in tables -/

inductive PersonShift where
  /-- Between the first and the third person. -/
  | firstThird
  /-- Between the first and the second person. -/
  | firstSecond
deriving DecidableEq, Repr

def PersonShift.name : PersonShift → Text
  | .firstThird => "person".toList
  | .firstSecond => "person2".toList

def PersonShift.ofName? (name : Text) : Option PersonShift :=
  [PersonShift.firstThird, .firstSecond].find? (fun shift => shift.name == name)

def tableOf (rules : List (String × String)) : SubstitutionTable :=
  rules.map fun (find, replacement) => (find.toList, replacement.toList)

/-- First to third person and back. -/
def personTable : SubstitutionTable := tableOf
  [("I WAS", "he or she was"), ("HE WAS", "I was"), ("SHE WAS", "I was"),
   ("I AM", "he or she is"), ("HE IS", "I am"), ("SHE IS", "I am"),
   ("MYSELF", "him or herself"), ("HIMSELF", "myself"), ("HERSELF", "myself"),
   ("MINE", "his or hers"), ("MY", "his or her"), ("ME", "him or her"),
   ("I", "he or she"), ("HE", "I"), ("SHE", "I"), ("HIM", "me"), ("HIS", "my"), ("HER", "me")]

/-- First to second person and back. -/
def person2Table : SubstitutionTable := tableOf
  [("WITH YOU", "with me"), ("WITH ME", "with you"), ("TO YOU", "to me"), ("TO ME", "to you"),
   ("I AM", "you are"), ("YOU ARE", "I am"), ("I WAS", "you were"), ("YOU WERE", "I was"),
   ("MYSELF", "yourself"), ("YOURSELF", "myself"), ("MINE", "yours"), ("YOURS", "mine"),
   ("MY", "your"), ("YOUR", "my"), ("ME", "you"), ("I", "you"), ("YOU", "me"),
   ("I'M", "you're"), ("YOU'RE", "I'm")]

/-- Masculine to feminine pronouns and back. -/
def genderTable : SubstitutionTable := tableOf
  [("HIMSELF", "herself"), ("HERSELF", "himself"), ("HE", "she"), ("SHE", "he"),
   ("HIM", "her"), ("HIS", "her"), ("HER", "his")]

def PersonShift.defaultTable : PersonShift → SubstitutionTable
  | .firstThird => personTable
  | .firstSecond => person2Table

end Dialogue.Text
