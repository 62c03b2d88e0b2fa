import Dialogue.Text.Basic
import Dialogue.Unicode.CaseFolding

/-!
# Occurrences and their replacement

The occurrences of a text in another are taken from the left, and one begins only after the
one before it has ended. `cut` gives the pieces between them; replacing every occurrence is
joining these pieces with the replacement. So what a replacement inserts is never looked at
again.
-/

namespace Dialogue

/-- The pieces between the occurrences of things of `width` elements, where `hit` tells
whether one begins. The first argument is how many elements of the current occurrence are
still to be passed over. -/
def cutFrom {α : Type} (hit : List α → Bool) (width : Nat) : Nat → List α → List (List α)
  | _, [] => [[]]
  | k + 1, _ :: rest => cutFrom hit width k rest
  | 0, x :: rest =>
    if hit (x :: rest) then [] :: cutFrom hit width (width - 1) rest
    else consHead x (cutFrom hit width 0 rest)

def cut {α : Type} (hit : List α → Bool) (width : Nat) (xs : List α) : List (List α) :=
  cutFrom hit width 0 xs

/-- An ordered list of pairs of a text to find and its replacement. -/
abbrev SubstitutionTable := List (Text × Text)

namespace Text

open Unicode

/-- The text with every occurrence of `find` replaced. An empty `find` occurs nowhere. -/
def replaceAll (find replacement text : Text) : Text :=
  if find.isEmpty then text else join replacement (cut find.isPrefixOf find.length text)

/-- Applies the rules in order; each sees what the ones before it made. -/
def applyTable (table : SubstitutionTable) (text : Text) : Text :=
  table.foldl (fun t rule => replaceAll rule.1 rule.2 t) text

/-! ## Replacement up to case -/

def isPrefixOfFold : Text → Text → Bool
  | [], _ => true
  | _ :: _, [] => false
  | c :: cs, d :: ds => sameFold c d && isPrefixOfFold cs ds

/-- A piece of a text under substitution: of the given text, or put in by a rule. -/
inductive Fragment where
  | untouched (text : Text)
  | replaced (text : Text)
deriving DecidableEq, Repr

def Fragment.text : Fragment → Text
  | .untouched t => t
  | .replaced t => t

/-- One rule at work on one fragment: what was put in before is left alone. -/
def Fragment.substitute (find replacement : Text) : Fragment → List Fragment
  | .replaced t => [.replaced t]
  | .untouched t =>
    ((cut (isPrefixOfFold find) find.length t).map .untouched).intersperse (.replaced replacement)

/-- The rules at work on all fragments, in order. A rule without a text to find is skipped. -/
def substituteFragments (table : SubstitutionTable) (fragments : List Fragment) : List Fragment :=
  table.foldl
    (fun fs rule => if rule.1.isEmpty then fs else fs.flatMap (Fragment.substitute rule.1 rule.2))
    fragments

/-- Applies the rules in order and up to case. A rule sees only characters of the given
text, never what an earlier rule put in. -/
def substituteIgnoreCase (table : SubstitutionTable) (text : Text) : Text :=
  (substituteFragments table [.untouched text]).flatMap Fragment.text

end Text

end Dialogue
