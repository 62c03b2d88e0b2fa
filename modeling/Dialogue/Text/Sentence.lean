import Dialogue.Text.Casing

/-!
# Sentences

A sentence ends after a run of splitters. Where splitters stand is found once, by `marks`:
at each place the first splitter of the list that fits is taken, and the search goes on
behind it. Cutting a text into sentences and capitalizing its sentences both read the marks.
-/

namespace Dialogue.Text

open Unicode

/-- The first splitter of the list with which the text begins. Empty ones never count. -/
def splitterAt (splitters : List Text) (t : Text) : Option Text :=
  splitters.find? (fun s => !s.isEmpty && s.isPrefixOf t)

/-- Each character with the mark whether it belongs to a splitter. The first number is how
many characters of the current splitter are still to come. -/
def marksFrom (splitters : List Text) : Nat → Text → List (Char × Bool)
  | _, [] => []
  | k + 1, c :: rest => (c, true) :: marksFrom splitters k rest
  | 0, c :: rest =>
    match splitterAt splitters (c :: rest) with
    | some s => (c, true) :: marksFrom splitters (s.length - 1) rest
    | none => (c, false) :: marksFrom splitters 0 rest

def marks (splitters : List Text) (t : Text) : List (Char × Bool) := marksFrom splitters 0 t

/-- Cuts marked text where a run of splitters ends; `afterSplitter` says whether the
character before belongs to one. -/
def cutAtMarks (afterSplitter : Bool) : List (Char × Bool) → List Text
  | [] => [[]]
  | (c, mark) :: rest =>
    let pieces := consHead c (cutAtMarks mark rest)
    if afterSplitter && !mark then [] :: pieces else pieces

/-- The sentences of a text, trimmed, without the empty ones. -/
def sentences (splitters : List Text) (t : Text) : List Text :=
  ((cutAtMarks false (marks splitters t)).map trim).filter (fun s => !s.isEmpty)

/-- Uppercases the first letter after each run of splitters and white space; `pending` says
whether the next letter is one. -/
def capitalizeMarked (pending : Bool) : List (Char × Bool) → Text
  | [] => []
  | (c, true) :: rest => c :: capitalizeMarked true rest
  | (c, false) :: rest =>
    if pending && isAlphabetic c then upperChar c ++ capitalizeMarked false rest
    else c :: capitalizeMarked (pending && isWhiteSpace c) rest

/-- The text with the first letter of each sentence in uppercase and all else as it was. A
sentence that begins with something else than a letter stays as it is. -/
def capitalizeSentences (splitters : List Text) (t : Text) : Text :=
  capitalizeMarked true (marks splitters t)

end Dialogue.Text
