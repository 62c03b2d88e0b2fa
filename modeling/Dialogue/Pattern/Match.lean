import Dialogue.Pattern.Basic

/-!
# Matching

An input is taken as words, one space apart. A pattern matches if the words can be cut into
one block for each token: the word itself for a word of the pattern, one or more words for a
wildcard. The first wildcard takes as many words as it can, then the second, and so on.
-/

namespace Dialogue

open Unicode

/-- The two words are equal, or equal up to case. -/
def wordsAgree (ignoreCase : Bool) (v w : Text) : Bool :=
  if ignoreCase then v.map foldChar == w.map foldChar else v == w

/-- The longest block at the beginning of the words after which `next` succeeds with the
rest. A block holds at least one word. -/
def longestBlock {α : Type} (next : List Text → Option α) : List Text → Option (List Text × α)
  | [] => none
  | w :: rest =>
    match longestBlock next rest with
    | some (block, found) => some (w :: block, found)
    | none => (next rest).map fun found => ([w], found)

namespace Pattern

/-- The blocks that the wildcards of a pattern take of the words. -/
def blocks? (ignoreCase : Bool) : Pattern → List Text → Option (List (List Text))
  | [], [] => some []
  | [], _ :: _ => none
  | .word _ :: _, [] => none
  | .word v :: rest, w :: words =>
    if wordsAgree ignoreCase v w then blocks? ignoreCase rest words else none
  | .wildcard _ :: rest, words =>
    (longestBlock (blocks? ignoreCase rest) words).map fun (block, blocks) => block :: blocks

/-- What the wildcards of a pattern stand for in an input, if the pattern matches it. -/
def captures? (ignoreCase : Bool) (p : Pattern) (input : Text) : Option (List Text) :=
  let words := Text.splitWhen (· == ' ') input
  if words.any List.isEmpty then none
  else (blocks? ignoreCase p words).map fun blocks => blocks.map (Text.join [' '])

def isMatch (ignoreCase : Bool) (p : Pattern) (input : Text) : Bool :=
  (p.captures? ignoreCase input).isSome

end Pattern

end Dialogue
