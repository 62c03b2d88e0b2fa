import Dialogue.Evaluation.Query

/-!
# Handlers

A handler says what a tag does. It gets the tag and may evaluate the children of the tag, put
a question to the bot itself, or ask for the tag to be expanded. A registry holds one
handler for a name.
-/

namespace Dialogue

open Markup

/-- A child of a tag, as its handler sees it. -/
structure Child where
  node : Node
  /-- Evaluates the child. -/
  visit : Evaluation Text
  /-- Evaluates what is inside the child. -/
  content : Evaluation Text

/-- What a handler is given. -/
structure Invocation where
  settings : Settings
  context : Context
  /-- The tag, an element or a self-closing tag. -/
  node : Node
  children : List Child
  /-- Answers a text as if it were input, one level deeper. -/
  selfQuery : Text → Evaluation Text
  /-- Evaluates the canonical tag for which this tag stands. -/
  expandShorthand : Evaluation Text

namespace Invocation

def content (i : Invocation) : Evaluation Text := .concat (i.children.map Child.visit)

def attribute? (i : Invocation) (name : Text) : Option Text := i.node.attributes.value? name

def items (i : Invocation) : List Child :=
  i.children.filter fun child => child.node.isNamed "li".toList

end Invocation

/-- What the tags of one name do. -/
structure Handler where
  label : Text
  process : Invocation → Evaluation Text

/-- Two handlers are meant for the same tags. -/
structure DuplicateLabel where
  label : Text
deriving DecidableEq, Repr

def DuplicateLabel.message (e : DuplicateLabel) : Text :=
  "Duplicate handler registered for <".toList ++ e.label ++ ">".toList

/-- Handlers with different labels, in the order in which they were registered. -/
structure Registry where
  handlers : List Handler
  nodup_labels : (handlers.map Handler.label).Nodup

namespace Registry

def empty : Registry := ⟨[], by simp⟩

/-- Adds a handler, unless its label is taken. -/
def register? (r : Registry) (h : Handler) : Except DuplicateLabel Registry :=
  if hl : h.label ∈ r.handlers.map Handler.label then .error ⟨h.label⟩
  else .ok ⟨r.handlers ++ [h], by
    have := r.nodup_labels
    simp only [List.map_append, List.nodup_append]
    grind⟩

/-- The registry of the given handlers, unless a label comes twice. -/
def ofHandlers? (handlers : List Handler) : Except DuplicateLabel Registry :=
  handlers.foldlM register? empty

def find? (r : Registry) (name : Text) : Option Handler :=
  r.handlers.find? fun h => h.label == name

/-- The labels in alphabetical order. -/
def labels (r : Registry) : List Text :=
  (r.handlers.map Handler.label).mergeSort fun a b => !List.lex b a fun c d => decide (c < d)

end Registry

end Dialogue
