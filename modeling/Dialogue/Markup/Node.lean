import Dialogue.Markup.Attribute
import Dialogue.Text.WhiteSpace

/-!
# Nodes and documents

A document is a list of nodes; an element has children, and all other nodes are leaves. A
tag keeps its attribute text as written, so a document can be written back.
-/

namespace Dialogue.Markup

/-- The name of a tag and its attribute text, with the white space before it. -/
structure Tag where
  name : Text
  attributeText : Text
deriving DecidableEq, Repr

namespace Tag

def bare (name : Text) : Tag := ⟨name, []⟩

def withAttributes (name : Text) (attributes : Attributes) : Tag :=
  ⟨name, writeAttributes attributes⟩

def attributes (t : Tag) : Attributes := readAttributes t.attributeText

/-- The value of the first attribute with the given name. -/
def attribute? (t : Tag) (name : Text) : Option Text := t.attributes.value? name

def opening (t : Tag) : Text := ['<'] ++ t.name ++ t.attributeText ++ ['>']

def selfClosing (t : Tag) : Text := ['<'] ++ t.name ++ t.attributeText ++ "/>".toList

def closing (t : Tag) : Text := "</".toList ++ t.name ++ ['>']

end Tag

/-- A node of a document. -/
inductive Node where
  | element (tag : Tag) (children : List Node)
  | selfClosing (tag : Tag)
  | text (text : Text)
  | literalBlock (text : Text)
  | comment (text : Text)
deriving Repr

/-- The top-level nodes of a parsed source. -/
abbrev Document := List Node

namespace Node

/-- The tag of an element or of a self-closing tag. -/
def tag? : Node → Option Tag
  | .element tag _ | .selfClosing tag => some tag
  | _ => none

def name? (n : Node) : Option Text := n.tag?.map (·.name)

def isNamed (n : Node) (name : Text) : Bool := n.name? == some name

/-- The attributes of the tag; none if the node has no tag. -/
def attributes (n : Node) : Attributes := (n.tag?.map Tag.attributes).getD []

/-- The children of an element; none for any other node. -/
def children : Node → List Node
  | .element _ children => children
  | _ => []

def isSelfClosing : Node → Bool
  | .selfClosing _ => true
  | _ => false

def opening : Node → Text
  | .element tag _ => tag.opening
  | .selfClosing tag => tag.selfClosing
  | _ => []

def closing : Node → Text
  | .element tag _ => tag.closing
  | _ => []

/-! ## Writing -/

mutual

def render : Node → Text
  | .element tag children => tag.opening ++ renderAll children ++ tag.closing
  | .selfClosing tag => tag.selfClosing
  | .text t => t
  | .literalBlock t => Text.literalOpen ++ t ++ Text.literalClose
  | .comment t => "<!--".toList ++ t ++ "-->".toList

def renderAll : List Node → Text
  | [] => []
  | n :: rest => n.render ++ renderAll rest

end

/-! ## Deciding equality -/

mutual

def decEq : (m n : Node) → Decidable (m = n)
  | .element t ms, .element u ns =>
    match (inferInstance : Decidable (t = u)), decEqAll ms ns with
    | isTrue ht, isTrue hs => isTrue (by rw [ht, hs])
    | isFalse ht, _ => isFalse (by intro h; cases h; exact ht rfl)
    | _, isFalse hs => isFalse (by intro h; cases h; exact hs rfl)
  | .selfClosing t, .selfClosing u => decidable_of_iff (t = u) (by simp)
  | .text s, .text t => decidable_of_iff (s = t) (by simp)
  | .literalBlock s, .literalBlock t => decidable_of_iff (s = t) (by simp)
  | .comment s, .comment t => decidable_of_iff (s = t) (by simp)
  | .element .., .selfClosing _ | .element .., .text _ | .element .., .literalBlock _
  | .element .., .comment _ | .selfClosing _, .element .. | .selfClosing _, .text _
  | .selfClosing _, .literalBlock _ | .selfClosing _, .comment _ | .text _, .element ..
  | .text _, .selfClosing _ | .text _, .literalBlock _ | .text _, .comment _
  | .literalBlock _, .element .. | .literalBlock _, .selfClosing _ | .literalBlock _, .text _
  | .literalBlock _, .comment _ | .comment _, .element .. | .comment _, .selfClosing _
  | .comment _, .text _ | .comment _, .literalBlock _ => isFalse (by simp)

def decEqAll : (ms ns : List Node) → Decidable (ms = ns)
  | [], [] => isTrue rfl
  | [], _ :: _ | _ :: _, [] => isFalse (by simp)
  | m :: ms, n :: ns =>
    match decEq m n, decEqAll ms ns with
    | isTrue h, isTrue hs => isTrue (by rw [h, hs])
    | isFalse h, _ => isFalse (by intro e; cases e; exact h rfl)
    | _, isFalse hs => isFalse (by intro e; cases e; exact hs rfl)

end

instance : DecidableEq Node := decEq

end Node

end Dialogue.Markup
