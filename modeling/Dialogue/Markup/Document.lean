import Dialogue.Markup.Node
import Dialogue.Markup.Token

/-!
# Parsing documents

The start and end tags of a token list nest, and the nesting is the tree. White space in
text is collapsed; literal blocks and comments stay as they are.
-/

namespace Dialogue.Markup

/-- An element that is still open: its tag, where the tag stands, and the nodes before it,
the nearest first. -/
structure OpenElement where
  tag : Tag
  span : Span
  before : List Node

/-- Builds a tree from tokens, given the open elements, the innermost first, and the nodes
read inside the innermost one, the last first. -/
def buildTree : List OpenElement → List Node → List SpannedToken → Except MarkupError Document
  | [], nodes, [] => .ok nodes.reverse
  | innermost :: _, _, [] => .error (.unclosedElement innermost.tag.name innermost.span)
  | stack, nodes, ⟨token, span⟩ :: rest =>
    match token with
    | .text t => buildTree stack (.text (Text.collapse t) :: nodes) rest
    | .literalBlock t => buildTree stack (.literalBlock t :: nodes) rest
    | .comment t => buildTree stack (.comment t :: nodes) rest
    | .emptyTag name attributes => buildTree stack (.selfClosing ⟨name, attributes⟩ :: nodes) rest
    | .startTag name attributes => buildTree (⟨⟨name, attributes⟩, span, nodes⟩ :: stack) [] rest
    | .endTag name =>
      match stack with
      | [] => .error (.strayEndTag name span)
      | innermost :: outer =>
        if innermost.tag.name = name then
          buildTree outer (.element innermost.tag nodes.reverse :: innermost.before) rest
        else .error (.unmatchedEndTag innermost.tag.name name span)

def Document.ofTokens? (tokens : List SpannedToken) : Except MarkupError Document :=
  buildTree [] [] tokens

def Document.parse? (source : Text) : Except MarkupError Document :=
  (tokenize .start source).1.bind Document.ofTokens?

def Document.render (d : Document) : Text := Node.renderAll d

end Dialogue.Markup
