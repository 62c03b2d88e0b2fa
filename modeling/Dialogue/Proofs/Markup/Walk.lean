import Dialogue.Markup.Document
import Dialogue.Proofs.Markup.Lexing
import Dialogue.Proofs.Text.Collapse

/-!
# The tree of a token list

Walking through a tree, with the start tag of an element before its children and the end tag
after them, gives back the tokens from which it was built, with their white space collapsed
(`walkAll_of_buildTree`); and from the tokens of a walk the tree is built again
(`buildTree_walkAll`). So a source is parsed exactly if the tokens of its lexemes are the walk
of a document.
-/

namespace Dialogue.Markup

namespace Node

mutual

/-- The tokens of a node. Those of its children stand between its start tag and its end tag. -/
def walk : Node → List Token
  | .element tag children =>
    .startTag tag.name tag.attributeText :: (walkAll children ++ [.endTag tag.name])
  | .selfClosing tag => [.emptyTag tag.name tag.attributeText]
  | .text t => [.text t]
  | .literalBlock t => [.literalBlock t]
  | .comment t => [.comment t]

def walkAll : List Node → List Token
  | [] => []
  | n :: rest => n.walk ++ walkAll rest

end

mutual

def collapsed : Node → Node
  | .element tag children => .element tag (collapsedAll children)
  | .selfClosing tag => .selfClosing tag
  | .text t => .text (Text.collapse t)
  | .literalBlock t => .literalBlock t
  | .comment t => .comment t

/-- The nodes with the white space collapsed in all their text. -/
def collapsedAll : List Node → List Node
  | [] => []
  | n :: rest => n.collapsed :: collapsedAll rest

end

end Node

namespace Token

def collapsed : Token → Token
  | .text t => .text (Text.collapse t)
  | token => token

/-- The node that a token makes by itself. Only the tags of elements make none. -/
def leaf? : Token → Option Node
  | .text t => some (.text (Text.collapse t))
  | .literalBlock t => some (.literalBlock t)
  | .comment t => some (.comment t)
  | .emptyTag name attributes => some (.selfClosing ⟨name, attributes⟩)
  | .startTag _ _ | .endTag _ => none

def lexeme : Token → Lexeme
  | .text t => .text t
  | .startTag name attributes => .construct .openTag (name ++ attributes)
  | .emptyTag name attributes => .construct .openTag (name ++ attributes ++ ['/'])
  | .endTag name => .construct .endTag name
  | .literalBlock t => .construct .literalBlock t
  | .comment t => .construct .comment t

end Token

open Node Lexeme

variable {source : Text} {stack : List OpenElement} {nodes : List Node}
  {tokens : List SpannedToken} {d : Document}

theorem walkAll_append (ms ns : List Node) : walkAll (ms ++ ns) = walkAll ms ++ walkAll ns := by
  induction ms with
  | nil => rfl
  | cons m ms ih => rw [List.cons_append, walkAll, walkAll, ih, List.append_assoc]

theorem walkAll_reverse_cons (n : Node) (ns : List Node) :
    walkAll (n :: ns).reverse = walkAll ns.reverse ++ n.walk := by
  rw [List.reverse_cons, walkAll_append, walkAll, walkAll, List.append_nil]

/-! ## Writing -/

theorem Tag.opening_eq (t : Tag) :
    t.opening = (Token.startTag t.name t.attributeText).lexeme.source := by
  show ['<'] ++ t.name ++ t.attributeText ++ ['>'] = ['<'] ++ (t.name ++ t.attributeText) ++ ['>']
  rw [List.append_assoc ['<']]

theorem Tag.selfClosing_eq (t : Tag) :
    t.selfClosing = (Token.emptyTag t.name t.attributeText).lexeme.source := by
  show ['<'] ++ t.name ++ t.attributeText ++ ['/', '>'] =
    ['<'] ++ (t.name ++ t.attributeText ++ ['/']) ++ ['>']
  rw [← List.append_assoc, ← List.append_assoc, List.append_assoc _ ['/']]
  rfl

mutual

theorem Node.render_eq (n : Node) : n.render = sources (n.walk.map Token.lexeme) := by
  cases n with
  | element tag children =>
    have hclosing : tag.closing = sources [(Token.endTag tag.name).lexeme] :=
      (List.append_nil _).symm
    rw [walk, List.map_cons, List.map_append, sources_cons, sources_append, List.map_singleton,
      ← Node.renderAll_eq children, ← tag.opening_eq, ← hclosing, Node.render, List.append_assoc]
  | selfClosing tag =>
    rw [Node.render, tag.selfClosing_eq]
    exact (List.append_nil _).symm
  | text t | literalBlock t | comment t => exact (List.append_nil _).symm

/-- The markup of nodes is that of their tokens. -/
theorem Node.renderAll_eq (ns : List Node) :
    renderAll ns = sources ((walkAll ns).map Token.lexeme) := by
  cases ns with
  | nil => rfl
  | cons n rest =>
    rw [renderAll, walkAll, List.map_append, sources_append, Node.render_eq n,
      Node.renderAll_eq rest]

end

/-! ## Building -/

/-- The tokens read so far, when elements are still open. -/
def openWalk : List OpenElement → List Node → List Token
  | [], nodes => walkAll nodes.reverse
  | innermost :: outer, nodes =>
    openWalk outer innermost.before ++
      .startTag innermost.tag.name innermost.tag.attributeText :: walkAll nodes.reverse

/-- A node that is complete adds its tokens. -/
theorem openWalk_cons (stack : List OpenElement) (n : Node) (nodes : List Node) :
    openWalk stack (n :: nodes) = openWalk stack nodes ++ n.walk := by
  cases stack with
  | nil => exact walkAll_reverse_cons n nodes
  | cons innermost outer => simp [openWalk, walkAll_append, walkAll]

theorem buildTree_leaf {token : Token} {n : Node} (h : token.leaf? = some n) (span : Span)
    (rest : List SpannedToken) :
    buildTree stack nodes (⟨token, span⟩ :: rest) = buildTree stack (n :: nodes) rest := by
  cases token with
  | text t | literalBlock t | comment t | emptyTag name attributes =>
    cases h
    rw [buildTree]
  | startTag name attributes | endTag name => cases h

theorem walk_leaf {token : Token} {n : Node} (h : token.leaf? = some n) :
    n.walk = [token.collapsed] := by
  cases token with
  | text t | literalBlock t | comment t | emptyTag name attributes =>
    cases h
    rfl
  | startTag name attributes | endTag name => cases h

theorem buildTree_startTag (name attributes : Text) (span : Span) (rest : List SpannedToken) :
    buildTree stack nodes (⟨.startTag name attributes, span⟩ :: rest) =
      buildTree (⟨⟨name, attributes⟩, span, nodes⟩ :: stack) [] rest := by
  rw [buildTree]

theorem buildTree_endTag (innermost : OpenElement) (name : Text) (span : Span)
    (rest : List SpannedToken) :
    buildTree (innermost :: stack) nodes (⟨.endTag name, span⟩ :: rest) =
      if innermost.tag.name = name then
        buildTree stack (.element innermost.tag nodes.reverse :: innermost.before) rest
      else .error (.unmatchedEndTag innermost.tag.name name span) := by
  rw [buildTree]

/-- **The walk through a tree gives back the tokens from which it was built**, with their
white space collapsed. -/
theorem walkAll_of_buildTree (h : buildTree stack nodes tokens = .ok d) :
    walkAll d = openWalk stack nodes ++ tokens.map fun t => t.token.collapsed := by
  induction tokens generalizing stack nodes with
  | nil =>
    cases stack with
    | nil =>
      cases h
      simp [openWalk]
    | cons innermost outer => cases h
  | cons t rest ih =>
    obtain ⟨token, span⟩ := t
    cases hleaf : token.leaf? with
    | some n =>
      rw [buildTree_leaf hleaf] at h
      rw [ih h, openWalk_cons, walk_leaf hleaf, List.map_cons, List.append_assoc]
      rfl
    | none =>
      cases token with
      | text t | literalBlock t | comment t | emptyTag name attributes => cases hleaf
      | startTag name attributes =>
        rw [buildTree_startTag] at h
        rw [ih h]
        simp [openWalk, walkAll, Token.collapsed]
      | endTag name =>
        cases stack with
        | nil => cases h
        | cons innermost outer =>
          rw [buildTree_endTag] at h
          split at h
          · next hname =>
            rw [ih h, openWalk_cons]
            simp [openWalk, walk, Token.collapsed, hname]
          · cases h

mutual

theorem buildTree_walk (n : Node) {stack : List OpenElement} {nodes : List Node}
    {tokens : List SpannedToken} (h : tokens.map SpannedToken.token = n.walk)
    (rest : List SpannedToken) :
    buildTree stack nodes (tokens ++ rest) = buildTree stack (n.collapsed :: nodes) rest := by
  cases n with
  | element tag children =>
    obtain ⟨⟨_, span⟩, inside, rfl, rfl, hinside⟩ := List.map_eq_cons_iff.1 h
    obtain ⟨inner, last, rfl, hinner, hlast⟩ := List.map_eq_append_iff.1 hinside
    obtain ⟨⟨_, span'⟩, rfl, rfl⟩ := List.map_eq_singleton_iff.1 hlast
    rw [List.cons_append, buildTree_startTag, List.append_assoc,
      buildTree_walkAll children hinner, List.singleton_append, buildTree_endTag, if_pos rfl]
    simp [collapsed]
  | selfClosing tag | text t | literalBlock t | comment t =>
    obtain ⟨⟨_, span⟩, rfl, rfl⟩ := List.map_eq_singleton_iff.1 h
    exact buildTree_leaf rfl span rest

/-- **From the tokens of a walk the nodes are built**, with their white space collapsed. -/
theorem buildTree_walkAll (ns : List Node) {stack : List OpenElement} {nodes : List Node}
    {tokens : List SpannedToken} (h : tokens.map SpannedToken.token = walkAll ns)
    (rest : List SpannedToken) :
    buildTree stack nodes (tokens ++ rest) =
      buildTree stack ((collapsedAll ns).reverse ++ nodes) rest := by
  cases ns with
  | nil =>
    rw [walkAll, List.map_eq_nil_iff] at h
    rw [h]
    rfl
  | cons n ns =>
    obtain ⟨first, others, rfl, hfirst, hothers⟩ := List.map_eq_append_iff.1 h
    rw [List.append_assoc, buildTree_walk n hfirst, buildTree_walkAll ns hothers]
    simp [collapsedAll]

end

/-! ## Parsing -/

theorem map_token_tokensFrom (p : Position) (xs : List Lexeme) :
    (Lexeme.tokensFrom p xs).map SpannedToken.token = xs.filterMap Lexeme.token? := by
  induction xs generalizing p with
  | nil => rfl
  | cons x xs ih =>
    rw [Lexeme.tokensFrom, List.map_append, ih, List.filterMap_cons, Lexeme.tokensAt]
    cases x.token? <;> rfl

/-- The walk through a parsed document gives the tokens of the source, with their white space
collapsed. -/
theorem exists_isLexing_of_parse? (h : Document.parse? source = .ok d) :
    ∃ xs, IsLexing source xs ∧
      walkAll d = (xs.filterMap Lexeme.token?).map Token.collapsed := by
  unfold Document.parse? at h
  cases htokens : (tokenize .start source).1 with
  | error e =>
    rw [htokens] at h
    cases h
  | ok tokens =>
    obtain ⟨xs, hxs, rfl⟩ := tokenize_eq_ok_iff.1 htokens
    rw [htokens] at h
    refine ⟨xs, hxs, ?_⟩
    rw [← map_token_tokensFrom .start, List.map_map]
    exact walkAll_of_buildTree h

/-- A source is parsed whose tokens are the walk through a document. -/
theorem parse?_of_walkAll {xs : List Lexeme} (hxs : IsLexing source xs)
    (h : xs.filterMap Lexeme.token? = walkAll d) :
    Document.parse? source = .ok (collapsedAll d) := by
  rw [← map_token_tokensFrom .start] at h
  have hbuild := @buildTree_walkAll d [] [] _ h []
  rw [List.append_nil, List.append_nil] at hbuild
  rw [Document.parse?, tokenize_of_isLexing .start hxs]
  show buildTree [] [] _ = _
  rw [hbuild, buildTree, List.reverse_reverse]

end Dialogue.Markup
