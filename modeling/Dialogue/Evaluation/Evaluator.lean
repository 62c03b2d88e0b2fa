import Dialogue.Evaluation.Handler

/-!
# Evaluating nodes

Text stands for itself and a comment for nothing. A tag goes to its handler; a tag without
one is expanded if it is a legacy tag, and otherwise it is written out again around its
evaluated children. What an expansion gives goes to its handler and is not expanded again.
-/

namespace Dialogue

open Markup

/-- What it takes to evaluate nodes: the settings of the bot and what its tags do. -/
structure Evaluator where
  settings : Settings
  registry : Registry

namespace Evaluator

open Evaluation

/-! ## Tags

In this part `query` answers a self-query of the nodes at hand. -/

/-- The markup of a node around its evaluated children. -/
def enclose (node : Node) (children : List Child) : Evaluation Text := do
  let inner ← .concat (children.map Child.visit)
  return node.opening ++ inner ++ node.closing

/-- The handler for a node at work, if there is one. -/
def handle? (ev : Evaluator) (context : Context) (query : Text → Evaluation Text)
    (node : Node) (children : List Child) (expansion : Evaluation Text) :
    Option (Evaluation Text) :=
  (node.name?.bind ev.registry.find?).map fun handler =>
    handler.process ⟨ev.settings, context, node, children, query, expansion⟩

/-- A node that came from an expansion: it goes to its handler or is written out. -/
def dispatch (ev : Evaluator) (context : Context) (query : Text → Evaluation Text)
    (node : Node) (children : List Child) : Evaluation Text :=
  (ev.handle? context query node children (.fail (.legacy ⟨node.name?.getD []⟩))).getD
    (enclose node children)

def starChild (ev : Evaluator) (context : Context) (query : Text → Evaluation Text) : Child where
  node := .selfClosing Legacy.starTag
  visit := do
    visit context
    ev.dispatch context query (.selfClosing Legacy.starTag) []
  content := .done []

def textChild (context : Context) (text : Text) : Child where
  node := .text text
  visit := do
    visit context
    return text
  content := .done []

/-- Evaluates the canonical node that an expansion gives. -/
def expanded (ev : Evaluator) (context : Context) (query : Text → Evaluation Text)
    (content : Text) (x : Legacy.Expansion) : Evaluation Text :=
  ev.dispatch context query (x.toNode content) <|
    match x with
    | .selfClosing _ => []
    | .aroundStar _ => [ev.starChild context query]
    | .withContent _ => [textChild context content]

def expansion? (ev : Evaluator) (node : Node) : Except Legacy.UnknownTag Legacy.Expansion :=
  Legacy.expansionOfNode? ev.settings.supportDeprecatedTags node

/-- Evaluates the canonical node for which a shorthand stands. -/
def expand (ev : Evaluator) (context : Context) (query : Text → Evaluation Text) (node : Node) :
    Evaluation Text :=
  match ev.expansion? node with
  | .ok x => ev.expanded context query [] x
  | .error e => .fail (.legacy e)

/-- A tag as it was written: it goes to its handler, or is expanded, or is written out. -/
def tag (ev : Evaluator) (context : Context) (query : Text → Evaluation Text) (node : Node)
    (children : List Child) : Evaluation Text :=
  match ev.handle? context query node children (ev.expand context query node) with
  | some e => e
  | none =>
    match ev.expansion? node with
    | .ok x => do
      let content ←
        if x.needsContent then .concat (children.map Child.visit) else .done []
      ev.expanded context query content x
    | .error _ => enclose node children

mutual

def node (ev : Evaluator) (context : Context) (query : Text → Evaluation Text) :
    Node → Evaluation Text
  | .element t children => do
    visit context
    ev.tag context query (.element t children) (ev.children context query children)
  | .selfClosing t => do
    visit context
    ev.tag context query (.selfClosing t) []
  | .text t | .literalBlock t => do
    visit context
    return t
  | .comment _ => do
    visit context
    return []
termination_by structural n => n

def content (ev : Evaluator) (context : Context) (query : Text → Evaluation Text) :
    Node → Evaluation Text
  | .element _ children => .concat ((ev.children context query children).map Child.visit)
  | _ => .done []
termination_by structural n => n

def children (ev : Evaluator) (context : Context) (query : Text → Evaluation Text) :
    List Node → List Child
  | [] => []
  | n :: rest =>
    ⟨n, ev.node context query n, ev.content context query n⟩ :: ev.children context query rest
termination_by structural ns => ns

end

/-- To visit the children of a tag is to evaluate their nodes. -/
theorem map_visit_children (ev : Evaluator) (context : Context)
    (query : Text → Evaluation Text) (ns : List Node) :
    (ev.children context query ns).map Child.visit = ns.map (ev.node context query) := by
  induction ns with
  | nil => simp [children]
  | cons n rest ih => simp [children, ih]

def nodes (ev : Evaluator) (context : Context) (query : Text → Evaluation Text)
    (ns : List Node) : Evaluation Text :=
  .concat (ns.map (ev.node context query))

/-! ## Self-queries -/

/-- Answers a text as if it were input, where self-queries may nest `levels` deep. The
template is evaluated one level deeper; a text that nothing answers gives nothing. -/
def selfQuery (ev : Evaluator) (levels : Nat) (context : Context) (text : Text) :
    Evaluation Text := do
  match ← findCategory ev.settings context.session text with
  | none => return []
  | some selection =>
    match levels with
    | 0 => .fail (context.tooDeep ev.settings.maxRecursionDepth)
    | levels + 1 =>
      let context := context.deeper selection.stars
      ev.nodes context (ev.selfQuery levels context) selection.template

theorem selfQuery_zero (ev : Evaluator) (context : Context) (text : Text) :
    ev.selfQuery 0 context text = findCategory ev.settings context.session text >>= fun
      | none => .done []
      | some _ => .fail (context.tooDeep ev.settings.maxRecursionDepth) := by
  rw [selfQuery]
  rfl

theorem selfQuery_succ (ev : Evaluator) (levels : Nat) (context : Context) (text : Text) :
    ev.selfQuery (levels + 1) context text = findCategory ev.settings context.session text >>= fun
      | none => .done []
      | some selection =>
        ev.nodes (context.deeper selection.stars)
          (ev.selfQuery levels (context.deeper selection.stars)) selection.template := by
  rw [selfQuery]
  rfl

def query (ev : Evaluator) (context : Context) (text : Text) : Evaluation Text :=
  ev.selfQuery (ev.settings.maxRecursionDepth - context.depth) context text

/-! ## Templates -/

def evaluate (ev : Evaluator) (context : Context) (ns : List Node) : Evaluation Text :=
  ev.nodes context (ev.query context) ns

/-- Writes a tag out around its evaluated children. Other nodes give nothing. -/
def passThrough (ev : Evaluator) (context : Context) (n : Node) : Evaluation Text :=
  enclose n (ev.children context (ev.query context) n.children)

def expandShorthand (ev : Evaluator) (context : Context) (n : Node) : Evaluation Text :=
  ev.expand context (ev.query context) n

/-- Evaluates a template and trims what it gives. -/
def render (ev : Evaluator) (session : SessionId) (stars : Stars) (template : Document) :
    Evaluation Text := do
  return Text.trim (← ev.evaluate (.top session stars) template)

end Evaluator

end Dialogue
