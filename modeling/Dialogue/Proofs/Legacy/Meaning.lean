import Dialogue.Evaluation.Run
import Dialogue.Proofs.Evaluation.Interpreter
import Dialogue.Session.Environment

/-!
# A legacy tag means its canonical form

A tag that is expanded is evaluated as the node that an author would write in its place. For
most expansions the two evaluations are the same (`node_eq_authored`). A tag that sets a
predicate is different: its content is evaluated first and then stands in the canonical tag as
text, which costs one visit more (`run_bind_visit`). In either case the canonical tag has a
handler, so it is never written out.
-/

namespace Dialogue

open Evaluation Markup

variable {σ : Type}

/-! ## Canonical nodes -/

/-- The node that an author would write in the place of `n`. The content of a tag that sets a
predicate is then not yet evaluated. -/
def Legacy.Expansion.authored (n : Node) (x : Legacy.Expansion) : Node :=
  match x with
  | .withContent tag => .element tag n.children
  | x => x.toNode []

/-- The node is a tag that is expanded: it has no handler, or it closes itself and its handler
asks for the expansion. -/
def Markup.Node.IsLegacy (s : Settings) (n : Node) : Prop :=
  (standardHandler? n = none ∧ ∃ x, (Evaluator.standard s).expansion? n = .ok x) ∨
    n.isSelfClosing = true ∧ ∃ name ∈ shiftLabels, n.name? = some name

theorem Markup.Node.IsLegacy.exists_name {s : Settings} {n : Node} (hn : n.IsLegacy s) :
    ∃ name, n.name? = some name := by
  rcases hn with ⟨-, x, hx⟩ | ⟨-, name, -, hname⟩
  · cases hname : n.name? with
    | none => simp [Evaluator.expansion?, Legacy.expansionOfNode?, hname] at hx
    | some name => exact ⟨name, rfl⟩
  · exact ⟨name, hname⟩

/-- The node has a handler that does not ask for its expansion. -/
def Markup.Node.IsHandled (n : Node) : Prop :=
  ∃ h, standardHandler? n = some h ∧ (h.label ∈ shiftLabels → n.isSelfClosing = false)

/-- Every expansion gives a node that is handled. -/
theorem Legacy.Expansion.IsCanonical.isHandled {x : Legacy.Expansion} (hx : x.IsCanonical)
    (content : Text) : (x.toNode content).IsHandled := by
  have hfind : ∀ y ∈ [Legacy.Expansion.selfClosing (.bare []), .aroundStar (.bare []),
      .withContent (.bare [])], ∀ name ∈ y.canonicalNames,
      (Registry.standard.find? name).isSome = true := by decide
  have hname : (x.toNode content).name? = some x.tag.name := by cases x <;> rfl
  have hsome : (Registry.standard.find? x.tag.name).isSome = true := by
    cases x with
    | selfClosing tag => exact hfind (.selfClosing (.bare [])) (by simp) _ hx
    | aroundStar tag => exact hfind (.aroundStar (.bare [])) (by simp) _ hx
    | withContent tag => exact hfind (.withContent (.bare [])) (by simp) _ hx
  obtain ⟨h, hh⟩ := Option.isSome_iff_exists.1 hsome
  have hstandard : standardHandler? (x.toNode content) = some h := by
    rw [standardHandler?, hname]
    exact hh
  refine ⟨h, hstandard, fun hshift => ?_⟩
  obtain ⟨-, hlabel⟩ := mem_of_standardHandler? hstandard
  cases x with
  | selfClosing tag =>
    have hdisjoint : ∀ name ∈ shiftLabels,
        name ∉ (Legacy.Expansion.selfClosing (.bare [])).canonicalNames := by decide
    rw [hname] at hlabel
    rw [← Option.some.inj hlabel] at hshift
    exact absurd hx (hdisjoint _ hshift)
  | aroundStar tag => rfl
  | withContent tag => rfl

/-! ## Tags -/

section Tags

variable (s : Settings) (c : Context) (q : Text → Evaluation Text)

/-- Only a shorthand that closes itself asks for its expansion. -/
theorem process_expandShorthand {h : Handler} (hh : h ∈ standardHandlers) (i : Invocation)
    (hi : h.label ∈ shiftLabels → i.node.isSelfClosing = false) (x : Evaluation Text) :
    h.process { i with expandShorthand := x } = h.process i := by
  have hshift : ∀ label table, label ∈ shiftLabels → (label ∈ shiftLabels →
      i.node.isSelfClosing = false) → (Tags.shift label table).process
        { i with expandShorthand := x } = (Tags.shift label table).process i := by
    intro label table hlabel hself
    dsimp only [Tags.shift]
    rw [hself hlabel]
    rfl
  simp only [standardHandlers, List.mem_cons, List.not_mem_nil, or_false] at hh
  rcases hh with rfl | rfl | rfl | rfl | rfl | rfl | rfl | rfl | rfl | rfl | rfl | rfl | rfl |
    rfl | rfl | rfl | rfl | rfl | rfl | rfl | rfl | rfl | rfl
  all_goals first | exact hshift _ _ (by decide) hi | rfl

/-- A node that is handled is dispatched alike whether or not it came from an expansion. -/
theorem dispatch_eq_tag {n : Node} (hn : n.IsHandled) (cs : List Child) :
    (Evaluator.standard s).dispatch c q n cs = (Evaluator.standard s).tag c q n cs := by
  obtain ⟨h, hh, hself⟩ := hn
  unfold Evaluator.dispatch Evaluator.tag
  rw [handle?_of_some hh, handle?_of_some hh]
  exact process_expandShorthand (mem_of_standardHandler? hh).1
    ⟨s, c, n, cs, q, (Evaluator.standard s).expand c q n⟩ hself _

theorem starChild_eq :
    (Evaluator.standard s).children c q [.selfClosing Legacy.starTag] =
      [(Evaluator.standard s).starChild c q] := by
  have hstar : (Node.selfClosing Legacy.starTag).IsHandled := ⟨Tags.star, rfl, by decide⟩
  rw [Evaluator.children, Evaluator.children, node_of_name _ c q rfl,
    ← dispatch_eq_tag s c q hstar]
  rfl

/-- An expansion that needs no content is evaluated as the canonical tag. -/
theorem expanded_eq_tag {x : Legacy.Expansion} (hx : x.IsCanonical)
    (hcontent : x.needsContent = false) (n : Node) :
    (Evaluator.standard s).expanded c q [] x =
      (Evaluator.standard s).tag c q (x.authored n)
        ((Evaluator.standard s).children c q (x.authored n).children) := by
  have hdispatch := dispatch_eq_tag s c q (hx.isHandled [])
  cases x with
  | selfClosing tag => exact hdispatch []
  | aroundStar outer =>
    show _ = (Evaluator.standard s).tag c q (.element outer [.selfClosing Legacy.starTag])
      ((Evaluator.standard s).children c q [.selfClosing Legacy.starTag])
    rw [starChild_eq]
    exact hdispatch _
  | withContent tag => cases hcontent

/-- A tag without a handler is expanded, once its content is known if that is needed. -/
theorem tag_of_expansion {n : Node} (hn : standardHandler? n = none) {x : Legacy.Expansion}
    (hx : (Evaluator.standard s).expansion? n = .ok x) (cs : List Child) :
    (Evaluator.standard s).tag c q n cs =
      (if x.needsContent then .concat (cs.map Child.visit) else .done []) >>= fun content =>
        (Evaluator.standard s).expanded c q content x := by
  unfold Evaluator.tag
  rw [handle?_of_none hn, hx]
  cases h : x.needsContent <;> simp only [h] <;> rfl

/-- A shorthand that closes itself is expanded by its handler. -/
theorem tag_of_shorthand {n : Node} (hself : n.isSelfClosing = true) {name : Text}
    (hshift : name ∈ shiftLabels) (hname : n.name? = some name) {x : Legacy.Expansion}
    (hx : (Evaluator.standard s).expansion? n = .ok x) (cs : List Child) :
    (Evaluator.standard s).tag c q n cs = (Evaluator.standard s).expanded c q [] x := by
  have hshorthand : ∀ name ∈ shiftLabels, ∃ label table,
      Registry.standard.find? name = some (Tags.shift label table) := by
    intro name hname
    simp only [shiftLabels, List.mem_cons, List.not_mem_nil, or_false] at hname
    rcases hname with rfl | rfl | rfl <;> exact ⟨_, _, rfl⟩
  obtain ⟨label, table, hfind⟩ := hshorthand name hshift
  have hh : standardHandler? n = some (Tags.shift label table) := by
    rw [standardHandler?, hname]
    exact hfind
  unfold Evaluator.tag
  rw [handle?_of_some hh]
  dsimp only [Tags.shift]
  rw [if_pos hself, Evaluator.expand, hx]

/-- Every shorthand has an expansion, which asks for no content. -/
theorem exists_expansion_of_shorthand {n : Node} {name : Text} (hshift : name ∈ shiftLabels)
    (hname : n.name? = some name) :
    ∃ x, (Evaluator.standard s).expansion? n = .ok x ∧ x.needsContent = false := by
  have hall : ∀ b, ∀ name ∈ shiftLabels, ∃ x ∈ Legacy.expansion? b name,
      x.needsContent = false := by decide
  obtain ⟨x, hx, hcontent⟩ := hall s.supportDeprecatedTags name hshift
  refine ⟨x, ?_, hcontent⟩
  rw [Option.mem_def] at hx
  simp only [Evaluator.expansion?, Evaluator.standard, Legacy.expansionOfNode?, hname, hx]

/-- **A legacy tag whose expansion needs no content is evaluated as its canonical form.** -/
theorem node_eq_authored {n : Node} (hn : n.IsLegacy s) {x : Legacy.Expansion}
    (hx : (Evaluator.standard s).expansion? n = .ok x) (hcontent : x.needsContent = false) :
    (Evaluator.standard s).node c q n = (Evaluator.standard s).node c q (x.authored n) := by
  have hcanonical := Legacy.isCanonical_of_expansionOfNode? hx
  have hauthored : (x.authored n).name? = some x.tag.name := by cases x <;> rfl
  have htag : ∀ cs, (Evaluator.standard s).tag c q n cs =
      (Evaluator.standard s).expanded c q [] x := by
    intro cs
    rcases hn with ⟨hnone, -⟩ | ⟨hself, name, hshift, hname⟩
    · rw [tag_of_expansion s c q hnone hx, hcontent]
      rfl
    · exact tag_of_shorthand s c q hself hshift hname hx cs
  obtain ⟨name, hname⟩ : ∃ name, n.name? = some name := hn.exists_name
  rw [node_of_name _ c q hname, node_of_name _ c q hauthored, htag,
    expanded_eq_tag s c q hcanonical hcontent]

end Tags

/-! ## Tags that set a predicate -/

/-- What a setter does with the text of its content. -/
def settle (c : Context) (tag : Tag) (content : Text) : Evaluation Text :=
  match tag.attribute? "name".toList with
  | some name => setPredicate c.session name (Text.trim content) >>= fun _ =>
    .done (Text.trim content)
  | none => .done (Text.trim content)

theorem standardHandler?_set {tag : Tag} (htag : (Legacy.Expansion.withContent tag).IsCanonical)
    (children : List Node) : standardHandler? (.element tag children) = some Tags.set := by
  have hname : (Node.element tag children).name? = some "set".toList :=
    congrArg some (List.mem_singleton.1 htag)
  rw [standardHandler?, hname]
  rfl

/-- The canonical setter evaluates its content and sets the predicate. -/
theorem node_setter (s : Settings) (c : Context) (q : Text → Evaluation Text) {tag : Tag}
    (htag : (Legacy.Expansion.withContent tag).IsCanonical) (children : List Node) :
    (Evaluator.standard s).node c q (.element tag children) =
      visit c >>= fun _ => (Evaluator.standard s).nodes c q children >>= settle c tag := by
  rw [node_of_handler (standardHandler?_set htag children), Evaluator.nodes,
    ← Evaluator.map_visit_children]
  rfl

/-- A setter around a text visits the text and sets the predicate. -/
theorem expanded_setter (s : Settings) (c : Context) (q : Text → Evaluation Text) {tag : Tag}
    (htag : (Legacy.Expansion.withContent tag).IsCanonical) (content : Text) :
    (Evaluator.standard s).expanded c q content (.withContent tag) =
      visit c >>= fun _ => settle c tag content := by
  rw [Evaluator.expanded, Evaluator.dispatch, Legacy.Expansion.toNode,
    handle?_of_some (standardHandler?_set htag _)]
  show Evaluation.concat ([Evaluator.textChild c content].map Child.visit) >>= settle c tag = _
  simp only [List.map_singleton, Evaluation.concat, Evaluator.textChild,
    Evaluation.bind_assoc, pure_eq, done_bind, List.append_nil]

/-- The legacy setter evaluates its content, visits it once more as text, and sets the
predicate. -/
theorem node_legacySetter (s : Settings) (c : Context) (q : Text → Evaluation Text) {n : Node}
    (hn : n.IsLegacy s) {tag : Tag}
    (hx : (Evaluator.standard s).expansion? n = .ok (.withContent tag)) :
    (Evaluator.standard s).node c q n =
      visit c >>= fun _ => (Evaluator.standard s).nodes c q n.children >>= fun content =>
        visit c >>= fun _ => settle c tag content := by
  have htag := Legacy.isCanonical_of_expansionOfNode? hx
  have hnone : standardHandler? n = none := by
    rcases hn with ⟨hnone, -⟩ | ⟨-, name, hshift, hname⟩
    · exact hnone
    · obtain ⟨x, hx', hcontent⟩ := exists_expansion_of_shorthand s hshift hname
      rw [hx] at hx'
      cases hx'
      cases hcontent
  obtain ⟨name, hname⟩ := hn.exists_name
  rw [node_of_name _ c q hname, tag_of_expansion s c q hnone hx,
    Evaluator.map_visit_children]
  simp only [expanded_setter s c q htag]
  rfl

/-! ## Running -/

section Run

variable (env : Environment σ) (budget : Budget) (chance : Chance)

theorem run_ask (r : Request) (turn : Turn σ) :
    (ask r).run env budget chance turn = env.serve budget chance turn r := by
  unfold ask
  rw [Evaluation.run]
  rcases env.serve budget chance turn r with ⟨error | answer, turn⟩ <;> rfl

/-- A call does not look at the steps. -/
theorem serve_call_later (c : Call) (turn : Turn σ) (j : Nat) :
    env.serve budget chance (turn.later j) (.call c) =
      ((env.serve budget chance turn (.call c)).1,
        (env.serve budget chance turn (.call c)).2.later j) := by
  simp only [Environment.serve, Turn.later]
  rcases env.call c turn.world with ⟨error | answer, world⟩ <;> rfl

/-- Setting a predicate takes no step, so it goes alike after more visits. -/
theorem run_settle_later (c : Context) (tag : Tag) (content : Text) (turn : Turn σ) (j : Nat) :
    (settle c tag content).run env budget chance (turn.later j) =
      (((settle c tag content).run env budget chance turn).1,
        ((settle c tag content).run env budget chance turn).2.later j) := by
  unfold settle
  cases tag.attribute? "name".toList with
  | none => rfl
  | some name =>
    have hset : ∀ t : Turn σ,
        (setPredicate c.session name (Text.trim content)).run env budget chance t =
          env.serve budget chance t (.call (.setPredicate c.session name (Text.trim content))) :=
      fun t => run_ask env budget chance _ t
    dsimp only
    rw [run_map, run_map, hset, hset, serve_call_later]

/-- **A content that is visited once more as text** costs one step if it has a value at all, and
nothing else is different, unless this step is one too many. -/
theorem run_bind_visit {e : Evaluation Text} {c : Context} {f : Text → Evaluation Text}
    (hf : ∀ t (turn : Turn σ), (f t).run env budget chance (turn.later 1) =
      (((f t).run env budget chance turn).1, ((f t).run env budget chance turn).2.later 1))
    (turn : Turn σ)
    (h : ∀ b, ((e >>= fun t => visit c >>= fun _ => f t).run env budget chance turn).1 ≠
      .error (.budget b)) :
    (e >>= fun t => visit c >>= fun _ => f t).run env budget chance turn =
      (((e >>= f).run env budget chance turn).1,
        ((e >>= f).run env budget chance turn).2.later
          (if (e.run env budget chance turn).1.isOk then 1 else 0)) := by
  rw [run_bind] at h ⊢
  rw [run_bind]
  rcases he : e.run env budget chance turn with ⟨error | t, turn'⟩
  · rfl
  · rw [he] at h
    dsimp only at h ⊢
    cases hexcess : budget.excess? chance (turn'.steps + 1) with
    | none =>
      have hvisit : (visit c >>= fun _ => f t).run env budget chance turn' =
          (f t).run env budget chance (turn'.later 1) := run_visit_within env hexcess c.depth _
      rw [hvisit, hf]
      rfl
    | some excess =>
      exact absurd (congrArg Prod.fst (run_visit_beyond env hexcess c.depth _)) (h excess)

end Run

/-! ## Nodes -/

/-- **A legacy tag means its canonical form.** It has an expansion, to a tag that is never
written out but has a handler. If the expansion needs no content, then the legacy tag gives
what the canonical one gives, in as many steps and with the same calls. If it needs the
content, then the same holds, unless the budget is exceeded, with one step more where the
content has a value. -/
theorem run_legacy (s : Settings) (env : Environment σ) (chance : Chance) (c : Context)
    (turn : Turn σ) {n : Node} (hn : n.IsLegacy s) :
    ∃ x, (Evaluator.standard s).expansion? n = .ok x ∧
      (∀ content, (standardHandler? (x.toNode content)).isSome = true) ∧
      let ev := Evaluator.standard s
      let run (e : Evaluation Text) := e.run env s.budget chance
      let legacy := run (ev.node c (ev.query c) n) turn
      let authored := run (ev.node c (ev.query c) (x.authored n)) turn
      let content := run (ev.nodes c (ev.query c) n.children) (turn.later 1)
      (x.needsContent = false → legacy = authored) ∧
        (x.needsContent = true → (∀ b, legacy.1 ≠ .error (.budget b)) →
          legacy = (authored.1, authored.2.later (if content.1.isOk then 1 else 0))) := by
  obtain ⟨x, hx⟩ : ∃ x, (Evaluator.standard s).expansion? n = .ok x := by
    rcases hn with ⟨-, hx⟩ | ⟨-, name, hshift, hname⟩
    · exact hx
    · obtain ⟨x, hx, -⟩ := exists_expansion_of_shorthand s hshift hname
      exact ⟨x, hx⟩
  have hcanonical := Legacy.isCanonical_of_expansionOfNode? hx
  refine ⟨x, hx, fun content => ?_, fun hcontent => ?_, fun hcontent hbudget => ?_⟩
  · obtain ⟨h, hh, -⟩ := hcanonical.isHandled content
    rw [hh]
    rfl
  · exact congrArg (fun e => e.run env s.budget chance turn)
      (node_eq_authored s c _ hn hx hcontent)
  · cases x with
    | selfClosing tag | aroundStar outer => cases hcontent
    | withContent tag =>
      dsimp only [Legacy.Expansion.authored] at hbudget ⊢
      rw [node_legacySetter s c _ hn hx] at hbudget ⊢
      rw [node_setter s c _ hcanonical]
      cases hexcess : s.budget.excess? chance (turn.steps + 1) with
      | none =>
        have hvisit : ∀ e : Evaluation Text, (visit c >>= fun _ => e).run env s.budget chance turn =
            e.run env s.budget chance (turn.later 1) :=
          fun e => run_visit_within env hexcess c.depth fun _ => e
        rw [hvisit] at hbudget
        rw [hvisit, hvisit]
        exact run_bind_visit env s.budget chance
          (fun t turn => run_settle_later env s.budget chance c tag t turn 1) _ hbudget
      | some excess =>
        exact absurd (congrArg Prod.fst (run_visit_beyond env hexcess c.depth _)) (hbudget excess)

def cheer : Category :=
  { pattern := [.wildcard .star]
    that := [.wildcard .star]
    topic := [.wildcard .star]
    template := [.text "glad".toList] }

/-- A legacy setter with two legacy tags inside, one of which puts a question to the bot
itself. It takes seven steps, the canonical setter six. -/
theorem run_legacy_cheer :
    let s : Settings := {}
    let env := Environment.inMemory [cheer]
    let c : Context := .top "ann".toList ⟨["how is it".toList], [], []⟩
    let children : List Node := [.text "says ".toList, .selfClosing (.bare "sr".toList),
      .selfClosing (.bare "getname".toList)]
    let legacy : Node := .element (.bare "set_mood".toList) children
    let canonical : Node := .element (Legacy.named "set".toList "mood".toList) children
    let run (n : Node) := ((Evaluator.standard s).node c ((Evaluator.standard s).query c) n).run
      env s.budget default (.start (.fresh (.empty 32)))
    legacy.IsLegacy s ∧ (run legacy).1 = .ok "says glad".toList ∧
      (run legacy).2.steps = 7 ∧ run legacy = ((run canonical).1, (run canonical).2.later 1) := by
  intro s env c children legacy canonical run
  have hx : (Evaluator.standard s).expansion? legacy =
      .ok (.withContent (Legacy.named "set".toList "mood".toList)) := rfl
  have hlegacy : legacy.IsLegacy s := .inl ⟨rfl, _, hx⟩
  have hvalue : (run legacy).1 = .ok "says glad".toList := by decide +kernel
  have hcontent : (((Evaluator.standard s).nodes c ((Evaluator.standard s).query c) children).run
      env s.budget default ((Turn.start (.fresh (.empty 32))).later 1)).1.isOk = true := by
    decide +kernel
  have hbudget : ∀ b, (run legacy).1 ≠ .error (.budget b) := by
    intro b hb
    cases hvalue.symm.trans hb
  obtain ⟨x, hx', -, -, hsame⟩ := run_legacy s env default c
    (.start (.fresh (.empty 32))) hlegacy
  obtain rfl : .withContent (Legacy.named "set".toList "mood".toList) = x :=
    Except.ok.inj (hx.symm.trans hx')
  refine ⟨hlegacy, hvalue, by decide +kernel, (hsame rfl hbudget).trans ?_⟩
  exact congrArg (fun k => ((run canonical).1, (run canonical).2.later k)) (if_pos hcontent)

end Dialogue
