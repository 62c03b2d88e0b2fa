import Dialogue.Evaluation.Evaluator
import Dialogue.Proofs.Evaluation.Tags
import Dialogue.Proofs.Legacy.Setter

/-!
# Templates are evaluated alike

With the standard tags, every simulation relates the evaluations of one template in alike
contexts, also under settings with other limits (`rel_nodes`), and so it relates self-queries
(`rel_selfQuery`). It has to permit what the tags of the template set, and an expansion sets no
more than that (`Permits.allows_toNode`). The cost of a node is that of two visits and one
self-query: the visit of the node and that of the one child which an expansion puts in its place.
-/

namespace Dialogue

open Markup Evaluation

namespace Markup.Node

mutual

/-- The number of nodes, all descendants counted. -/
def size : Node → Nat
  | .element _ children => 1 + sizeAll children
  | .selfClosing _ | .text _ | .literalBlock _ | .comment _ => 1

def sizeAll : List Node → Nat
  | [] => 0
  | n :: rest => n.size + sizeAll rest

end

end Markup.Node

def Evaluator.standard (s : Settings) : Evaluator := ⟨s, .standard⟩

def standardHandler? (n : Node) : Option Handler := n.name?.bind Registry.standard.find?

theorem mem_of_standardHandler? {n : Node} {h : Handler} (hn : standardHandler? n = some h) :
    h ∈ standardHandlers ∧ n.name? = some h.label := by
  obtain ⟨name, hname, hfind⟩ := Option.bind_eq_some_iff.1 hn
  unfold Registry.find? at hfind
  have hlabel := List.find?_some hfind
  rw [hname, eq_of_beq hlabel]
  exact ⟨List.mem_of_find?_eq_some hfind, rfl⟩

theorem handle?_of_some {n : Node} {h : Handler} (hn : standardHandler? n = some h)
    (s : Settings) (c : Context) (q : Text → Evaluation Text) (cs : List Child)
    (x : Evaluation Text) :
    (Evaluator.standard s).handle? c q n cs x = some (h.process ⟨s, c, n, cs, q, x⟩) :=
  congrArg (Option.map fun h : Handler => h.process ⟨s, c, n, cs, q, x⟩) hn

theorem handle?_of_none {n : Node} (hn : standardHandler? n = none)
    (s : Settings) (c : Context) (q : Text → Evaluation Text) (cs : List Child)
    (x : Evaluation Text) :
    (Evaluator.standard s).handle? c q n cs x = none :=
  congrArg (Option.map fun h : Handler => h.process ⟨s, c, n, cs, q, x⟩) hn

/-- A tag is visited and goes on as a tag. -/
theorem node_of_name (ev : Evaluator) (c : Context) (q : Text → Evaluation Text) {n : Node}
    {name : Text} (hn : n.name? = some name) :
    ev.node c q n = visit c >>= fun _ => ev.tag c q n (ev.children c q n.children) := by
  cases n with
  | element tag children => rw [Evaluator.node, Node.children]
  | selfClosing tag => rw [Evaluator.node]; rfl
  | text t | literalBlock t | comment t => cases hn

/-- A standard tag is visited and does what its handler does. -/
theorem node_of_handler {n : Node} {h : Handler} (hn : standardHandler? n = some h)
    (s : Settings) (c : Context) (q : Text → Evaluation Text) :
    (Evaluator.standard s).node c q n = visit c >>= fun _ => h.process
      ⟨s, c, n, (Evaluator.standard s).children c q n.children, q,
        (Evaluator.standard s).expand c q n⟩ := by
  rw [node_of_name _ c q (mem_of_standardHandler? hn).2, Evaluator.tag, handle?_of_some hn]

/-- The star inside a shorthand is evaluated without any request. -/
theorem dispatch_star (s : Settings) (c : Context) (q : Text → Evaluation Text) :
    (Evaluator.standard s).dispatch c q (.selfClosing Legacy.starTag) [] =
      .done (Tags.elementAt c.stars.input
        (Tags.place (Legacy.starTag.attribute? "index".toList))) := rfl

namespace Simulation

variable {sim : Simulation} {k l : Nat}

/-! ## Writing -/

/-- Whatever predicate one of the tags sets may be given any trimmed value. -/
def Permits (sim : Simulation) (s : Settings) (tags : List Tag) : Prop :=
  ∀ t ∈ tags, ∀ p, t.Sets s.supportDeprecatedTags p → ∀ v, sim.writable p (Text.trim v)

theorem permits_of_writable (h : ∀ p v, sim.writable p v) (s : Settings) (tags : List Tag) :
    sim.Permits s tags := fun _ _ p _ v => h p (Text.trim v)

theorem Permits.mono {s : Settings} {tags tags' : List Tag} (h : sim.Permits s tags)
    (hsub : tags' ⊆ tags) : sim.Permits s tags' := fun t ht => h t (hsub ht)

theorem Permits.allows {s : Settings} {n : Node} (h : sim.Permits s n.tag?.toList)
    (hname : n.name? = some "set".toList) : sim.Allows n := by
  obtain ⟨t, ht, hset⟩ := Option.map_eq_some_iff.1 hname
  intro p hp v
  have hattributes : n.attributes = t.attributes := by
    rw [Node.attributes, ht]
    rfl
  rw [hattributes] at hp
  exact h t (Option.mem_toList.2 ht) p (.inl ⟨hset, hp⟩) v

/-- What a node permits, its expansion does not exceed. -/
theorem Permits.allows_toNode {s : Settings} {n : Node} (h : sim.Permits s n.tag?.toList)
    {x : Legacy.Expansion} (hx : (Evaluator.standard s).expansion? n = .ok x) (content : Text)
    (hname : (x.toNode content).name? = some "set".toList) : sim.Allows (x.toNode content) := by
  have hcanonical := Legacy.isCanonical_of_expansionOfNode? hx
  cases x with
  | selfClosing tag =>
    have hset : "set".toList ∉ (Legacy.Expansion.selfClosing (.bare [])).canonicalNames := by decide
    exact absurd (Option.some.inj hname ▸ hcanonical) hset
  | aroundStar outer =>
    have hset : "set".toList ∉ (Legacy.Expansion.aroundStar (.bare [])).canonicalNames := by decide
    exact absurd (Option.some.inj hname ▸ hcanonical) hset
  | withContent tag =>
    intro p hp v
    obtain ⟨t, ht, hsets⟩ := Legacy.sets_of_expansionOfNode? hx hp
    exact h t (Option.mem_toList.2 ht) p hsets v

/-! ## Children -/

/-- Children that are alike in what a tag meets of them, at a cost of at most `k` for all of
them: their texts one after the other, and those of one name among them. -/
structure AlikeChildren (sim : Simulation) (k : Nat) (cs cs' : List Child) : Prop where
  content : sim.rel k (.concat (cs.map Child.visit)) (.concat (cs'.map Child.visit))
  items : ∀ name, List.Forall₂ (sim.AlikeItem k) (cs.filter fun c => c.node.isNamed name)
    (cs'.filter fun c => c.node.isNamed name)

namespace AlikeChildren

variable {c c' : Child} {cs cs' : List Child}

theorem nil (k : Nat) : sim.AlikeChildren k [] [] := ⟨sim.rel_done k [], fun _ => .nil⟩

theorem weaken (h : sim.AlikeChildren k cs cs') (hkl : k ≤ l) : sim.AlikeChildren l cs cs' where
  content := sim.weaken hkl h.content
  items name := (h.items name).imp fun _ _ h => ⟨h.attributes, sim.weaken hkl h.content⟩

/-- Children with the same tag, if they have one, stay alike with others behind them. -/
theorem cons (hn : c'.node.tag? = c.node.tag?) (hv : sim.rel k c.visit c'.visit)
    (hc : sim.rel k c.content c'.content) (h : sim.AlikeChildren l cs cs') :
    sim.AlikeChildren (k + l) (c :: cs) (c' :: cs') where
  content := sim.bind hv fun _ => sim.rel_map _ h.content
  items name := by
    have hrest := (h.weaken (Nat.le_add_left l k)).items name
    have hnamed : c'.node.isNamed name = c.node.isNamed name := by
      simp only [Node.isNamed, Node.name?, hn]
    have hitem : sim.AlikeItem (k + l) c c' :=
      ⟨by simp only [Node.attributes, hn], sim.weaken (Nat.le_add_right k l) hc⟩
    simp only [List.filter_cons, hnamed]
    split
    · exact .cons hitem hrest
    · exact hrest

end AlikeChildren

/-! ## Tags -/

/-- Where the evaluations of one template are alike: a self-query costs at most `l`. -/
structure Scene (sim : Simulation) (s : Settings) (l : Nat) (c c' : Context)
    (q q' : Text → Evaluation Text) : Prop where
  session : c.session = sim.session
  session' : c'.session = sim.session
  stars : c'.stars = c.stars
  depths : sim.depths c.depth c'.depth
  query : ∀ text, sim.rel l ((q text).orIfTooDeep s.recursionFallback)
    ((q' text).orIfTooDeep s.recursionFallback)

namespace Scene

variable {s : Settings} {c c' : Context} {q q' : Text → Evaluation Text} {cs cs' : List Child}

theorem rel_visit (hs : sim.Scene s l c c' q q') :
    sim.rel sim.visitCost (Evaluation.visit c) (Evaluation.visit c') :=
  sim.visit hs.depths

theorem rel_enclose (hc : sim.AlikeChildren k cs cs') (n : Node) :
    sim.rel k (Evaluator.enclose n cs) (Evaluator.enclose n cs') :=
  sim.rel_map _ hc.content

/-- A node is handled alike, given that its expansion is if its handler may ask for that. -/
theorem rel_handler (hs : sim.Scene s l c c' q q') (hc : sim.AlikeChildren k cs cs')
    (m d : Nat) (n : Node) {h : Handler} (hh : h ∈ standardHandlers) {x x' : Evaluation Text}
    (hw : h.label = "set".toList → sim.Allows n)
    (hx : h.label ∈ shiftLabels → n.isSelfClosing = true → sim.rel (k + l) x x') :
    sim.rel (k + l) (h.process ⟨s, c, n, cs, q, x⟩)
      (h.process ⟨s.withLimits m d, c', n, cs', q', x'⟩) := by
  have hlimits := process_withLimits hh ⟨s, c', n, cs', q', x'⟩ m d
  dsimp only at hlimits
  rw [hlimits]
  have hi : sim.Invoked k l ⟨s, c, n, cs, q, x⟩ ⟨s, c', n, cs', q', x'⟩ :=
    { settings := rfl
      session := hs.session
      session' := hs.session'
      stars := hs.stars
      attributes := rfl
      selfClosing := rfl
      content := hc.content
      items := hc.items _
      selfQuery := hs.query }
  exact hi.rel_process hh hw hx

/-- A node from an expansion. It has a standard tag or is written out; in either case it asks
for no expansion of its own. -/
theorem rel_dispatch (hs : sim.Scene s l c c' q q') (hc : sim.AlikeChildren k cs cs')
    (m d : Nat) (n : Node)
    (hw : n.name? = some "set".toList → sim.Allows n)
    (hn : n.isSelfClosing = true → ∀ name ∈ n.name?, name ∉ shiftLabels) :
    sim.rel (k + l) ((Evaluator.standard s).dispatch c q n cs)
      ((Evaluator.standard (s.withLimits m d)).dispatch c' q' n cs') := by
  unfold Evaluator.dispatch
  cases hh : standardHandler? n with
  | none =>
    rw [handle?_of_none hh, handle?_of_none hh]
    exact sim.weaken (Nat.le_add_right k l) (rel_enclose hc n)
  | some h =>
    obtain ⟨hmem, hname⟩ := mem_of_standardHandler? hh
    rw [handle?_of_some hh, handle?_of_some hh]
    refine hs.rel_handler hc m d n hmem (fun hlabel => hw (hlabel ▸ hname)) fun hlabel hself => ?_
    exact absurd hlabel (hn hself _ hname)

theorem alike_starChild (hs : sim.Scene s l c c' q q') (m d : Nat) :
    sim.AlikeChildren sim.visitCost [(Evaluator.standard s).starChild c q]
      [(Evaluator.standard (s.withLimits m d)).starChild c' q'] := by
  refine .cons (l := 0) rfl ?_ (sim.rel_done _ []) (.nil 0)
  refine sim.bind (l := 0) hs.rel_visit fun _ => ?_
  rw [dispatch_star, dispatch_star, hs.stars]
  exact sim.done _

theorem alike_textChild (hs : sim.Scene s l c c' q q') (text : Text) :
    sim.AlikeChildren sim.visitCost [Evaluator.textChild c text]
      [Evaluator.textChild c' text] := by
  refine .cons (l := 0) rfl ?_ (sim.rel_done _ []) (.nil 0)
  exact sim.bind (l := 0) hs.rel_visit fun _ => sim.done text

/-- What an expansion gives costs one visit, of the child that it makes, and one self-query. -/
theorem rel_expanded (hs : sim.Scene s l c c' q q') (m d : Nat) (content : Text)
    {x : Legacy.Expansion} (hx : x.IsCanonical)
    (hw : (x.toNode content).name? = some "set".toList → sim.Allows (x.toNode content)) :
    sim.rel (sim.visitCost + l) ((Evaluator.standard s).expanded c q content x)
      ((Evaluator.standard (s.withLimits m d)).expanded c' q' content x) := by
  cases x with
  | selfClosing tag =>
    refine hs.rel_dispatch (.nil _) m d _ hw fun _ name hname hshift => ?_
    obtain rfl := Option.some.inj hname
    have hdisjoint : ∀ name ∈ shiftLabels,
        name ∉ (Legacy.Expansion.selfClosing (.bare [])).canonicalNames := by decide
    exact hdisjoint _ hshift hx
  | aroundStar outer => exact hs.rel_dispatch (hs.alike_starChild m d) m d _ hw nofun
  | withContent tag => exact hs.rel_dispatch (hs.alike_textChild content) m d _ hw nofun

/-- The tags that may ask for their expansion have one. -/
theorem rel_expand (hs : sim.Scene s l c c' q q') (m d : Nat) {n : Node}
    (hp : sim.Permits s n.tag?.toList) {name : Text} (hname : n.name? = some name)
    (hshift : name ∈ shiftLabels) :
    sim.rel (sim.visitCost + l) ((Evaluator.standard s).expand c q n)
      ((Evaluator.standard (s.withLimits m d)).expand c' q' n) := by
  have hall : ∀ b, ∀ name ∈ shiftLabels, (Legacy.expansion? b name).isSome = true := by decide
  obtain ⟨x, hx⟩ := Option.isSome_iff_exists.1 (hall s.supportDeprecatedTags name hshift)
  have hok : (Evaluator.standard s).expansion? n = .ok x := by
    simp only [Evaluator.expansion?, Evaluator.standard, Legacy.expansionOfNode?, hname, hx]
  have hok' : (Evaluator.standard (s.withLimits m d)).expansion? n = .ok x := hok
  simp only [Evaluator.expand, hok, hok']
  exact hs.rel_expanded m d [] (Legacy.isCanonical_of_expansion? hx) (hp.allows_toNode hok [])

/-- **A tag costs its children, one more visit and one self-query.** -/
theorem rel_tag (hs : sim.Scene s l c c' q q') (hc : sim.AlikeChildren k cs cs') (m d : Nat)
    {n : Node} (hp : sim.Permits s n.tag?.toList) :
    sim.rel (k + (sim.visitCost + l)) ((Evaluator.standard s).tag c q n cs)
      ((Evaluator.standard (s.withLimits m d)).tag c' q' n cs') := by
  have hsame : (Evaluator.standard (s.withLimits m d)).expansion? n =
      (Evaluator.standard s).expansion? n := rfl
  unfold Evaluator.tag
  cases hh : standardHandler? n with
  | some h =>
    obtain ⟨hmem, hname⟩ := mem_of_standardHandler? hh
    have hmore := hc.weaken (Nat.le_add_right k sim.visitCost)
    have hx : h.label ∈ shiftLabels → n.isSelfClosing = true →
        sim.rel (k + sim.visitCost + l) ((Evaluator.standard s).expand c q n)
          ((Evaluator.standard (s.withLimits m d)).expand c' q' n) := fun hshift _ =>
      sim.weaken (by omega) (hs.rel_expand m d hp hname hshift)
    have h := hs.rel_handler hmore m d n hmem (fun hlabel => hp.allows (hlabel ▸ hname)) hx
    rw [Nat.add_assoc] at h
    rw [handle?_of_some hh, handle?_of_some hh]
    exact h
  | none =>
    rw [handle?_of_none hh, handle?_of_none hh, hsame]
    cases hx : (Evaluator.standard s).expansion? n with
    | error e => exact sim.weaken (Nat.le_add_right _ _) (rel_enclose hc n)
    | ok x =>
      have hexpanded := fun content =>
        hs.rel_expanded m d content (Legacy.isCanonical_of_expansionOfNode? hx)
          (hp.allows_toNode hx content)
      dsimp only
      split
      · exact sim.bind hc.content hexpanded
      · exact sim.bind (sim.rel_done k []) hexpanded

/-! ## Nodes -/

mutual

theorem rel_node (hs : sim.Scene s l c c' q q') (m d : Nat) {n : Node}
    (hp : sim.Permits s n.tags) :
    sim.rel ((2 * sim.visitCost + l) * n.size) ((Evaluator.standard s).node c q n)
      ((Evaluator.standard (s.withLimits m d)).node c' q' n) := by
  have hleaf : ∀ t : Text, sim.rel ((2 * sim.visitCost + l) * 1)
      (Evaluation.visit c >>= fun _ => .done t) (Evaluation.visit c' >>= fun _ => .done t) :=
    fun t => sim.weaken (by omega) (sim.rel_map (fun _ => t) hs.rel_visit)
  cases n with
  | element t children =>
    have hc := hs.alike_children m d (hp.mono (List.subset_cons_self t _))
    have h := sim.bind hs.rel_visit fun _ => hs.rel_tag hc m d (n := .element t children)
      (hp.mono (List.cons_subset_cons t (List.nil_subset _)))
    refine sim.weaken ?_ h
    rw [Node.size, Nat.mul_add]
    omega
  | selfClosing t =>
    have h := sim.bind hs.rel_visit fun _ => hs.rel_tag (.nil 0) m d (n := .selfClosing t) hp
    refine sim.weaken ?_ h
    rw [Node.size]
    omega
  | text t => exact hleaf t
  | literalBlock t => exact hleaf t
  | comment t => exact hleaf []

theorem rel_content (hs : sim.Scene s l c c' q q') (m d : Nat) {n : Node}
    (hp : sim.Permits s n.tags) :
    sim.rel ((2 * sim.visitCost + l) * n.size) ((Evaluator.standard s).content c q n)
      ((Evaluator.standard (s.withLimits m d)).content c' q' n) := by
  cases n with
  | element t children =>
    have hc := hs.alike_children m d (hp.mono (List.subset_cons_self t _))
    refine sim.weaken ?_ hc.content
    exact Nat.mul_le_mul_left _ (Nat.le_add_left _ 1)
  | selfClosing t => exact sim.rel_done _ []
  | text t => exact sim.rel_done _ []
  | literalBlock t => exact sim.rel_done _ []
  | comment t => exact sim.rel_done _ []

theorem alike_children (hs : sim.Scene s l c c' q q') (m d : Nat) {ns : List Node}
    (hp : sim.Permits s (Node.tagsAll ns)) :
    sim.AlikeChildren ((2 * sim.visitCost + l) * Node.sizeAll ns)
      ((Evaluator.standard s).children c q ns)
      ((Evaluator.standard (s.withLimits m d)).children c' q' ns) := by
  cases ns with
  | nil => exact .nil _
  | cons n rest =>
    have hfirst : sim.Permits s n.tags := hp.mono (List.subset_append_left _ _)
    have hrest : sim.Permits s (Node.tagsAll rest) := hp.mono (List.subset_append_right _ _)
    rw [Node.sizeAll, Nat.mul_add]
    exact .cons rfl (hs.rel_node m d hfirst) (hs.rel_content m d hfirst)
      (hs.alike_children m d hrest)

end

/-- **Every simulation relates the evaluations of a template in alike contexts**, if it permits
what the tags of the template set. -/
theorem rel_nodes (hs : sim.Scene s l c c' q q') (m d : Nat) {ns : List Node}
    (hp : sim.Permits s (Node.tagsAll ns)) :
    sim.rel ((2 * sim.visitCost + l) * Node.sizeAll ns)
      ((Evaluator.standard s).nodes c q ns)
      ((Evaluator.standard (s.withLimits m d)).nodes c' q' ns) := by
  have h := (hs.alike_children m d hp).content
  rwa [Evaluator.map_visit_children, Evaluator.map_visit_children] at h

end Scene

/-! ## Self-queries -/

/-- **Every simulation relates self-queries**, where `bound j` is what one costs that has `j`
levels left. One that would nest too deep gives the same text on both sides, though the
depths may differ. -/
theorem rel_selfQuery (s : Settings) (m d : Nat) (bound : Nat → Nat)
    (hbound : ∀ j template, sim.template template →
      (2 * sim.visitCost + bound j) * Node.sizeAll template ≤ bound (j + 1))
    (hpermits : ∀ template, sim.template template → sim.Permits s (Node.tagsAll template))
    (levels : Nat) {c c' : Context} (hc : c.session = sim.session)
    (hc' : c'.session = sim.session)
    (hdepths : ∀ j < levels, sim.depths (c.depth + j + 1) (c'.depth + j + 1)) (text : Text) :
    sim.rel (bound levels)
      (((Evaluator.standard s).selfQuery levels c text).orIfTooDeep s.recursionFallback)
      (((Evaluator.standard (s.withLimits m d)).selfQuery levels c' text).orIfTooDeep
        s.recursionFallback) := by
  induction levels generalizing c c' text with
  | zero =>
    rw [Evaluator.selfQuery_zero, Evaluator.selfQuery_zero, orIfTooDeep_findCategory_bind,
      orIfTooDeep_findCategory_bind, hc, hc']
    refine sim.rel_findCategory_bind s text fun answer _ => ?_
    cases answer with
    | none => exact sim.rel_done _ []
    | some selection => exact sim.rel_done _ s.recursionFallback
  | succ levels ih =>
    rw [Evaluator.selfQuery_succ, Evaluator.selfQuery_succ, orIfTooDeep_findCategory_bind,
      orIfTooDeep_findCategory_bind, hc, hc']
    refine sim.rel_findCategory_bind s text fun answer hanswer => ?_
    cases answer with
    | none => exact sim.rel_done _ []
    | some selection =>
      have hdeeper : ∀ j < levels, sim.depths ((c.deeper selection.stars).depth + j + 1)
          ((c'.deeper selection.stars).depth + j + 1) := by
        intro j hj
        have h := hdepths (j + 1) (by omega)
        rwa [← Nat.add_assoc, Nat.add_right_comm c.depth, Nat.add_right_comm c'.depth] at h
      have hquery := @ih (c.deeper selection.stars) (c'.deeper selection.stars) hc hc' hdeeper
      have hscene : sim.Scene s (bound levels) (c.deeper selection.stars)
          (c'.deeper selection.stars) _ _ :=
        { session := hc
          session' := hc'
          stars := rfl
          depths := hdepths 0 (by omega)
          query := hquery }
      have hnodes := hscene.rel_nodes m d (hpermits selection.template (hanswer selection rfl))
      have hcost := hbound levels selection.template (hanswer selection rfl)
      exact sim.orIfTooDeep _ (sim.weaken hcost hnodes)

/-- Every simulation relates the evaluation of a template to itself. -/
theorem rel_evaluate (sim : Simulation) (s : Settings) (bound : Nat → Nat)
    (hbound : ∀ j template, sim.template template →
      (2 * sim.visitCost + bound j) * Node.sizeAll template ≤ bound (j + 1))
    (hpermits : ∀ template, sim.template template → sim.Permits s (Node.tagsAll template))
    {c : Context} (hc : c.session = sim.session)
    (hdepths : ∀ j ≤ s.maxRecursionDepth - c.depth, sim.depths (c.depth + j) (c.depth + j))
    {ns : List Node} (hp : sim.Permits s (Node.tagsAll ns)) :
    sim.rel ((2 * sim.visitCost + bound (s.maxRecursionDepth - c.depth)) * Node.sizeAll ns)
      ((Evaluator.standard s).evaluate c ns) ((Evaluator.standard s).evaluate c ns) := by
  have hquery := rel_selfQuery s s.maxSteps s.maxRecursionDepth bound hbound hpermits
    (s.maxRecursionDepth - c.depth) hc hc fun j hj => hdepths (j + 1) hj
  have hscene : sim.Scene s _ c c ((Evaluator.standard s).query c)
      ((Evaluator.standard s).query c) :=
    { session := hc
      session' := hc
      stars := rfl
      depths := hdepths 0 (Nat.zero_le _)
      query := hquery }
  exact hscene.rel_nodes s.maxSteps s.maxRecursionDepth hp

end Simulation

end Dialogue
