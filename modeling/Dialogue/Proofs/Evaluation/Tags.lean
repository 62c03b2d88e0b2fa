import Dialogue.Proofs.Evaluation.Simulation
import Dialogue.Tags.Standard
import Mathlib.Data.List.Forall2

/-!
# Every standard tag keeps to its parts

A handler meets its content, its items, its self-query and its expansion only through what
they evaluate to. Where these parts are alike in two invocations, so is what the handler
makes of them (`rel_process`). It uses its content or one of its items, once, and puts at
most one self-query; or it asks for its expansion and does nothing else.
-/

namespace Dialogue

open Markup

/-- The tags that stand for themselves around `<star/>` when they close themselves. -/
def shiftLabels : List Text := ["person".toList, "person2".toList, "gender".toList]

/-! ## Limits -/

def Settings.withLimits (s : Settings) (maxSteps maxRecursionDepth : Nat) : Settings :=
  { s with maxSteps := maxSteps, maxRecursionDepth := maxRecursionDepth }

theorem Settings.withLimits_withLimits (s : Settings) (m d m' d' : Nat) :
    (s.withLimits m d).withLimits m' d' = s.withLimits m' d' := rfl

theorem firstHolding_withLimits (s : Settings) (m d : Nat) (session : SessionId)
    (name : Option Text) (items : List Child) :
    Tags.firstHolding (s.withLimits m d) session name items =
      Tags.firstHolding s session name items := by
  induction items with
  | nil => rfl
  | cons item rest ih =>
    rw [Tags.firstHolding, Tags.firstHolding, ih]
    rfl

theorem condition_withLimits (i : Invocation) (m d : Nat) :
    Tags.condition.process { i with settings := i.settings.withLimits m d } =
      Tags.condition.process i := by
  dsimp only [Tags.condition]
  simp only [firstHolding_withLimits]
  rfl

/-- No standard tag looks at the limits. -/
theorem process_withLimits {h : Handler} (hh : h ∈ standardHandlers) (i : Invocation)
    (m d : Nat) :
    h.process { i with settings := i.settings.withLimits m d } = h.process i := by
  simp only [standardHandlers, List.mem_cons, List.not_mem_nil, or_false] at hh
  rcases hh with rfl | rfl | rfl | rfl | rfl | rfl | rfl | rfl | rfl | rfl | rfl | rfl | rfl |
    rfl | rfl | rfl | rfl | rfl | rfl | rfl | rfl | rfl | rfl
  all_goals first | exact condition_withLimits i m d | rfl

namespace Simulation

variable (sim : Simulation) {k l : Nat} {i i' : Invocation}

/-- The predicate in the name attribute of the node may be given any trimmed value. -/
def Allows (sim : Simulation) (n : Node) : Prop :=
  ∀ p ∈ n.attributes.value? "name".toList, ∀ v, sim.writable p (Text.trim v)

/-- Two items with the same attributes and content that is alike. -/
structure AlikeItem (k : Nat) (c c' : Child) : Prop where
  attributes : c'.node.attributes = c.node.attributes
  content : sim.rel k c.content c'.content

/-- Two invocations whose parts are alike: `k` bounds the cost of the content and of each
item, and `l` that of a self-query. -/
structure Invoked (k l : Nat) (i i' : Invocation) : Prop where
  settings : i'.settings = i.settings
  session : i.context.session = sim.session
  session' : i'.context.session = sim.session
  stars : i'.context.stars = i.context.stars
  attributes : i'.node.attributes = i.node.attributes
  selfClosing : i'.node.isSelfClosing = i.node.isSelfClosing
  content : sim.rel k i.content i'.content
  items : List.Forall₂ (sim.AlikeItem k) i.items i'.items
  selfQuery : ∀ text, sim.rel l
    ((i.selfQuery text).orIfTooDeep i.settings.recursionFallback)
    ((i'.selfQuery text).orIfTooDeep i.settings.recursionFallback)

variable {sim}

theorem Invoked.attribute? (hi : sim.Invoked k l i i') (name : Text) :
    i'.attribute? name = i.attribute? name := by
  simp only [Invocation.attribute?, hi.attributes]

theorem Invoked.index? (hi : sim.Invoked k l i i') : Tags.index? i' = Tags.index? i :=
  hi.attribute? _

theorem Invoked.name? (hi : sim.Invoked k l i i') : Tags.name? i' = Tags.name? i :=
  hi.attribute? _

/-! ## Tags that recall or report -/

/-- The three tags for wildcards differ in the wildcards that they look at. -/
theorem Invoked.rel_capture (hi : sim.Invoked k l i i') (wildcards : Stars → List Text) :
    sim.rel 0
      (.done (Tags.elementAt (wildcards i.context.stars) (Tags.place (Tags.index? i))))
      (.done (Tags.elementAt (wildcards i'.context.stars) (Tags.place (Tags.index? i')))) := by
  rw [hi.stars, hi.index?]
  exact sim.done _

theorem Invoked.rel_sentenceOf (hi : sim.Invoked k l i i') (kind : HistoryKind) :
    sim.rel 0 (Tags.sentenceOf kind i) (Tags.sentenceOf kind i') := by
  dsimp only [Tags.sentenceOf]
  rw [hi.index?, hi.settings, hi.session, hi.session']
  exact sim.rel_historySentence _ kind _ _

theorem Invoked.rel_get (hi : sim.Invoked k l i i') :
    sim.rel 0 (Tags.get.process i) (Tags.get.process i') := by
  dsimp only [Tags.get]
  rw [hi.name?, hi.settings, hi.session, hi.session']
  cases Tags.name? i with
  | none => exact sim.done []
  | some name => exact sim.rel_predicate _ name

theorem Invoked.rel_set (hi : sim.Invoked k l i i') (hw : sim.Allows i.node) :
    sim.rel k (Tags.set.process i) (Tags.set.process i') := by
  dsimp only [Tags.set]
  rw [hi.name?, hi.session, hi.session']
  refine sim.bind (l := 0) hi.content fun t => ?_
  cases hname : Tags.name? i with
  | none => exact sim.done _
  | some name => exact sim.rel_map _ (sim.rel_setPredicate (hw name hname t))

theorem Invoked.rel_bot (hi : sim.Invoked k l i i') :
    sim.rel 0 (Tags.bot.process i) (Tags.bot.process i') := by
  dsimp only [Tags.bot]
  rw [hi.name?, hi.settings]
  exact sim.done _

theorem Invoked.rel_date (hi : sim.Invoked k l i i') :
    sim.rel 0 (Tags.date.process i) (Tags.date.process i') := by
  dsimp only [Tags.date]
  rw [hi.attribute?, hi.settings]
  exact sim.rel_map _ (sim.ask .now nofun)

theorem Invoked.rel_id (hi : sim.Invoked k l i i') :
    sim.rel 0 (Tags.id.process i) (Tags.id.process i') := by
  dsimp only [Tags.id]
  rw [hi.session, hi.session']
  exact sim.done _

theorem rel_size : sim.rel 0 (Tags.size.process i) (Tags.size.process i') :=
  sim.rel_map _ (sim.ask .categoryCount nofun)

theorem Invoked.rel_version (hi : sim.Invoked k l i i') :
    sim.rel 0 (Tags.version.process i) (Tags.version.process i') := by
  dsimp only [Tags.version]
  rw [hi.settings]
  exact sim.done _

/-! ## Tags that shape their content -/

theorem Invoked.rel_shape (hi : sim.Invoked k l i i') (label : Text)
    (change : Settings → Text → Text) :
    sim.rel k ((Tags.shape label change).process i) ((Tags.shape label change).process i') := by
  dsimp only [Tags.shape]
  rw [hi.settings]
  exact sim.rel_map _ hi.content

theorem Invoked.rel_shift (hi : sim.Invoked k l i i') (label : Text)
    (table : Substitutions → SubstitutionTable)
    (hx : i.node.isSelfClosing = true → sim.rel (k + l) i.expandShorthand i'.expandShorthand) :
    sim.rel (k + l) ((Tags.shift label table).process i) ((Tags.shift label table).process i') := by
  dsimp only [Tags.shift]
  rw [hi.settings, hi.selfClosing]
  split
  · next h => exact hx h
  · exact sim.weaken (Nat.le_add_right k l) (sim.rel_map _ hi.content)

/-! ## Tags that choose -/

/-- A choice among items does not depend on how their number is written. -/
theorem choice_get_eq {item other : Child} {rest : List Child} {n : Nat} (hn : rest.length = n) :
    (do
      let j ← Evaluation.choice (rest.length + 1)
      ((item :: other :: rest).get j).content) =
    (do
      let j ← Evaluation.choice (n + 1)
      ((item :: other :: rest).get (j.cast (by simp [hn]))).content) := by
  subst hn
  rfl

theorem Invoked.rel_random (hi : sim.Invoked k l i i') :
    sim.rel k (Tags.random.process i) (Tags.random.process i') := by
  dsimp only [Tags.random]
  have hitems := hi.items
  generalize i.items = items at hitems
  generalize i'.items = items' at hitems
  cases hitems with
  | nil => exact sim.rel_done k []
  | cons h hitems =>
    cases hitems with
    | nil => exact h.content
    | cons h' hitems =>
      dsimp only
      rw [choice_get_eq hitems.length_eq, choice_get_eq rfl]
      refine sim.bind_free (sim.ask (.choice _) nofun) fun j => ?_
      have hall := List.Forall₂.cons h (List.Forall₂.cons h' hitems)
      exact (hall.get (hall.length_eq ▸ j.isLt) j.isLt).content

theorem rel_predicateMatches (s : Settings) (name value : Text) :
    sim.rel 0 (Tags.predicateMatches s sim.session name value)
      (Tags.predicateMatches s sim.session name value) := by
  refine sim.bind_free (sim.rel_predicate s name) fun current => ?_
  cases Pattern.parse? (Text.fitPattern value) with
  | ok p => exact sim.done _
  | error e => exact sim.done _

theorem rel_firstHolding (s : Settings) (name : Option Text) {items items' : List Child}
    (h : List.Forall₂ (sim.AlikeItem k) items items') :
    sim.rel k (Tags.firstHolding s sim.session name items)
      (Tags.firstHolding s sim.session name items') := by
  induction h with
  | nil => exact sim.rel_done k []
  | @cons item item' rest rest' h _ ih =>
    rw [Tags.firstHolding, Tags.firstHolding, h.attributes]
    cases Tags.guardOf name item.node.attributes with
    | always => exact h.content
    | never => exact ih
    | «matches» name value =>
      refine sim.bind_free (rel_predicateMatches s name value) fun holds => ?_
      cases holds with
      | true => exact h.content
      | false => exact ih

theorem Invoked.rel_condition (hi : sim.Invoked k l i i') :
    sim.rel k (Tags.condition.process i) (Tags.condition.process i') := by
  dsimp only [Tags.condition]
  rw [hi.attribute?, hi.attribute?, hi.settings, hi.session, hi.session']
  have hlist : ∀ name, sim.rel k
      (Tags.firstHolding i.settings sim.session name i.items)
      (Tags.firstHolding i.settings sim.session name i'.items) := fun name =>
    rel_firstHolding i.settings name hi.items
  cases i.attribute? "name".toList with
  | none => exact hlist none
  | some name =>
    cases i.attribute? "value".toList with
    | none => exact hlist (some name)
    | some value =>
      refine sim.bind_free (rel_predicateMatches i.settings name value) fun holds => ?_
      cases holds with
      | true => exact hi.content
      | false => exact sim.rel_done k []

theorem Invoked.rel_srai (hi : sim.Invoked k l i i') :
    sim.rel (k + l) (Tags.srai.process i) (Tags.srai.process i') := by
  dsimp only [Tags.srai]
  rw [hi.settings]
  exact sim.bind hi.content hi.selfQuery

/-! ## All of them -/

/-- **What a standard tag does costs no more than its content and one self-query**, and it
is the same in alike invocations. Of the tags only `set` writes. -/
theorem Invoked.rel_process (hi : sim.Invoked k l i i') {h : Handler} (hh : h ∈ standardHandlers)
    (hw : h.label = "set".toList → sim.Allows i.node)
    (hx : h.label ∈ shiftLabels → i.node.isSelfClosing = true →
      sim.rel (k + l) i.expandShorthand i'.expandShorthand) :
    sim.rel (k + l) (h.process i) (h.process i') := by
  have free : ∀ {e e' : Evaluation Text}, sim.rel 0 e e' → sim.rel (k + l) e e' :=
    sim.weaken (Nat.zero_le _)
  have once : ∀ {e e' : Evaluation Text}, sim.rel k e e' → sim.rel (k + l) e e' :=
    sim.weaken (Nat.le_add_right k l)
  simp only [standardHandlers, List.mem_cons, List.not_mem_nil, or_false] at hh
  rcases hh with rfl | rfl | rfl | rfl | rfl | rfl | rfl | rfl | rfl | rfl | rfl | rfl | rfl |
    rfl | rfl | rfl | rfl | rfl | rfl | rfl | rfl | rfl | rfl
  · exact free (hi.rel_capture Stars.input)
  · exact free (hi.rel_capture Stars.that)
  · exact free (hi.rel_capture Stars.topic)
  · exact free (hi.rel_sentenceOf .input)
  · exact free (hi.rel_sentenceOf .that)
  · exact free hi.rel_get
  · exact once (hi.rel_set (hw rfl))
  · exact free hi.rel_bot
  · exact once (hi.rel_shape _ _)
  · exact once (hi.rel_shape _ _)
  · exact once (hi.rel_shape _ _)
  · exact once (hi.rel_shape _ _)
  · exact once (hi.rel_shape _ _)
  · exact hi.rel_shift _ _ (hx (by decide))
  · exact hi.rel_shift _ _ (hx (by decide))
  · exact hi.rel_shift _ _ (hx (by decide))
  · exact once hi.rel_random
  · exact once hi.rel_condition
  · exact hi.rel_srai
  · exact free hi.rel_date
  · exact free hi.rel_id
  · exact free rel_size
  · exact free hi.rel_version

end Simulation

end Dialogue
