import Dialogue.Proofs.Budget
import Dialogue.Proofs.Markup.Attribute

/-!
# Conditions are chains of if-then-else

The items of a condition are judged in order. The guard of an item reads at most one predicate
(`Judged`); the first item that can be taken is evaluated, and a predicate that cannot be read ends
the search (`Decided`). This is all that a condition with items does (`Decided.run_firstHolding`).
A condition around its content does what one with a single item does, whichever of the two names
the predicate (`node_block`, `node_oneItem`).
-/

namespace Dialogue

open Evaluation Markup

variable {σ : Type}

/-! ## Guards -/

namespace Markup

namespace Node

variable {named : Option Text} {item : Node} {p v : Text}

def attribute? (n : Node) (name : Text) : Option Text := n.attributes.value? name

/-- The node is a tag with the label around the content. Its attributes name a predicate and give a
value, each of them if it is there. -/
structure HasForm (n : Node) (label : Text) (predicate value : Option Text) (content : List Node) :
    Prop where
  label : n.name? = some label
  predicate : n.attribute? "name".toList = predicate
  value : n.attribute? "value".toList = value
  content : n.children = content

/-- Every predicate and every value can be written. -/
theorem hasForm_withAttributes (label : Text) {attributes : Attributes}
    (h : ∀ a ∈ attributes, IsKey a.1) (content : List Node) :
    (Node.element (.withAttributes label attributes) content).HasForm label
      (attributes.value? "name".toList) (attributes.value? "value".toList) content where
  label := rfl
  predicate := congrArg (Attributes.value? · "name".toList) (Tag.attributes_withAttributes label h)
  value := congrArg (Attributes.value? · "value".toList) (Tag.attributes_withAttributes label h)
  content := rfl

/-- The item has no guard: it gives no value and, if the condition does not name a predicate for
all items, it names none either. -/
def IsUnguarded (named : Option Text) (item : Node) : Prop :=
  item.attribute? "value".toList = none ∧ (named = none → item.attribute? "name".toList = none)

/-- The guard of the item is incomplete: no predicate is named for all items, and the item only
names one, or only gives a value. -/
def IsHalfGuarded (named : Option Text) (item : Node) : Prop :=
  named = none ∧
    (item.attribute? "name".toList).isSome ≠ (item.attribute? "value".toList).isSome

/-- The guard of the item compares a predicate, named for all items or else by the item, with a
value. -/
def IsGuardedBy (named : Option Text) (item : Node) (p v : Text) : Prop :=
  named.or (item.attribute? "name".toList) = some p ∧ item.attribute? "value".toList = some v

/-- The predicate that the guard of the item reads. -/
def guardPredicate? (named : Option Text) (item : Node) : Option Text :=
  if (item.attribute? "value".toList).isSome then named.or (item.attribute? "name".toList)
  else none

theorem isGuarded_cases (named : Option Text) (item : Node) :
    IsUnguarded named item ∨ IsHalfGuarded named item ∨ ∃ p v, IsGuardedBy named item p v := by
  unfold IsUnguarded IsHalfGuarded IsGuardedBy
  cases named <;> cases item.attribute? "name".toList <;>
    cases item.attribute? "value".toList <;> simp

theorem IsUnguarded.guardOf_eq (h : IsUnguarded named item) :
    Tags.guardOf named item.attributes = .always := by
  obtain ⟨hvalue, hname⟩ := h
  unfold attribute? at hvalue hname
  unfold Tags.guardOf
  rw [hvalue]
  cases named with
  | none => rw [hname rfl]
  | some p => rfl

theorem IsHalfGuarded.guardOf_eq (h : IsHalfGuarded named item) :
    Tags.guardOf named item.attributes = .never := by
  obtain ⟨rfl, hone⟩ := h
  unfold attribute? at hone
  unfold Tags.guardOf
  cases hname : item.attributes.value? "name".toList <;>
    cases hvalue : item.attributes.value? "value".toList <;> rw [hname, hvalue] at hone
  all_goals first | rfl | exact absurd rfl hone

theorem IsGuardedBy.guardOf_eq (h : IsGuardedBy named item p v) :
    Tags.guardOf named item.attributes = .matches p v := by
  obtain ⟨hname, hvalue⟩ := h
  unfold attribute? at hname hvalue
  unfold Tags.guardOf
  rw [hvalue]
  cases named with
  | none => rw [show item.attributes.value? "name".toList = some p from hname]
  | some p' => rw [show p' = p from Option.some.inj hname]

theorem IsUnguarded.guardPredicate?_eq (h : IsUnguarded named item) :
    guardPredicate? named item = none := by
  rw [guardPredicate?, h.1]
  rfl

theorem IsHalfGuarded.guardPredicate?_eq (h : IsHalfGuarded named item) :
    guardPredicate? named item = none := by
  obtain ⟨rfl, hone⟩ := h
  unfold guardPredicate?
  split
  · next hvalue =>
    rw [hvalue] at hone
    exact Option.not_isSome_iff_eq_none.1 hone
  · rfl

theorem IsGuardedBy.guardPredicate?_eq (h : IsGuardedBy named item p v) :
    guardPredicate? named item = some p := by
  rw [guardPredicate?, h.2]
  exact h.1

end Node

end Markup

/-- The value is a pattern, and what the predicate is at present matches it. -/
def Holds (value current : Text) : Prop :=
  ∃ p, Pattern.parse? (Text.fitPattern value) = .ok p ∧
    p.isMatch true (Text.fitPattern current) = true

theorem holds_iff_of_ok {value : Text} {p : Pattern}
    (h : Pattern.parse? (Text.fitPattern value) = .ok p) (current : Text) :
    Holds value current ↔ p.isMatch true (Text.fitPattern current) = true :=
  ⟨fun ⟨_, hq, hmatch⟩ => Except.ok.inj (hq.symm.trans h) ▸ hmatch, fun hmatch => ⟨p, h, hmatch⟩⟩

theorem not_holds_of_error {value : Text} {e : InvalidPattern}
    (h : Pattern.parse? (Text.fitPattern value) = .error e) (current : Text) :
    ¬ Holds value current := fun ⟨_, hq, _⟩ => by cases h.symm.trans hq

instance (value current : Text) : Decidable (Holds value current) :=
  match h : Pattern.parse? (Text.fitPattern value) with
  | .ok _ => decidable_of_iff _ (holds_iff_of_ok h current).symm
  | .error _ => isFalse (not_holds_of_error h current)

/-- A predicate is read and then compared. -/
theorem predicateMatches_eq (s : Settings) (session : SessionId) (p v : Text) :
    Tags.predicateMatches s session p v =
      predicate s session p >>= fun current => .done (decide (Holds v current)) := by
  unfold Tags.predicateMatches
  congr 1
  funext current
  split
  · next q h =>
    refine congrArg Evaluation.done (Bool.eq_iff_iff.2 ?_)
    rw [decide_eq_true_iff, holds_iff_of_ok h]
  · next e h =>
    rw [decide_eq_false (not_holds_of_error h current)]
    rfl

/-! ## Children -/

namespace Evaluator

variable (ev : Evaluator) (c : Context) (q : Text → Evaluation Text)

theorem content_eq (n : Node) : ev.content c q n = ev.nodes c q n.children := by
  cases n with
  | element tag children => rw [content, map_visit_children, nodes, Node.children]
  | selfClosing tag | text t | literalBlock t | comment t => simp only [content]; rfl

theorem filter_children (keep : Node → Bool) (ns : List Node) :
    (ev.children c q ns).filter (fun child => keep child.node) =
      ev.children c q (ns.filter keep) := by
  induction ns with
  | nil => simp only [children, List.filter_nil]
  | cons n rest ih =>
    rw [children, List.filter_cons, List.filter_cons, ih]
    split
    · rw [children]
    · rfl

end Evaluator

/-! ## Judging the items -/

section Items

variable (env : Environment σ) (s : Settings) (session : SessionId) (named : Option Text)

/-- What the guard of an item says in a world, or why its predicate cannot be read, and the world
after that. -/
inductive Judged (item : Node) (world : World σ) : Except CallError Bool → World σ → Prop
  | unguarded (h : item.IsUnguarded named) : Judged item world (.ok true) world
  | halfGuarded (h : item.IsHalfGuarded named) : Judged item world (.ok false) world
  | compared {p v : Text} {answer : Option Text} {later : World σ} {holds : Bool}
      (h : item.IsGuardedBy named p v)
      (hread : env.call (.predicate session p) world = (.ok answer, later))
      (hholds : decide (Holds v (answer.getD s.defaultPredicateValue)) = holds) :
      Judged item world (.ok holds) later
  | refused {p v : Text} {e : CallError} {later : World σ} (h : item.IsGuardedBy named p v)
      (hread : env.call (.predicate session p) world = (.error e, later)) :
      Judged item world (.error e) later

/-- The items are judged one after the other, and none of them is taken. -/
inductive PassedOver : List Node → World σ → World σ → Prop
  | nil (world : World σ) : PassedOver [] world world
  | cons {item : Node} {rest : List Node} {world next later : World σ}
      (h : Judged env s session named item world (.ok false) next)
      (hrest : PassedOver rest next later) : PassedOver (item :: rest) world later

/-- Which items are judged, which of them is taken if any is, or why the search ended, and the
world after that. The item that is taken is the first one that can be. -/
inductive Decided :
    List Node → World σ → List Node → Except CallError (Option Node) → World σ → Prop
  | nothing {items : List Node} {world later : World σ}
      (h : PassedOver env s session named items world later) :
      Decided items world items (.ok none) later
  | taken {before after : List Node} {item : Node} {world next later : World σ}
      (h : PassedOver env s session named before world next)
      (hitem : Judged env s session named item next (.ok true) later) :
      Decided (before ++ item :: after) world (before ++ [item]) (.ok (some item)) later
  | refused {before after : List Node} {item : Node} {e : CallError} {world next later : World σ}
      (h : PassedOver env s session named before world next)
      (hitem : Judged env s session named item next (.error e) later) :
      Decided (before ++ item :: after) world (before ++ [item]) (.error e) later

variable {env s session named}
variable {item : Node} {items judged : List Node} {world later : World σ}
variable {verdict : Except CallError Bool} {decision : Except CallError (Option Node)}

theorem exists_judged (env : Environment σ) (s : Settings) (session : SessionId)
    (named : Option Text) (item : Node) (world : World σ) :
    ∃ verdict later, Judged env s session named item world verdict later := by
  rcases Node.isGuarded_cases named item with h | h | ⟨p, v, h⟩
  · exact ⟨_, _, .unguarded h⟩
  · exact ⟨_, _, .halfGuarded h⟩
  · rcases hread : env.call (.predicate session p) world with ⟨e | answer, later⟩
    · exact ⟨_, _, .refused h hread⟩
    · exact ⟨_, _, .compared h hread rfl⟩

theorem Decided.of_taken (h : Judged env s session named item world (.ok true) later)
    (rest : List Node) :
    Decided env s session named (item :: rest) world [item] (.ok (some item)) later :=
  @Decided.taken _ env s session named [] rest item world world later (.nil world) h

theorem Decided.of_refused {e : CallError}
    (h : Judged env s session named item world (.error e) later) (rest : List Node) :
    Decided env s session named (item :: rest) world [item] (.error e) later :=
  @Decided.refused _ env s session named [] rest item e world world later (.nil world) h

theorem Decided.cons {next : World σ} (h : Judged env s session named item world (.ok false) next)
    (hrest : Decided env s session named items next judged decision later) :
    Decided env s session named (item :: items) world (item :: judged) decision later := by
  cases hrest with
  | nothing hrest => exact .nothing (.cons h hrest)
  | taken hbefore hitem => exact .taken (.cons h hbefore) hitem
  | refused hbefore hitem => exact .refused (.cons h hbefore) hitem

/-- The search always comes to an end. -/
theorem exists_decided (env : Environment σ) (s : Settings) (session : SessionId)
    (named : Option Text) (items : List Node) (world : World σ) :
    ∃ judged decision later, Decided env s session named items world judged decision later := by
  -- the search goes on only behind an item that is passed over, in the world after its guard
  induction items generalizing world with
  | nil => exact ⟨_, _, _, .nothing (.nil world)⟩
  | cons item rest ih =>
    obtain ⟨verdict, next, hitem⟩ := exists_judged env s session named item world
    match verdict with
    | .error e => exact ⟨_, _, _, .of_refused hitem rest⟩
    | .ok true => exact ⟨_, _, _, .of_taken hitem rest⟩
    | .ok false =>
      obtain ⟨judged, decision, later, hrest⟩ := ih next
      exact ⟨_, _, _, hrest.cons hitem⟩

/-! ## The calls -/

theorem Environment.calls_call (env : Environment σ) (call : Call) (world : World σ) :
    (env.call call world).2.calls.map Event.call = call :: world.calls.map Event.call := by
  unfold Environment.call
  rcases env.answer call world.state with ⟨e | answer, state⟩ <;> rfl

def guardReads (session : SessionId) (named : Option Text) (items : List Node) : List Call :=
  (items.filterMap (Node.guardPredicate? named)).map (.predicate session)

theorem guardReads_append (session : SessionId) (named : Option Text) (items rest : List Node) :
    guardReads session named (items ++ rest) =
      guardReads session named items ++ guardReads session named rest := by
  simp only [guardReads, List.filterMap_append, List.map_append]

/-- To judge an item is to read the predicate of its guard, if it has one. -/
theorem Judged.calls_eq (h : Judged env s session named item world verdict later) :
    later.calls.map Event.call =
      (guardReads session named [item]).reverse ++ world.calls.map Event.call := by
  have hread : ∀ {p v : Text}, item.IsGuardedBy named p v →
      (env.call (.predicate session p) world).2.calls.map Event.call =
        (guardReads session named [item]).reverse ++ world.calls.map Event.call := by
    intro p v hguard
    rw [env.calls_call, guardReads, List.filterMap_cons_some hguard.guardPredicate?_eq]
    rfl
  cases h with
  | unguarded h => rw [guardReads, List.filterMap_cons_none h.guardPredicate?_eq]; rfl
  | halfGuarded h => rw [guardReads, List.filterMap_cons_none h.guardPredicate?_eq]; rfl
  | compared h hcall hholds => rw [← hread h, hcall]
  | refused h hcall => rw [← hread h, hcall]

theorem PassedOver.calls_eq (h : PassedOver env s session named items world later) :
    later.calls.map Event.call =
      (guardReads session named items).reverse ++ world.calls.map Event.call := by
  induction h with
  | nil world => rfl
  | @cons item rest world next later hitem hrest ih =>
    have hreads := guardReads_append session named [item] rest
    rw [List.singleton_append] at hreads
    rw [ih, hitem.calls_eq, hreads, List.reverse_append, List.append_assoc]

/-- **Only the guards of the items judged are read**, in order. -/
theorem Decided.calls_eq (h : Decided env s session named items world judged decision later) :
    later.calls.map Event.call =
      (guardReads session named judged).reverse ++ world.calls.map Event.call := by
  cases h with
  | nothing h => exact h.calls_eq
  | taken h hitem | refused h hitem =>
    rw [hitem.calls_eq, h.calls_eq, guardReads_append, List.reverse_append, List.append_assoc]

/-! ## Running the search -/

section Run

variable (budget : Budget) (chance : Chance)

/-- A call that fails ends the run; any other one goes on with the answer. -/
theorem run_call {α : Type} (env : Environment σ) (c : Call)
    (next : (Request.call c).Answer → Evaluation α) (turn : Turn σ) :
    (Evaluation.request (.call c) next).run env budget chance turn =
      match env.call c turn.world with
      | (.ok answer, world) => (next answer).run env budget chance { turn with world }
      | (.error e, world) => (.error (.call e), { turn with world }) := by
  simp only [Evaluation.run, Environment.serve]
  rcases env.call c turn.world with ⟨e | answer, world⟩ <;> rfl

theorem run_predicate_bind {α : Type} (f : Text → Evaluation α) (p : Text) (turn : Turn σ) :
    (predicate s session p >>= f).run env budget chance turn =
      match env.call (.predicate session p) turn.world with
      | (.ok answer, world) =>
        (f (Option.getD answer s.defaultPredicateValue)).run env budget chance
          { turn with world }
      | (.error e, world) => (.error (.call e), { turn with world }) := by
  refine (run_call budget chance env (.predicate session p)
    (fun answer => f (Option.getD answer s.defaultPredicateValue)) turn).trans ?_
  rcases env.call (.predicate session p) turn.world with ⟨e | answer, world⟩ <;> rfl

variable (ev : Evaluator) (c : Context) (q : Text → Evaluation Text) (turn : Turn σ)

/-- The verdict on an item decides how the search goes on. -/
theorem Judged.run_firstHolding (rest : List Node) :
    Judged env s session named item world verdict later →
      (Tags.firstHolding s session named (ev.children c q (item :: rest))).run env budget chance
          { turn with world } =
        match verdict with
        | .ok true =>
          (ev.nodes c q item.children).run env budget chance { turn with world := later }
        | .ok false =>
          (Tags.firstHolding s session named (ev.children c q rest)).run env budget chance
            { turn with world := later }
        | .error e => (.error (.call e), { turn with world := later }) := by
  -- the verdict stands behind the colon, since the match must not speak about its proof
  intro h
  rw [Evaluator.children, Tags.firstHolding, ev.content_eq]
  dsimp only
  cases h with
  | unguarded h => rw [h.guardOf_eq]
  | halfGuarded h => rw [h.guardOf_eq]
  | @compared p v answer later holds h hread hholds =>
    rw [h.guardOf_eq]
    dsimp only
    rw [predicateMatches_eq, Evaluation.bind_assoc, run_predicate_bind, hread]
    dsimp only
    rw [done_bind, hholds]
    cases holds <;> rfl
  | refused h hread =>
    rw [h.guardOf_eq]
    dsimp only
    rw [predicateMatches_eq, Evaluation.bind_assoc, run_predicate_bind, hread]

/-- The items that are passed over leave the rest of the search as it is. -/
theorem PassedOver.run_firstHolding {before : List Node}
    (h : PassedOver env s session named before world later) (rest : List Node) :
    (Tags.firstHolding s session named (ev.children c q (before ++ rest))).run env budget chance
        { turn with world } =
      (Tags.firstHolding s session named (ev.children c q rest)).run env budget chance
        { turn with world := later } := by
  induction h with
  | nil world => rfl
  | cons hitem hbefore ih =>
    exact (hitem.run_firstHolding budget chance ev c q turn _).trans ih

/-- **What is decided is done**: the search evaluates the item that is taken and nothing else, in
the world in which the guards leave it. -/
theorem Decided.run_firstHolding :
    Decided env s session named items world judged decision later →
      (Tags.firstHolding s session named (ev.children c q items)).run env budget chance
          { turn with world } =
        match decision with
        | .ok none => (.ok [], { turn with world := later })
        | .ok (some item) =>
          (ev.nodes c q item.children).run env budget chance { turn with world := later }
        | .error e => (.error (.call e), { turn with world := later }) := by
  intro h
  cases h with
  | nothing h =>
    have hrun := h.run_firstHolding budget chance ev c q turn []
    rw [List.append_nil] at hrun
    exact hrun
  | taken h hitem | refused h hitem =>
    exact (h.run_firstHolding budget chance ev c q turn _).trans
      (hitem.run_firstHolding budget chance ev c q turn _)

end Run

end Items

/-! ## The forms of a condition -/

section Forms

variable (s : Settings) (c : Context) (q : Text → Evaluation Text)

/-- The content if the predicate matches the value, and otherwise nothing. -/
def ifHolds (s : Settings) (session : SessionId) (p v : Text) (content : Evaluation Text) :
    Evaluation Text :=
  Tags.predicateMatches s session p v >>= fun holds => if holds then content else .done []

theorem standardHandler?_condition {n : Node} (hn : n.name? = some "condition".toList) :
    standardHandler? n = some Tags.condition := by
  rw [standardHandler?, hn]
  rfl

/-- A condition that names a predicate and gives a value is evaluated around its content. -/
theorem node_block {n : Node} {p v : Text} {content : List Node}
    (h : n.HasForm "condition".toList (some p) (some v) content) :
    (Evaluator.standard s).node c q n = visit c >>= fun _ =>
      ifHolds s c.session p v ((Evaluator.standard s).nodes c q content) := by
  obtain ⟨hlabel, hpredicate, hvalue, rfl⟩ := h
  unfold Node.attribute? at hpredicate hvalue
  rw [node_of_handler (standardHandler?_condition hlabel), Evaluator.nodes,
    ← Evaluator.map_visit_children]
  unfold Tags.condition Invocation.attribute?
  dsimp only
  rw [hpredicate, hvalue]
  rfl

/-- Any other condition looks for the first item that can be taken. -/
theorem node_list {n : Node} {named value : Option Text} {content : List Node}
    (h : n.HasForm "condition".toList named value content) (hlist : named = none ∨ value = none) :
    (Evaluator.standard s).node c q n = visit c >>= fun _ =>
      Tags.firstHolding s c.session named ((Evaluator.standard s).children c q
        (content.filter fun child => child.isNamed "li".toList)) := by
  obtain ⟨hlabel, hpredicate, hvalue, rfl⟩ := h
  unfold Node.attribute? at hpredicate hvalue
  rw [node_of_handler (standardHandler?_condition hlabel), ← Evaluator.filter_children]
  unfold Tags.condition Invocation.attribute?
  dsimp only
  rw [hpredicate, hvalue]
  rcases hlist with rfl | rfl
  · rfl
  · cases named <;> rfl

/-- A condition with one item that has a guard is evaluated around the content of the item. -/
theorem node_oneItem {n item : Node} {named value name? : Option Text} {p v : Text}
    {content : List Node} (h : n.HasForm "condition".toList named value [item])
    (hlist : named = none ∨ value = none)
    (hitem : item.HasForm "li".toList name? (some v) content) (hname : named.or name? = some p) :
    (Evaluator.standard s).node c q n = visit c >>= fun _ =>
      ifHolds s c.session p v ((Evaluator.standard s).nodes c q content) := by
  obtain ⟨hlabel, rfl, hvalue, rfl⟩ := hitem
  have hguard : item.IsGuardedBy named p v := ⟨hname, hvalue⟩
  have hitems : ([item].filter fun child => child.isNamed "li".toList) = [item] := by
    rw [List.filter_cons_of_pos]
    · rfl
    · rw [Node.isNamed, hlabel]
      rfl
  rw [node_list s c q h hlist, hitems, Evaluator.children, Evaluator.children, Tags.firstHolding,
    Evaluator.content_eq, hguard.guardOf_eq]
  rfl

end Forms

/-- **The three forms of a condition agree, and a list of items is a chain of if-then-else.** With
the predicate and the value on the condition, with the value on its only item, and with both on
its only item, a condition gives the same outcome after the same steps, choices and calls. Any
other condition is visited and evaluates what is inside the first of its items whose guard holds
or that has none, and no item otherwise; the only calls before that read the guards of the items
up to that one. -/
theorem run_condition (s : Settings) (env : Environment σ) (budget : Budget) (chance : Chance)
    (c : Context) (q : Text → Evaluation Text) (turn : Turn σ) :
    let ev := Evaluator.standard s
    let run (e : Evaluation Text) (turn : Turn σ) := e.run env budget chance turn
    (∀ (p v : Text) (other : Option Text) (content : List Node) (block named item bare full : Node),
      block.HasForm "condition".toList (some p) (some v) content →
      named.HasForm "condition".toList (some p) none [item] →
      item.HasForm "li".toList other (some v) content →
      bare.HasForm "condition".toList none none [full] →
      full.HasForm "li".toList (some p) (some v) content →
        run (ev.node c q named) turn = run (ev.node c q block) turn ∧
          run (ev.node c q bare) turn = run (ev.node c q block) turn) ∧
    ∀ (n : Node) (named value : Option Text) (content : List Node),
      n.HasForm "condition".toList named value content → named = none ∨ value = none →
      let items := content.filter fun child => child.isNamed "li".toList
      let ready (world : World σ) : Turn σ := { turn.later 1 with world }
      (∃ judged decision later,
        Decided env s c.session named items turn.world judged decision later) ∧
      ∀ judged decision later,
        Decided env s c.session named items turn.world judged decision later →
          (ready later).calls.map Event.call =
              turn.calls.map Event.call ++ guardReads c.session named judged ∧
            run (ev.node c q n) turn =
              match budget.excess? chance (turn.steps + 1) with
              | some excess => (.error (.budget excess), turn.later 1)
              | none =>
                match decision with
                | .ok none => (.ok [], ready later)
                | .ok (some item) => run (ev.nodes c q item.children) (ready later)
                | .error e => (.error (.call e), ready later) := by
  intro ev run
  constructor
  · intro p v other content block named item bare full hblock hnamed hitem hbare hfull
    have hb := node_block s c q hblock
    have hn := node_oneItem s c q hnamed (.inr rfl) hitem rfl
    have hf := node_oneItem s c q hbare (.inl rfl) hfull rfl
    exact ⟨congrArg (run · turn) (hn.trans hb.symm), congrArg (run · turn) (hf.trans hb.symm)⟩
  · intro n named value content hn hlist items ready
    refine ⟨exists_decided env s c.session named items turn.world, ?_⟩
    intro judged decision later h
    constructor
    · -- a world has its latest call first
      simp only [Turn.calls, List.map_reverse, ready]
      rw [h.calls_eq, List.reverse_append, List.reverse_reverse]
    · refine (congrArg (run · turn) (node_list s c q hn hlist)).trans ?_
      refine (run_visit env budget chance turn c.depth _).trans ?_
      cases budget.excess? chance (turn.steps + 1) with
      | none => exact h.run_firstHolding budget chance ev c q (turn.later 1)
      | some excess => rfl

def happyStore : SessionStore :=
  (SessionStore.empty 32).setPredicate [] "mood".toList "Happy!".toList

/-- The three ways to ask for the mood agree. In the list the first item has the wrong pet, and the
second one names no predicate, so the third one is taken. -/
theorem run_condition_mood :
    let tag (label : String) (attributes : Attributes) (content : List Node) : Node :=
      .element (.withAttributes label.toList attributes) content
    let mood : Text × Text := ("name".toList, "mood".toList)
    let pet : Text × Text := ("name".toList, "pet".toList)
    let value (v : String) : Text × Text := ("value".toList, v.toList)
    let glad : List Node := [.text "Glad!".toList]
    let items : List Node := [tag "li" [pet, value "cat"] [.text "Meow!".toList],
      tag "li" [value "dog"] [.text "Woof!".toList], tag "li" [mood, value "happy"] glad,
      tag "li" [] [.text "Hello!".toList]]
    let env : Environment SessionStore := .inMemory []
    let run (n : Node) := ((Evaluator.standard {}).node (.top [] .none) (fun _ => .done []) n).run
      env (Settings.budget {}) default (.start (.fresh happyStore))
    run (tag "condition" [mood] [tag "li" [value "happy"] glad]) =
        run (tag "condition" [mood, value "happy"] glad) ∧
      run (tag "condition" [] [tag "li" [mood, value "happy"] glad]) =
        run (tag "condition" [mood, value "happy"] glad) ∧
      (run (tag "condition" [] items)).1 = .ok "Glad!".toList ∧
      (run (tag "condition" [] items)).2.calls.map Event.call =
        [.predicate [] "pet".toList, .predicate [] "mood".toList] := by
  intro tag mood pet value glad items env run
  have hform : ∀ (label : String) (attributes : Attributes) (content : List Node),
      (∀ a ∈ attributes, IsKey a.1) → (tag label attributes content).HasForm label.toList
        (attributes.value? "name".toList) (attributes.value? "value".toList) content :=
    fun label attributes content h => Node.hasForm_withAttributes label.toList h content
  obtain ⟨hagree, hlist⟩ := run_condition {} env (Settings.budget {}) default
    (.top [] .none) (fun _ => .done []) (.start (.fresh happyStore))
  obtain ⟨hnamed, hbare⟩ := hagree "mood".toList "happy".toList none glad
    (tag "condition" [mood, value "happy"] glad)
    (tag "condition" [mood] [tag "li" [value "happy"] glad]) (tag "li" [value "happy"] glad)
    (tag "condition" [] [tag "li" [mood, value "happy"] glad]) (tag "li" [mood, value "happy"] glad)
    (hform _ _ _ (by decide)) (hform _ _ _ (by decide)) (hform _ _ _ (by decide))
    (hform _ _ _ (by decide)) (hform _ _ _ (by decide))
  have hpet := hform "li" [pet, value "cat"] [.text "Meow!".toList] (by decide)
  have hdog := hform "li" [value "dog"] [.text "Woof!".toList] (by decide)
  have hmood := hform "li" [mood, value "happy"] glad (by decide)
  have hhalf : (tag "li" [value "dog"] [.text "Woof!".toList]).IsHalfGuarded none := by
    refine ⟨rfl, ?_⟩
    rw [hdog.predicate, hdog.value]
    decide
  let begun : World SessionStore := ⟨happyStore, [], 1⟩
  let asked : World SessionStore := ⟨happyStore, [⟨.predicate [] "pet".toList, none⟩], 1⟩
  let known : World SessionStore :=
    ⟨happyStore, ⟨.predicate [] "mood".toList, none⟩ :: asked.calls, 1⟩
  have hask : env.call (.predicate [] "pet".toList) begun =
      (.ok (none : Option Text), asked) := rfl
  have hknow : env.call (.predicate [] "mood".toList) asked =
      (.ok (some "Happy!".toList), known) := rfl
  have hcat : Judged env {} [] none (tag "li" [pet, value "cat"] [.text "Meow!".toList])
      begun (.ok false) asked :=
    .compared ⟨hpet.predicate, hpet.value⟩ hask (by decide +kernel)
  have hhappy : Judged env {} [] none (tag "li" [mood, value "happy"] glad) asked (.ok true)
      known :=
    .compared ⟨hmood.predicate, hmood.value⟩ hknow (by decide +kernel)
  obtain ⟨-, hdecided⟩ := hlist (tag "condition" [] items) none none items
    (hform _ _ _ (by decide)) (.inl rfl)
  obtain ⟨-, hrun⟩ := hdecided _ _ _
    (.cons hcat (.cons (.halfGuarded hhalf) (.of_taken hhappy _)))
  have hend : run (tag "condition" [] items) = (.ok "Glad!".toList, ⟨2, [], 0, known⟩) := hrun
  rw [hend]
  exact ⟨hnamed, hbare, rfl, rfl⟩

end Dialogue
