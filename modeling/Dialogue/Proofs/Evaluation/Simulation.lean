import Dialogue.Evaluation.Handler

/-!
# Evaluations that behave alike

A simulation relates evaluations that run in one session. It is closed under everything that
the standard tags are made of: giving a value, going on, visiting, asking, and catching a
self-query that nests too deep. The number in the relation bounds what the visits of the two
evaluations cost; along a sequence the bounds add up. A simulation that does not count lets
a visit cost nothing. It may also limit what is written: which predicates, and which values.

Two evaluations of the same template are related by every simulation that permits what its tags
set (`rel_nodes`), so a fact about all templates is shown by giving a simulation. A fact about
one evaluation is a simulation that looks at one side only.
-/

namespace Dialogue

open Evaluation Markup

/-- The requests of a session that neither visit a node nor look for a category. The number
of visits so far is not among them. -/
inductive Request.OfSession (session : SessionId) : Request → Prop
  | choice (bound : Nat) : OfSession session (.choice bound)
  | categoryCount : OfSession session .categoryCount
  | now : OfSession session .now
  | predicate (name : Text) : OfSession session (.call (.predicate session name))
  | setPredicate (name value : Text) :
      OfSession session (.call (.setPredicate session name value))
  | history (kind : HistoryKind) (index : Nat) :
      OfSession session (.call (.history session kind index))

/-- The predicate to which a request gives a value, and the value. -/
def Request.write? : Request → Option (Text × Text)
  | .call (.setPredicate _ name value) => some (name, value)
  | _ => none

/-- A relation between two evaluations, step bound included, that the constructions of the
standard tags respect. `done`, `bind` and `orIfTooDeep` are the three ways to put evaluations
together; `visit`, `ask` and `select` are the requests they come down to. -/
structure Simulation where
  /-- The session of the evaluations. -/
  session : SessionId
  /-- The depths at which a node may be visited on the two sides. -/
  depths : Nat → Nat → Prop
  /-- The templates that a category may have. -/
  template : Document → Prop
  /-- The values that a predicate may be given. -/
  writable : Text → Text → Prop
  /-- The cost of a visit. -/
  visitCost : Nat
  /-- The evaluations are alike, and their visits cost at most the number. -/
  rel : {α : Type} → Nat → Evaluation α → Evaluation α → Prop
  /-- A value is like itself, at no cost. -/
  done : ∀ {α : Type} (a : α), rel 0 (.done a) (.done a)
  /-- The number is an upper bound only. -/
  weaken : ∀ {α : Type} {k l : Nat} {e e' : Evaluation α}, k ≤ l → rel k e e' → rel l e e'
  /-- In a sequence the costs add up. The second parts need only be alike after one and the
  same answer, so related evaluations end with the same values. -/
  bind : ∀ {α β : Type} {k l : Nat} {e e' : Evaluation α} {f f' : α → Evaluation β},
    rel k e e' → (∀ a, rel l (f a) (f' a)) → rel (k + l) (e >>= f) (e' >>= f')
  /-- To catch what nests too deep costs nothing: the default is a value. -/
  orIfTooDeep : ∀ {k : Nat} {e e' : Evaluation Text} (t : Text), rel k e e' →
    rel k (e.orIfTooDeep t) (e'.orIfTooDeep t)
  /-- Visits at depths that go together are alike. This is the only request with a cost. -/
  visit : ∀ {d d' : Nat}, depths d d' → rel visitCost (ask (.visit d)) (ask (.visit d'))
  /-- A request of the session is like itself if it writes only what may be written. -/
  ask : ∀ {r : Request}, r.OfSession session → (∀ w ∈ r.write?, writable w.1 w.2) →
    rel 0 (ask r) (ask r)
  /-- A search for a category comes with what follows it, which may rely on the template of
  the category found. -/
  select : ∀ {β : Type} {k : Nat} {f f' : Option Selection → Evaluation β}
    (input that topic : Text),
    (∀ answer, (∀ s ∈ answer, template s.template) → rel k (f answer) (f' answer)) →
    rel k (call (.select input that topic) >>= f) (call (.select input that topic) >>= f')

namespace Simulation

variable (sim : Simulation) {α β : Type} {k l : Nat}

theorem rel_done (k : Nat) (a : α) : sim.rel k (.done a) (.done a) :=
  sim.weaken (Nat.zero_le k) (sim.done a)

/-- What costs nothing may come first at no cost. -/
theorem bind_free {e e' : Evaluation α} {f f' : α → Evaluation β} (he : sim.rel 0 e e')
    (hf : ∀ a, sim.rel k (f a) (f' a)) : sim.rel k (e >>= f) (e' >>= f') := by
  have h := sim.bind he hf
  rwa [Nat.zero_add] at h

theorem rel_map {e e' : Evaluation α} (g : α → β) (he : sim.rel k e e') :
    sim.rel k (e >>= fun a => .done (g a)) (e' >>= fun a => .done (g a)) :=
  sim.bind he fun a => sim.done (g a)

/-! ## Queries -/

theorem rel_predicate? (name : Text) :
    sim.rel 0 (predicate? sim.session name) (predicate? sim.session name) :=
  sim.ask (.predicate name) nofun

theorem rel_predicate (s : Settings) (name : Text) :
    sim.rel 0 (predicate s sim.session name) (predicate s sim.session name) :=
  sim.rel_map _ (sim.rel_predicate? name)

theorem rel_setPredicate {name value : Text} (h : sim.writable name value) :
    sim.rel 0 (setPredicate sim.session name value) (setPredicate sim.session name value) :=
  sim.ask (.setPredicate name value) fun w hw => by
    obtain rfl := Option.some.inj hw
    exact h

theorem rel_historySentence (s : Settings) (kind : HistoryKind) (turn sentence : Nat) :
    sim.rel 0 (historySentence s sim.session kind turn sentence)
      (historySentence s sim.session kind turn sentence) := by
  unfold historySentence
  split
  · exact sim.done []
  · refine sim.bind_free (sim.ask (.history kind turn) nofun) fun entry => ?_
    cases entry with
    | none => exact sim.done []
    | some entry => exact sim.done _

theorem rel_thatContext (s : Settings) :
    sim.rel 0 (thatContext s sim.session) (thatContext s sim.session) :=
  sim.rel_map _ (sim.rel_historySentence s .that 1 1)

theorem rel_topicContext (s : Settings) :
    sim.rel 0 (topicContext s sim.session) (topicContext s sim.session) :=
  sim.rel_map _ (sim.rel_predicate? topicPredicate)

/-- What goes on with the category found is related if it is for every category that the
matcher may give. -/
theorem rel_findCategory_bind (s : Settings) (text : Text)
    {f f' : Option Selection → Evaluation β}
    (hf : ∀ answer, (∀ x ∈ answer, sim.template x.template) → sim.rel k (f answer) (f' answer)) :
    sim.rel k (findCategory s sim.session text >>= f)
      (findCategory s sim.session text >>= f') := by
  rw [findCategory_bind, findCategory_bind]
  refine sim.bind_free (sim.rel_thatContext s) fun that => ?_
  refine sim.bind_free (sim.rel_topicContext s) fun topic => ?_
  exact sim.select _ that topic hf

end Simulation

end Dialogue
