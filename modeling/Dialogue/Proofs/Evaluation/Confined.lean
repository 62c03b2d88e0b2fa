import Dialogue.Conversation
import Dialogue.Proofs.Evaluation.Interpreter

/-!
# What a template can ask for

With the standard tags a template visits nodes at most as deep as the limit of nesting, looks
for categories, and asks for what belongs to its own session. It never gives up by itself, so
a run of it ends with an error only where a call fails or the budget is exceeded.
-/

namespace Dialogue

open Evaluation Markup

variable {α β σ : Type}

/-- The requests of a session at a depth of at most `depth`. -/
inductive Request.Confined (session : SessionId) (depth : Nat) : Request → Prop
  | visit {d : Nat} : d ≤ depth → Confined session depth (.visit d)
  | select (input that topic : Text) :
      Confined session depth (.call (.select input that topic))
  | ofSession {r : Request} : r.OfSession session → Confined session depth r

/-- An evaluation with such requests only, which never gives up by itself. -/
inductive Evaluation.Confined (session : SessionId) (depth : Nat) : Evaluation α → Prop
  | done (a : α) : Confined session depth (.done a)
  | request {r : Request} {next : r.Answer → Evaluation α} : r.Confined session depth →
      (∀ answer, Confined session depth (next answer)) →
      Confined session depth (.request r next)

namespace Evaluation.Confined

variable {session : SessionId} {depth : Nat} {e : Evaluation α}

theorem bind {f : α → Evaluation β} (h : Confined session depth e)
    (hf : ∀ a, Confined session depth (f a)) : Confined session depth (e >>= f) := by
  induction h with
  | done a => exact hf a
  | request hr _ ih => exact .request hr ih

theorem orIfTooDeep (h : Confined session depth e) (a : α) :
    Confined session depth (e.orIfTooDeep a) := by
  induction h with
  | done b => exact .done b
  | request hr _ ih => exact .request hr ih

end Evaluation.Confined

/-- Being confined, as a simulation that looks at the first side and does not count. -/
def Simulation.confined (session : SessionId) (depth : Nat) : Simulation where
  session := session
  depths d _ := d ≤ depth
  template _ := True
  writable _ _ := True
  visitCost := 0
  rel _ e _ := Evaluation.Confined session depth e
  done := .done
  weaken _ h := h
  bind h hf := h.bind hf
  orIfTooDeep t h := h.orIfTooDeep t
  visit hd := .request (.visit hd) .done
  ask hr _ := .request (.ofSession hr) .done
  select input that topic hf := .request (.select input that topic) fun answer =>
    hf answer fun _ _ => trivial

theorem confined_findCategory_bind (s : Settings) (session : SessionId) (depth : Nat)
    (text : Text) {f : Option Selection → Evaluation α}
    (hf : ∀ answer, Evaluation.Confined session depth (f answer)) :
    Evaluation.Confined session depth (findCategory s session text >>= f) := by
  have h := @Simulation.rel_findCategory_bind (Simulation.confined session depth) α 0 s text f f
  exact h fun answer _ => hf answer

/-- Templates are confined to their session and to any depth that neither the context nor the
limit of nesting exceeds. -/
theorem confined_evaluate_of_le (s : Settings) {c : Context} {depth : Nat} (hc : c.depth ≤ depth)
    (hlimit : s.maxRecursionDepth ≤ depth) (ns : List Node) :
    Evaluation.Confined c.session depth ((Evaluator.standard s).evaluate c ns) := by
  have hdepths : ∀ j ≤ s.maxRecursionDepth - c.depth, c.depth + j ≤ depth := by
    intro j hj
    omega
  have hpermits := (Simulation.confined c.session depth).permits_of_writable
    (fun _ _ => trivial) s
  exact (Simulation.confined c.session depth).rel_evaluate s (fun _ => 0)
    (fun _ _ _ => Nat.le_of_eq (Nat.zero_mul _)) (fun _ _ => hpermits _) rfl hdepths (hpermits _)

/-- **Templates are confined** to their session and to the limit of nesting. -/
theorem confined_evaluate (s : Settings) {c : Context} (hc : c.depth ≤ s.maxRecursionDepth)
    (ns : List Node) :
    Evaluation.Confined c.session s.maxRecursionDepth ((Evaluator.standard s).evaluate c ns) :=
  confined_evaluate_of_le s hc (Nat.le_refl _) ns

theorem confined_render (s : Settings) (session : SessionId) (stars : Stars)
    (template : Document) :
    Evaluation.Confined session s.maxRecursionDepth
      ((Evaluator.standard s).render session stars template) := by
  have h := confined_evaluate s (c := .top session stars) (Nat.zero_le _) template
  exact h.bind fun t => .done (Text.trim t)

theorem confined_answer (s : Settings) (session : SessionId) (text : Text) :
    Evaluation.Confined session s.maxRecursionDepth
      ((Evaluator.standard s).answer session text) := by
  refine confined_findCategory_bind s session _ text fun answer => ?_
  cases answer with
  | none => exact .done none
  | some selection =>
    exact (confined_render s session selection.stars selection.template).bind fun t =>
      .done (some t)

/-! ## The budget -/

namespace Budget

variable {budget : Budget} {chance : Chance} {visit : Nat}

theorem excess?_eq_none_iff :
    budget.excess? chance visit = none ↔
      visit ≤ budget.steps ∧ ¬ budget.time < chance.elapsed visit := by
  rw [excess?]
  split
  · next h => simp [Nat.not_le_of_lt h]
  · next h => simp [Nat.le_of_not_lt h]

theorem le_steps_of_excess?_eq_none (h : budget.excess? chance visit = none) :
    visit ≤ budget.steps := (excess?_eq_none_iff.1 h).1

theorem steps_lt_of_excess?_eq_steps {limit : Nat}
    (h : budget.excess? chance visit = some (.steps limit)) : budget.steps < visit := by
  by_contra hnot
  rw [excess?, if_neg hnot] at h
  split at h <;> cases h

end Budget

/-! ## Running -/

/-- The requests that a run makes, the first one first. A visit that exceeds the budget and
a call that fails are among them. -/
def Evaluation.trace (env : Environment σ) (budget : Budget) (chance : Chance) :
    Evaluation α → Turn σ → List Request
  | .done _, _ | .fail _, _ => []
  | .request r next, turn =>
    r :: match env.serve budget chance turn r with
      | (.ok answer, turn) => (next answer).trace env budget chance turn
      | (.error _, _) => []

def Request.visits : Request → Nat
  | .visit _ => 1
  | _ => 0

theorem Request.visits_le_one (r : Request) : r.visits ≤ 1 := by
  cases r with
  | visit d => exact Nat.le_refl 1
  | steps | choice bound | categoryCount | now | call c => exact Nat.zero_le 1

def Request.totalVisits : List Request → Nat
  | [] => 0
  | r :: rest => r.visits + totalVisits rest

/-- The answer gives no template but those of one kind. -/
def Request.Gives (template : Document → Prop) : (r : Request) → r.Answer → Prop
  | .call (.select ..), (answer : Option Selection) =>
    ∀ selection ∈ answer, template selection.template
  | _, _ => True

theorem Request.Gives.mono {kind kind' : Document → Prop} {r : Request} {answer : r.Answer}
    (h : r.Gives kind answer) (hkind : ∀ ns, kind ns → kind' ns) : r.Gives kind' answer := by
  cases r with
  | visit d | steps | choice bound | categoryCount | now => trivial
  | call c =>
    cases c with
    | predicate | setPredicate | history | pushHistory => trivial
    | select => exact fun selection hselection => hkind _ (h selection hselection)

def Environment.CanGive (env : Environment σ) (ns : Document) : Prop :=
  ∃ (input that topic : Text) (state : σ) (selection : Selection),
    (env.answer (.select input that topic) state).1 = .ok (some selection) ∧
      selection.template = ns

section Run

variable (env : Environment σ) (budget : Budget) (chance : Chance)

theorem steps_serve (turn : Turn σ) (r : Request) :
    (env.serve budget chance turn r).2.steps = turn.steps + r.visits := by
  cases r with
  | call c =>
    simp only [Environment.serve]
    rcases env.call c turn.world with ⟨e | answer, world⟩ <;> rfl
  | visit d => rfl
  | steps => rfl
  | choice bound => rfl
  | categoryCount => rfl
  | now => rfl

/-- A request changes the world by its call only. -/
theorem serve_world (turn : Turn σ) (r : Request) :
    (env.serve budget chance turn r).2.world =
      match r with
      | .call c => (env.call c turn.world).2
      | _ => turn.world := by
  cases r with
  | call c =>
    simp only [Environment.serve]
    rcases env.call c turn.world with ⟨error | answer, world⟩ <;> rfl
  | visit d | steps | choice bound | categoryCount | now => rfl

/-- What holds of the world, and after the call if the request is one, holds when it is served. -/
theorem holds_serve {P : World σ → Prop} {turn : Turn σ} {r : Request}
    (hcall : ∀ c, r = .call c → P (env.call c turn.world).2) (hturn : P turn.world) :
    P (env.serve budget chance turn r).2.world := by
  rw [serve_world]
  cases r with
  | call c => exact hcall c rfl
  | visit d | steps | choice bound | categoryCount | now => exact hturn

variable {env budget chance} in
/-- A request gives only templates that the matcher can give. -/
theorem gives_of_serve {turn turn' : Turn σ} {r : Request} {answer : r.Answer}
    (h : env.serve budget chance turn r = (.ok answer, turn')) : r.Gives env.CanGive answer := by
  cases r with
  | visit d | steps | choice bound | categoryCount | now => trivial
  | call c =>
    cases c with
    | predicate | setPredicate | history | pushHistory => trivial
    | select input that topic =>
      intro selection hselection
      refine ⟨input, that, topic, turn.world.state, selection, ?_, rfl⟩
      simp only [Environment.serve, Environment.call] at h
      rcases henv : env.answer (.select input that topic) turn.world.state with
        ⟨error | given, state⟩
      · rw [henv] at h
        cases h
      · rw [henv] at h
        cases h
        exact congrArg Except.ok hselection

/-- The steps of a run are the visits in its trace. -/
theorem steps_run (e : Evaluation α) (turn : Turn σ) :
    (e.run env budget chance turn).2.steps =
      turn.steps + Request.totalVisits (e.trace env budget chance turn) := by
  induction e generalizing turn with
  | done a => rfl
  | fail error => rfl
  | request r next ih =>
    have hserve := steps_serve env budget chance turn r
    rw [Evaluation.run, Evaluation.trace, Request.totalVisits, ← Nat.add_assoc, ← hserve]
    rcases env.serve budget chance turn r with ⟨error | answer, turn⟩
    · rfl
    · exact ih answer turn

/-- A confined run makes confined requests only. -/
theorem Evaluation.Confined.mem_trace {session : SessionId} {depth : Nat} {e : Evaluation α}
    (h : Evaluation.Confined session depth e) {turn : Turn σ} {r : Request}
    (hr : r ∈ e.trace env budget chance turn) : r.Confined session depth := by
  induction h generalizing turn with
  | done a => cases hr
  | @request q next hq _ ih =>
    rw [Evaluation.trace] at hr
    rcases List.mem_cons.1 hr with rfl | hrest
    · exact hq
    · rcases hs : env.serve budget chance turn q with ⟨error | answer, turn'⟩
      · rw [hs] at hrest
        cases hrest
      · rw [hs] at hrest
        exact ih answer hrest

/-- A request fails for the budget only at a visit that is beyond it. -/
theorem excess?_of_serve {turn turn' : Turn σ} {r : Request} {excess : Excess}
    (h : env.serve budget chance turn r = (.error (.budget excess), turn')) :
    budget.excess? chance turn'.steps = some excess := by
  cases r with
  | visit d =>
    rw [Environment.serve] at h
    cases hexcess : budget.excess? chance (turn.steps + 1) with
    | none =>
      rw [hexcess] at h
      cases h
    | some found =>
      rw [hexcess] at h
      cases h
      exact hexcess
  | call c =>
    rw [Environment.serve] at h
    split at h <;> cases h
  | steps | choice bound | categoryCount | now => cases h

/-- The steps stay within the budget as long as requests are answered. -/
theorem steps_le_of_serve {turn turn' : Turn σ} {r : Request} {answer : r.Answer}
    (hturn : turn.steps ≤ budget.steps)
    (h : env.serve budget chance turn r = (.ok answer, turn')) : turn'.steps ≤ budget.steps := by
  have hsteps := steps_serve env budget chance turn r
  rw [h] at hsteps
  rw [hsteps]
  cases r with
  | visit d =>
    rw [Environment.serve] at h
    cases hexcess : budget.excess? chance (turn.steps + 1) with
    | none => exact Budget.le_steps_of_excess?_eq_none hexcess
    | some excess =>
      rw [hexcess] at h
      cases h
  | steps | choice bound | categoryCount | now | call c => exact hturn

/-- **A confined run that fails for the budget** ends with the visit that is beyond it. -/
theorem Evaluation.Confined.excess?_of_budget {session : SessionId} {depth : Nat}
    {e : Evaluation α} (h : Evaluation.Confined session depth e) {turn : Turn σ}
    {excess : Excess} (hexcess : (e.run env budget chance turn).1 = .error (.budget excess)) :
    budget.excess? chance (e.run env budget chance turn).2.steps = some excess := by
  induction h generalizing turn with
  | done a => cases hexcess
  | @request r next _ _ ih =>
    rw [Evaluation.run] at hexcess ⊢
    rcases hs : env.serve budget chance turn r with ⟨error | answer, turn'⟩
    · rw [hs] at hexcess
      cases hexcess
      exact excess?_of_serve env budget chance hs
    · rw [hs] at hexcess
      exact ih answer hexcess

/-- A run that starts within the budget of steps makes at most one visit more than it allows. -/
theorem steps_run_le (e : Evaluation α) {turn : Turn σ} (hturn : turn.steps ≤ budget.steps) :
    (e.run env budget chance turn).2.steps ≤ budget.steps + 1 := by
  induction e generalizing turn with
  | done a => exact Nat.le_succ_of_le hturn
  | fail error => exact Nat.le_succ_of_le hturn
  | request r next ih =>
    have hserve := steps_serve env budget chance turn r
    rw [Evaluation.run]
    rcases hs : env.serve budget chance turn r with ⟨error | answer, turn'⟩
    · rw [hs] at hserve
      calc
        _ = turn.steps + r.visits := hserve
        _ ≤ budget.steps + 1 := Nat.add_le_add hturn r.visits_le_one
    · exact ih answer (steps_le_of_serve env budget chance hturn hs)

/-- A confined run that exceeds the budget of steps ends with the first visit too many. -/
theorem Evaluation.Confined.steps_of_budget {session : SessionId} {depth : Nat}
    {e : Evaluation α} (h : Evaluation.Confined session depth e) {turn : Turn σ} {b : Nat}
    (hturn : turn.steps ≤ budget.steps)
    (hb : (e.run env budget chance turn).1 = .error (.budget (.steps b))) :
    (e.run env budget chance turn).2.steps = budget.steps + 1 := by
  have hbeyond := Budget.steps_lt_of_excess?_eq_steps (h.excess?_of_budget env budget chance hb)
  exact Nat.le_antisymm (steps_run_le env budget chance e hturn) hbeyond

end Run

end Dialogue
