import Dialogue.Proofs.Evaluation.Confined
import Dialogue.Session.Environment

/-!
# A larger budget

The budget of steps decides where a run stops and nothing else. What a template asks for does not
depend on it (`render_budget_eq`), and two runs of one evaluation with different budgets go
hand in hand until the smaller one is exceeded (`run_larger_budget`). So a run that ends in
another way is the same with every larger budget, and one that exceeds its budget made the
calls with which the other run begins (`render_larger_budget`).
-/

namespace Dialogue

open Evaluation Markup

variable {α σ : Type}

/-! ## The evaluation does not depend on the budget -/

/-- Being the same evaluation, as a simulation that does not count visits. -/
def Simulation.same (session : SessionId) : Simulation where
  session := session
  depths d d' := d = d'
  template _ := True
  writable _ _ := True
  visitCost := 0
  rel _ e e' := e = e'
  done _ := rfl
  weaken _ h := h
  bind h hf := by rw [h, funext hf]
  orIfTooDeep t h := by rw [h]
  visit h := by rw [h]
  ask _ _ := rfl
  select input that topic hf := by rw [funext fun answer => hf answer fun _ _ => trivial]

/-- The number of steps allowed is nothing that a template can find out. -/
theorem render_budget_eq (s : Settings) (m n depth : Nat) (session : SessionId) (stars : Stars)
    (template : Document) :
    (Evaluator.standard (s.withLimits m depth)).render session stars template =
      (Evaluator.standard (s.withLimits n depth)).render session stars template := by
  have hpermits := (Simulation.same session).permits_of_writable (fun _ _ => trivial)
    (s.withLimits m depth)
  have hquery := @(Simulation.same session).rel_selfQuery (s.withLimits m depth) n depth
    (fun _ => 0) (fun _ _ _ => Nat.le_of_eq (Nat.zero_mul _)) (fun _ _ => hpermits _) depth
    (.top session stars) (.top session stars) rfl rfl fun _ _ => rfl
  have hscene : (Simulation.same session).Scene (s.withLimits m depth) 0 (.top session stars)
      (.top session stars) _ _ :=
    { session := rfl
      session' := rfl
      stars := rfl
      depths := rfl
      query := hquery }
  have hnodes := hscene.rel_nodes n depth (hpermits (Node.tagsAll template))
  rw [Settings.withLimits_withLimits] at hnodes
  exact congrArg (· >>= fun t => .done (Text.trim t)) hnodes

/-! ## Two runs of one evaluation -/

/-- The calls made in a turn and before it, the first one first. -/
def Turn.calls (turn : Turn σ) : List Event := turn.world.calls.reverse

section Run

variable (env : Environment σ) (chance : Chance)

theorem calls_prefix_serve (budget : Budget) (turn : Turn σ) (r : Request) :
    turn.calls <+: (env.serve budget chance turn r).2.calls := by
  cases r with
  | visit d | steps | choice bound | categoryCount | now => exact List.prefix_refl _
  | call c =>
    simp only [Environment.serve, Environment.call]
    rcases env.answer c turn.world.state with ⟨error | answer, state⟩
    · exact (List.reverse_cons ▸ List.prefix_append _ _ :)
    · exact (List.reverse_cons ▸ List.prefix_append _ _ :)

/-- A run takes no call back. -/
theorem calls_prefix_run (budget : Budget) (e : Evaluation α) (turn : Turn σ) :
    turn.calls <+: (e.run env budget chance turn).2.calls := by
  induction e generalizing turn with
  | done a => exact List.prefix_refl _
  | fail error => exact List.prefix_refl _
  | request r next ih =>
    have hserve := calls_prefix_serve env chance budget turn r
    rw [Evaluation.run]
    rcases hs : env.serve budget chance turn r with ⟨error | answer, turn'⟩
    · rw [hs] at hserve
      exact hserve
    · rw [hs] at hserve
      exact hserve.trans (ih answer turn')

theorem excess?_larger_budget {m n : Nat} (hmn : m ≤ n) (time : Duration) (visit : Nat) :
    Budget.excess? ⟨n, time⟩ chance visit = Budget.excess? ⟨m, time⟩ chance visit ∨
      Budget.excess? ⟨m, time⟩ chance visit = some (.steps m) := by
  by_cases hm : m < visit
  · exact .inr (if_pos hm)
  · have hn : ¬ n < visit := fun h => hm (Nat.lt_of_le_of_lt hmn h)
    simp only [Budget.excess?]
    rw [if_neg hm, if_neg hn]
    exact .inl rfl

/-- With a larger budget of steps a request is served the same, but for a visit that exceeds the
smaller budget. -/
theorem serve_larger_budget {m n : Nat} (hmn : m ≤ n) (time : Duration) (turn : Turn σ)
    (r : Request) :
    env.serve ⟨n, time⟩ chance turn r = env.serve ⟨m, time⟩ chance turn r ∨
      env.serve ⟨m, time⟩ chance turn r = (.error (.budget (.steps m)), turn.later 1) := by
  cases r with
  | visit d =>
    simp only [Environment.serve]
    rcases excess?_larger_budget chance hmn time (turn.steps + 1) with hsame | hstop
    · rw [hsame]
      exact .inl rfl
    · rw [hstop]
      exact .inr rfl
  | steps | choice bound | categoryCount | now | call c => exact .inl rfl

/-- **Two runs with different budgets of steps** are the same, or the one with the smaller budget
exceeds it and the other one goes on from the calls made so far. -/
theorem run_larger_budget {m n : Nat} (hmn : m ≤ n) (time : Duration) (e : Evaluation α)
    (turn : Turn σ) :
    e.run env ⟨n, time⟩ chance turn = e.run env ⟨m, time⟩ chance turn ∨
      (e.run env ⟨m, time⟩ chance turn).1 = .error (.budget (.steps m)) ∧
        (e.run env ⟨m, time⟩ chance turn).2.calls <+:
          (e.run env ⟨n, time⟩ chance turn).2.calls := by
  induction e generalizing turn with
  | done a => exact .inl rfl
  | fail error => exact .inl rfl
  | request r next ih =>
    rcases serve_larger_budget env chance hmn time turn r with hsame | hstop
    · rw [Evaluation.run, Evaluation.run, hsame]
      rcases env.serve ⟨m, time⟩ chance turn r with ⟨error | answer, turn'⟩
      · exact .inl rfl
      · exact ih answer turn'
    · refine .inr ?_
      have hcalls := calls_prefix_run env chance ⟨n, time⟩ (.request r next) turn
      rw [Evaluation.run, hstop]
      exact ⟨rfl, hcalls⟩

end Run

/-! ## Templates -/

/-- **A larger budget of steps changes nothing but where a run stops.** If a template does not
exceed the smaller budget, the run with the larger one is the same: the outcome, the steps and the
calls. If it does, it stops at the first step too many, with the calls with which the other run
begins. Both runs have the same clock, and with it the same visits that come too late, if any. -/
theorem render_larger_budget (s : Settings) (env : Environment σ) (fortune : Fortune)
    {m n : Nat} (hmn : m ≤ n) (depth : Nat) (session : SessionId) (stars : Stars)
    (template : Document) (state : σ) :
    let small : Bot σ := ⟨.standard (s.withLimits m depth), env, fortune⟩
    let large : Bot σ := ⟨.standard (s.withLimits n depth), env, fortune⟩
    let short := small.run (small.evaluator.render session stars template)
      (.start (.fresh state))
    let long := large.run (large.evaluator.render session stars template)
      (.start (.fresh state))
    ((∀ b, short.1 ≠ .error (.budget (.steps b))) → long = short) ∧
      ∀ b, short.1 = .error (.budget (.steps b)) →
        short.2.steps = m + 1 ∧ short.2.calls <+: long.2.calls := by
  intro small large short long
  have hconfined : (small.evaluator.render session stars template).Confined session depth :=
    confined_render (s.withLimits m depth) session stars template
  have heval : large.evaluator.render session stars template =
      small.evaluator.render session stars template :=
    render_budget_eq s n m depth session stars template
  have hlong : long = (small.evaluator.render session stars template).run env
      ⟨n, s.maxDuration⟩ (small.chance 1) (.start (.fresh state)) := by
    rw [← heval]
    rfl
  have hruns : long = short ∨
      short.1 = .error (.budget (.steps m)) ∧ short.2.calls <+: long.2.calls := by
    rw [hlong]
    exact run_larger_budget env (small.chance 1) hmn s.maxDuration _ _
  constructor
  · intro hshort
    rcases hruns with hsame | ⟨hstop, _⟩
    · exact hsame
    · exact absurd hstop (hshort m)
  · intro b hb
    have hsteps : short.2.steps = m + 1 :=
      hconfined.steps_of_budget env _ (small.chance 1) (Nat.zero_le m) hb
    refine ⟨hsteps, ?_⟩
    rcases hruns with hsame | ⟨_, hcalls⟩
    · exact hsame ▸ List.prefix_refl _
    · exact hcalls

def greet : Category :=
  { pattern := [.wildcard .star]
    that := [.wildcard .star]
    topic := [.wildcard .star]
    template := [.text "Hi".toList] }

/-- A question put to the bot itself costs three visits, the last one in the template of the
category. -/
theorem render_larger_budget_greet :
    let run (budget : Nat) : Except EvalError Text × Turn SessionStore :=
      let bot : Bot SessionStore := ⟨.standard (({} : Settings).withLimits budget 4),
        .inMemory [greet], default⟩
      bot.run (bot.evaluator.render [] .none
        [.element (.bare "srai".toList) [.text "hello".toList]]) (.start (.fresh (.empty 32)))
    (2 ≤ 3 ∧ (run 2).1 = .error (.budget (.steps 2)) ∧ (run 2).2.steps = 3 ∧
      (run 2).2.calls <+: (run 3).2.calls) ∧
    (3 ≤ 9 ∧ (run 3).1 = .ok "Hi".toList ∧ run 9 = run 3) := by
  intro run
  have hstop : (run 2).1 = .error (.budget (.steps 2)) := by decide +kernel
  have hvalue : (run 3).1 = .ok "Hi".toList := by decide +kernel
  have hshort := render_larger_budget {} (.inMemory [greet]) default
    (show 2 ≤ 3 by decide) 4 [] .none [.element (.bare "srai".toList) [.text "hello".toList]]
    (.empty 32)
  have hlong := render_larger_budget {} (.inMemory [greet]) default
    (show 3 ≤ 9 by decide) 4 [] .none [.element (.bare "srai".toList) [.text "hello".toList]]
    (.empty 32)
  have hbudget : ∀ b, (run 3).1 ≠ .error (.budget (.steps b)) := by
    intro b hb
    cases hvalue.symm.trans hb
  obtain ⟨hsteps, hcalls⟩ := hshort.2 2 hstop
  exact ⟨⟨by decide, hstop, hsteps, hcalls⟩, by decide, hvalue, hlong.1 hbudget⟩

end Dialogue
