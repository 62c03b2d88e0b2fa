import Dialogue.Evaluation.Basic
import Dialogue.Settings.Basic

/-!
# Running an evaluation

An environment says how calls are answered, given a state of which nothing else is known. What
nobody decides is left to chance: how the random choices of a turn fall, when its visits take
place, and what the clock shows. A run holds every visit against the budget of the turn, in steps
and in time, and records every call.
-/

namespace Dialogue

/-- What is around an evaluation: the session and the matcher, whose state is a `σ`. -/
structure Environment (σ : Type) where
  /-- Answers a call, or says why it fails. -/
  answer : (c : Call) → σ → Except CallError c.Answer × σ
  /-- The number of categories that the matcher knows. -/
  categoryCount : σ → Nat

/-- Random choices. The next one, among one more things than the bound, may depend on how many
there were to choose from before; these bounds are listed with the latest first. -/
abbrev Choices : Type := List Nat → (bound : Nat) → Fin (bound + 1)

structure Clock where
  /-- How long the turn has lasted at each of its visits, which are counted from 1. -/
  elapsed : Nat → Duration
  /-- The moment at each reading. -/
  now : Nat → Moment
deriving Inhabited

/-- What one turn leaves to chance. -/
structure Chance extends Clock where
  choice : Choices
deriving Inhabited

/-- What is beyond the budget at the given visit of a turn, if anything. -/
def Budget.excess? (budget : Budget) (chance : Chance) (visit : Nat) : Option Excess :=
  if budget.steps < visit then some (.steps budget.steps)
  else if budget.time < chance.elapsed visit then
    some (.time (chance.elapsed visit).toMillis budget.time.toMillis)
  else none

/-- The state of the environment, the calls made so far, the latest first, and the number of
turns begun so far. -/
structure World (σ : Type) where
  state : σ
  calls : List Event
  turns : Nat

def World.fresh {σ : Type} (state : σ) : World σ := ⟨state, [], 0⟩

/-- One answer in the making: the visits so far, the bounds of the random choices, the latest
first, the readings of the clock, and the world. -/
structure Turn (σ : Type) where
  steps : Nat
  draws : List Nat
  readings : Nat
  world : World σ

def Turn.start {σ : Type} (world : World σ) : Turn σ :=
  ⟨0, [], 0, { world with turns := world.turns + 1 }⟩

/-- Makes a call and records it. -/
def Environment.call {σ : Type} (env : Environment σ) (c : Call) (world : World σ) :
    Except CallError c.Answer × World σ :=
  match env.answer c world.state with
  | (.ok answer, state) =>
    (.ok answer, { world with state := state, calls := ⟨c, none⟩ :: world.calls })
  | (.error e, state) =>
    (.error e, { world with state := state, calls := ⟨c, some e⟩ :: world.calls })

/-- A call is recorded, whether it fails or not, and changes nothing else but the state. -/
theorem Environment.call_snd {σ : Type} (env : Environment σ) (c : Call) (world : World σ) :
    ∃ failure, (env.call c world).2 =
      ⟨(env.answer c world.state).2, ⟨c, failure⟩ :: world.calls, world.turns⟩ := by
  rw [Environment.call]
  rcases env.answer c world.state with ⟨error | answer, state⟩
  · exact ⟨some error, rfl⟩
  · exact ⟨none, rfl⟩

/-- Serves a request. The visit that exceeds the budget is counted all the same. -/
def Environment.serve {σ : Type} (env : Environment σ) (budget : Budget) (chance : Chance)
    (turn : Turn σ) : (r : Request) → Except EvalError r.Answer × Turn σ
  | .visit _ =>
    (match budget.excess? chance (turn.steps + 1) with
      | none => .ok ()
      | some excess => .error (.budget excess),
      { turn with steps := turn.steps + 1 })
  | .steps => (.ok turn.steps, turn)
  | .choice bound =>
    (.ok (chance.choice turn.draws bound), { turn with draws := bound :: turn.draws })
  | .categoryCount => (.ok (env.categoryCount turn.world.state), turn)
  | .now => (.ok (chance.now turn.readings), { turn with readings := turn.readings + 1 })
  | .call c =>
    match env.call c turn.world with
    | (.ok answer, world) => (.ok answer, { turn with world })
    | (.error e, world) => (.error (.call e), { turn with world })

def Evaluation.run {σ α : Type} (env : Environment σ) (budget : Budget) (chance : Chance) :
    Evaluation α → Turn σ → Except EvalError α × Turn σ
  | .done a, turn => (.ok a, turn)
  | .fail e, turn => (.error e, turn)
  | .request r next, turn =>
    match env.serve budget chance turn r with
    | (.ok answer, turn) => (next answer).run env budget chance turn
    | (.error e, turn) => (.error e, turn)

/-- The same turn after `j` visits more. -/
def Turn.later {σ : Type} (turn : Turn σ) (j : Nat) : Turn σ :=
  { turn with steps := turn.steps + j }

theorem Turn.later_later {σ : Type} (turn : Turn σ) (i j : Nat) :
    (turn.later i).later j = turn.later (i + j) := by
  simp only [later, Nat.add_assoc]

/-- A visit takes place where the budget allows for one more. -/
theorem Evaluation.run_visit {σ α : Type} (env : Environment σ) (budget : Budget)
    (chance : Chance) (turn : Turn σ) (depth : Nat)
    (next : (Request.visit depth).Answer → Evaluation α) :
    (Evaluation.request (.visit depth) next).run env budget chance turn =
      match budget.excess? chance (turn.steps + 1) with
      | none => (next ()).run env budget chance (turn.later 1)
      | some excess => (.error (.budget excess), turn.later 1) := by
  simp only [run, Environment.serve]
  cases budget.excess? chance (turn.steps + 1) <;> rfl

theorem Evaluation.run_visit_within {σ α : Type} (env : Environment σ) {budget : Budget}
    {chance : Chance} {turn : Turn σ} (h : budget.excess? chance (turn.steps + 1) = none)
    (depth : Nat) (next : (Request.visit depth).Answer → Evaluation α) :
    (Evaluation.request (.visit depth) next).run env budget chance turn =
      (next ()).run env budget chance (turn.later 1) := by
  rw [run_visit, h]

theorem Evaluation.run_visit_beyond {σ α : Type} (env : Environment σ) {budget : Budget}
    {chance : Chance} {turn : Turn σ} {excess : Excess}
    (h : budget.excess? chance (turn.steps + 1) = some excess) (depth : Nat)
    (next : (Request.visit depth).Answer → Evaluation α) :
    (Evaluation.request (.visit depth) next).run env budget chance turn =
      (.error (.budget excess), turn.later 1) := by
  rw [run_visit, h]

/-- A run of two evaluations in sequence is the run of the first and, if that gives a value,
the run of the second from where the first ended. -/
theorem Evaluation.run_bind {σ α β : Type} (env : Environment σ) (budget : Budget)
    (chance : Chance) (e : Evaluation α) (f : α → Evaluation β) (turn : Turn σ) :
    (e >>= f).run env budget chance turn =
      match e.run env budget chance turn with
      | (.ok a, turn) => (f a).run env budget chance turn
      | (.error error, turn) => (.error error, turn) := by
  induction e generalizing turn with
  | done a => rfl
  | fail error => rfl
  | request r next ih =>
    simp only [request_bind, run]
    cases env.serve budget chance turn r with
    | mk outcome turn =>
      cases outcome with
      | ok answer => exact ih answer turn
      | error error => rfl

/-- A sequence that gives a value does so in two parts. -/
theorem Evaluation.exists_run_of_bind {σ α β : Type} {env : Environment σ} {budget : Budget}
    {chance : Chance} {e : Evaluation α} {f : α → Evaluation β} {turn : Turn σ} {b : β}
    (h : ((e >>= f).run env budget chance turn).1 = .ok b) :
    ∃ (a : α) (later : Turn σ), e.run env budget chance turn = (.ok a, later) ∧
      ((f a).run env budget chance later).1 = .ok b := by
  rw [run_bind] at h
  rcases hfirst : e.run env budget chance turn with ⟨error | a, later⟩
  · rw [hfirst] at h
    cases h
  · rw [hfirst] at h
    exact ⟨a, later, rfl, h⟩

theorem Evaluation.run_map {σ α β : Type} (env : Environment σ) (budget : Budget)
    (chance : Chance) (e : Evaluation α) (g : α → β) (turn : Turn σ) :
    (e >>= fun a => .done (g a)).run env budget chance turn =
      ((e.run env budget chance turn).1.map g, (e.run env budget chance turn).2) := by
  rw [run_bind]
  rcases e.run env budget chance turn with ⟨error | a, turn⟩ <;> rfl

end Dialogue
