import Dialogue.Proofs.Budget

/-!
# The first failure ends a rendering

A run stops at the first request that fails: a call that the session or the matcher refuses, or
a visit that exceeds the budget. With the standard tags nothing else ends it early. The only
error that is ever caught is that of a self-query that nests too deep, and it is caught where it
arises (`run_srai`); so a rendering fails with exactly the error of its last request
(`render_first_failure`), and where no call fails, it fails for its budget only
(`render_failures`).
-/

namespace Dialogue

open Evaluation Markup

variable {α σ : Type}

/-- A request that was made, and the error with which it failed if it did. -/
structure Attempt where
  request : Request
  failure : Option EvalError
deriving DecidableEq, Repr

def Attempt.event? : Attempt → Option Event
  | ⟨.call c, none⟩ => some ⟨c, none⟩
  | ⟨.call c, some (.call e)⟩ => some ⟨c, some e⟩
  | _ => none

/-- What a run asks for and what becomes of it, the first request first. -/
def Evaluation.attempts (env : Environment σ) (budget : Budget) (chance : Chance) :
    Evaluation α → Turn σ → List Attempt
  | .done _, _ | .fail _, _ => []
  | .request r next, turn =>
    match env.serve budget chance turn r with
    | (.ok answer, turn) => ⟨r, none⟩ :: (next answer).attempts env budget chance turn
    | (.error error, _) => [⟨r, some error⟩]

/-- The ways in which a request can fail, and the error that it then has. -/
inductive Request.FailsWith (env : Environment σ) (budget : Budget) (chance : Chance) :
    Request → EvalError → Prop
  /-- The visit is one too many or comes too late. -/
  | visit (depth : Nat) {visit : Nat} {excess : Excess} :
      budget.excess? chance visit = some excess →
      FailsWith env budget chance (.visit depth) (.budget excess)
  /-- The session or the matcher refuses the call. -/
  | call {c : Call} {state : σ} {error : CallError} : (env.answer c state).1 = .error error →
      FailsWith env budget chance (.call c) (.call error)

section Run

variable (env : Environment σ) (budget : Budget) (chance : Chance)

theorem failsWith_of_serve {turn turn' : Turn σ} {r : Request} {error : EvalError}
    (h : env.serve budget chance turn r = (.error error, turn')) :
    r.FailsWith env budget chance error := by
  cases r with
  | visit d =>
    rw [Environment.serve] at h
    cases hexcess : budget.excess? chance (turn.steps + 1) with
    | none =>
      rw [hexcess] at h
      cases h
    | some excess =>
      rw [hexcess] at h
      cases h
      exact .visit d hexcess
  | call c =>
    simp only [Environment.serve, Environment.call] at h
    rcases hanswer : env.answer c turn.world.state with ⟨error' | answer, state⟩
    · rw [hanswer] at h
      cases h
      exact .call (congrArg Prod.fst hanswer)
    · rw [hanswer] at h
      cases h
  | steps | choice bound | categoryCount | now => cases h

/-! ## Catching -/

def caught (a : α) : Except EvalError α → Except EvalError α
  | .error (.recursionLimit _ _) => .ok a
  | outcome => outcome

/-- To catch in an evaluation is to catch in its run: no request fails with the error that is
caught. -/
theorem run_orIfTooDeep (e : Evaluation α) (a : α) (turn : Turn σ) :
    (e.orIfTooDeep a).run env budget chance turn =
      (caught a (e.run env budget chance turn).1, (e.run env budget chance turn).2) := by
  induction e generalizing turn with
  | done b => rfl
  | fail error => cases error <;> rfl
  | request r next ih =>
    rw [orIfTooDeep, Evaluation.run, Evaluation.run]
    rcases hserve : env.serve budget chance turn r with ⟨error | answer, turn'⟩
    · cases failsWith_of_serve env budget chance hserve <;> rfl
    · exact ih answer turn'

/-- The self-query swallows the depth limit only. Any other error of its content or of the
query is its own. -/
theorem run_srai (i : Invocation) (turn : Turn σ) :
    (Tags.srai.process i).run env budget chance turn =
      match i.content.run env budget chance turn with
      | (.ok text, turn) =>
        (caught i.settings.recursionFallback ((i.selfQuery text).run env budget chance turn).1,
          ((i.selfQuery text).run env budget chance turn).2)
      | (.error error, turn) => (.error error, turn) := by
  have hrun := run_bind env budget chance i.content
    (fun text => (i.selfQuery text).orIfTooDeep i.settings.recursionFallback) turn
  simp only [run_orIfTooDeep] at hrun
  refine Eq.trans hrun ?_
  rcases i.content.run env budget chance turn with ⟨error | text, turn'⟩ <;> rfl

/-! ## Stopping -/

/-- **A request that fails is the last one**, and its error is the outcome of the run. -/
theorem attempts_failure (e : Evaluation α) (turn : Turn σ) {earlier later : List Attempt}
    {r : Request} {error : EvalError}
    (h : e.attempts env budget chance turn = earlier ++ ⟨r, some error⟩ :: later) :
    (e.run env budget chance turn).1 = .error error ∧ later = [] ∧
      r.FailsWith env budget chance error := by
  induction e generalizing turn earlier with
  | done a => simp [attempts] at h
  | fail error => simp [attempts] at h
  | request q next ih =>
    rw [attempts] at h
    rw [Evaluation.run]
    rcases hserve : env.serve budget chance turn q with ⟨error' | answer, turn'⟩
    · rw [hserve] at h
      cases earlier with
      | nil =>
        cases h
        exact ⟨rfl, rfl, failsWith_of_serve env budget chance hserve⟩
      | cons a earlier => simp at h
    · rw [hserve] at h
      cases earlier with
      | nil => cases h
      | cons a earlier => exact ih answer turn' (List.cons.inj h).2

/-- An evaluation that never gives up by itself ends in an error only where a request fails. -/
theorem Evaluation.Confined.attempts_of_error {session : SessionId} {depth : Nat}
    {e : Evaluation α} (he : e.Confined session depth) {turn : Turn σ} {error : EvalError}
    (h : (e.run env budget chance turn).1 = .error error) :
    ∃ earlier r, e.attempts env budget chance turn = earlier ++ [⟨r, some error⟩] := by
  induction he generalizing turn with
  | done a => cases h
  | @request q next _ _ ih =>
    rw [Evaluation.run] at h
    rw [attempts]
    rcases hserve : env.serve budget chance turn q with ⟨error' | answer, turn'⟩
    · rw [hserve] at h
      cases h
      exact ⟨[], q, rfl⟩
    · rw [hserve] at h
      obtain ⟨earlier, r, hattempts⟩ := ih answer h
      exact ⟨⟨q, none⟩ :: earlier, r, congrArg (⟨q, none⟩ :: ·) hattempts⟩

theorem calls_serve (turn : Turn σ) (r : Request) :
    (env.serve budget chance turn r).2.calls = turn.calls ++
      match (env.serve budget chance turn r).1 with
      | .ok _ => [⟨r, none⟩].filterMap Attempt.event?
      | .error error => [⟨r, some error⟩].filterMap Attempt.event? := by
  cases r with
  | visit d =>
    simp only [Environment.serve]
    split <;> exact (List.append_nil _).symm
  | call c =>
    simp only [Environment.serve, Environment.call]
    rcases env.answer c turn.world.state with ⟨error | answer, state⟩ <;>
      exact List.reverse_cons
  | steps | choice bound | categoryCount | now => exact (List.append_nil _).symm

/-- The calls that a run records are those that it attempts. -/
theorem calls_run (e : Evaluation α) (turn : Turn σ) :
    (e.run env budget chance turn).2.calls =
      turn.calls ++ (e.attempts env budget chance turn).filterMap Attempt.event? := by
  induction e generalizing turn with
  | done a => exact (List.append_nil _).symm
  | fail error => exact (List.append_nil _).symm
  | request r next ih =>
    have hcalls := calls_serve env budget chance turn r
    rw [Evaluation.run, attempts]
    rcases hserve : env.serve budget chance turn r with ⟨error | answer, turn'⟩
    · rw [hserve] at hcalls
      exact hcalls
    · rw [hserve] at hcalls
      dsimp only at hcalls ⊢
      rw [ih, hcalls, List.append_assoc, ← List.filterMap_append, List.singleton_append]

end Run

/-! ## Renderings -/

/-- **The first failure wins and stops everything.** If a request of a rendering fails, nothing
is asked for after it, and the rendering fails with the same error: that of the call if it is a
call, and that of the budget if it is a visit. A rendering that fails does so in no other way. -/
theorem render_first_failure (s : Settings) (env : Environment σ) (fortune : Fortune)
    (session : SessionId) (stars : Stars) (template : Document) (state : σ) :
    let bot : Bot σ := ⟨.standard s, env, fortune⟩
    let rendering := bot.evaluator.render session stars template
    let chance := bot.chance 1
    let run := bot.run rendering (.start (.fresh state))
    let attempts := rendering.attempts env s.budget chance (.start (.fresh state))
    (∀ earlier r error later, attempts = earlier ++ ⟨r, some error⟩ :: later →
      run.1 = .error error ∧ later = [] ∧ r.FailsWith env s.budget chance error) ∧
    (∀ error, run.1 = .error error → ∃ earlier r, attempts = earlier ++ [⟨r, some error⟩]) ∧
    run.2.calls = attempts.filterMap Attempt.event? := by
  intro bot rendering chance run attempts
  have hconfined : rendering.Confined session s.maxRecursionDepth :=
    confined_render s session stars template
  refine ⟨fun earlier r error later h => ?_, fun error h => ?_, ?_⟩
  · exact attempts_failure env s.budget chance rendering _ h
  · exact hconfined.attempts_of_error env s.budget chance h
  · exact calls_run env s.budget chance rendering _

/-- A category that remembers something while it says nothing. -/
def noteQuietly : Category :=
  { pattern := [.wildcard .star]
    that := [.wildcard .star]
    topic := [.wildcard .star]
    template := [.element (.bare "think".toList)
      [.element (Legacy.named "set".toList "met".toList) [.text "yes".toList]]] }

def readOnly (categories : CategoryList) : Environment SessionStore where
  answer
    | .setPredicate .., store => (.error (.session (.storage "full".toList)), store)
    | c, store => SessionStore.answer categories.select? c store
  categoryCount _ := categories.length

/-- The predicate is set inside two tags of the template that a self-query finds. That fails, so
the predicate that stands behind the self-query is not read. -/
theorem render_first_failure_readOnly :
    let bot : Bot SessionStore := ⟨.standard {}, readOnly [noteQuietly], default⟩
    let template : Document := [.element (.bare "srai".toList) [.text "hello".toList],
      .selfClosing (Legacy.named "get".toList "met".toList)]
    let run := bot.run (bot.evaluator.render [] .none template) (.start (.fresh (.empty 32)))
    run.1 = .error (.call (.session (.storage "full".toList))) ∧
      run.2.calls = [⟨.history [] .that 1, none⟩, ⟨.predicate [] "topic".toList, none⟩,
        ⟨.select "HELLO".toList ['*'] ['*'], none⟩,
        ⟨.setPredicate [] "met".toList "yes".toList,
          some (.session (.storage "full".toList))⟩] := by
  intro bot template run
  have hattempts : (bot.evaluator.render [] .none template).attempts bot.environment
      (Settings.budget {}) (bot.chance 1) (.start (.fresh (.empty 32))) =
      [⟨.visit 0, none⟩, ⟨.visit 0, none⟩, ⟨.call (.history [] .that 1), none⟩,
        ⟨.call (.predicate [] "topic".toList), none⟩,
        ⟨.call (.select "HELLO".toList ['*'] ['*']), none⟩, ⟨.visit 1, none⟩, ⟨.visit 1, none⟩,
        ⟨.visit 1, none⟩] ++ [⟨.call (.setPredicate [] "met".toList "yes".toList),
          some (.call (.session (.storage "full".toList)))⟩] := by
    decide +kernel
  obtain ⟨hfirst, -, hcalls⟩ := render_first_failure {} (readOnly [noteQuietly]) default []
    .none template (.empty 32)
  obtain ⟨herror, -, -⟩ := hfirst _ _ _ _ hattempts
  refine ⟨herror, hcalls.trans ?_⟩
  rw [hattempts]
  rfl

/-- No call fails in memory. -/
theorem answer_inMemory_ne_error (categories : CategoryList) (c : Call) (store : SessionStore)
    (error : CallError) : ((Environment.inMemory categories).answer c store).1 ≠ .error error := by
  cases c <;> nofun

theorem failsWith_of_render (s : Settings) (env : Environment σ) (fortune : Fortune)
    (session : SessionId) (stars : Stars) (template : Document) (world : World σ)
    {error : EvalError}
    (h : ((⟨.standard s, env, fortune⟩ : Bot σ).render session stars template world).1 =
      .error error) :
    ∃ r : Request, r.FailsWith env s.budget (fortune.chance s.randomSeed (world.turns + 1))
      error := by
  have hconfined := confined_render s session stars template
  obtain ⟨earlier, r, hattempts⟩ := hconfined.attempts_of_error env s.budget _ h
  exact ⟨r, (attempts_failure env s.budget _ _ _ hattempts).2.2⟩

/-- **A rendering fails for its budget or with the error of a call.** It never fails because a
self-query nests too deep, because a tag has no expansion or because a handler gives up; and in
memory it fails for its budget only. -/
theorem render_failures (s : Settings) (env : Environment σ) (fortune : Fortune)
    (session : SessionId) (stars : Stars) (template : Document) (world : World σ)
    (categories : CategoryList) (store : World SessionStore) :
    let bot : Bot σ := ⟨.standard s, env, fortune⟩
    let inMemory : Bot SessionStore := ⟨.standard s, .inMemory categories, fortune⟩
    let exhausted (turn : Nat) (error : EvalError) : Prop := ∃ visit excess,
      s.budget.excess? (bot.chance turn) visit = some excess ∧ error = .budget excess
    (∀ error, (bot.render session stars template world).1 = .error error →
      exhausted (world.turns + 1) error ∨ ∃ e, error = .call e) ∧
    ∀ error, (inMemory.render session stars template store).1 = .error error →
      exhausted (store.turns + 1) error := by
  intro bot inMemory exhausted
  constructor
  · intro error h
    obtain ⟨r, hr⟩ := failsWith_of_render s env fortune session stars template world h
    cases hr with
    | visit depth hexcess => exact .inl ⟨_, _, hexcess, rfl⟩
    | call _ => exact .inr ⟨_, rfl⟩
  · intro error h
    obtain ⟨r, hr⟩ := failsWith_of_render s _ fortune session stars template store h
    cases hr with
    | visit depth hexcess => exact ⟨_, _, hexcess, rfl⟩
    | call hanswer => exact absurd hanswer (answer_inMemory_ne_error categories _ _ _)

end Dialogue
