import Dialogue.Proofs.Evaluation.Confined

/-!
# A self-query is a question one level deeper

Evaluating `<srai>` around a text is answering the text as if it were said to the bot, with
two visits and one level of nesting more (`render_srai`). The two evaluations are the same
but for the depths of their visits, and a run looks at the depth of a visit nowhere. The two
visits are to take no time: the clock is moved on by them (`Clock.after`).
-/

namespace Dialogue

open Evaluation Markup

variable {α β σ : Type}

/-- Evaluations that are the same but for the depths of their visits. They never give up by
themselves and never ask for the number of visits. -/
inductive Evaluation.SameButDepth : Evaluation α → Evaluation α → Prop
  | done (a : α) : SameButDepth (.done a) (.done a)
  | visit {d d' : Nat} {next : (Request.visit d).Answer → Evaluation α}
      {next' : (Request.visit d').Answer → Evaluation α} : SameButDepth (next ()) (next' ()) →
      SameButDepth (.request (.visit d) next) (.request (.visit d') next')
  | request {r : Request} {next next' : r.Answer → Evaluation α} : r ≠ .steps →
      (∀ answer, SameButDepth (next answer) (next' answer)) →
      SameButDepth (.request r next) (.request r next')

namespace Evaluation.SameButDepth

variable {e e' : Evaluation α}

theorem bind {f f' : α → Evaluation β} (h : SameButDepth e e')
    (hf : ∀ a, SameButDepth (f a) (f' a)) : SameButDepth (e >>= f) (e' >>= f') := by
  induction h with
  | done a => exact hf a
  | visit _ ih => exact .visit ih
  | request hr _ ih => exact .request hr ih

/-- Nothing is caught where nothing is given up. -/
theorem orIfTooDeep_eq (h : SameButDepth e e') (a : α) :
    e.orIfTooDeep a = e ∧ e'.orIfTooDeep a = e' := by
  induction h with
  | done b => exact ⟨rfl, rfl⟩
  | visit _ ih =>
    exact ⟨congrArg (Evaluation.request _) (funext fun _ => ih.1),
      congrArg (Evaluation.request _) (funext fun _ => ih.2)⟩
  | request _ _ ih =>
    exact ⟨congrArg (Evaluation.request _) (funext fun answer => (ih answer).1),
      congrArg (Evaluation.request _) (funext fun answer => (ih answer).2)⟩

end Evaluation.SameButDepth

/-- Being the same but for depths, as a simulation that does not count visits. -/
def Simulation.sameButDepth (session : SessionId) : Simulation where
  session := session
  depths _ _ := True
  template _ := True
  writable _ _ := True
  visitCost := 0
  rel _ e e' := SameButDepth e e'
  done := .done
  weaken _ h := h
  bind h hf := h.bind hf
  orIfTooDeep t h := by
    obtain ⟨he, he'⟩ := h.orIfTooDeep_eq t
    rw [he, he']
    exact h
  visit _ := .visit (.done ())
  ask hr _ := .request (by rintro rfl; cases hr) .done
  select input that topic hf := .request nofun fun answer => hf answer fun _ _ => trivial

/-! ## Later visits -/

def Budget.more (budget : Budget) (j : Nat) : Budget := { budget with steps := budget.steps + j }

/-- The same clock behind `j` visits that take no time. -/
def Clock.after (clock : Clock) (j : Nat) : Clock where
  elapsed visit := if visit ≤ j then .ofMillis 0 else clock.elapsed (visit - j)
  now := clock.now

def Chance.after (chance : Chance) (j : Nat) : Chance :=
  { chance with toClock := chance.toClock.after j }

def Fortune.after (fortune : Fortune) (j : Nat) : Fortune :=
  { fortune with clock := fun turn => (fortune.clock turn).after j }

theorem Duration.not_lt_zero (d : Duration) : ¬ d < .ofMillis 0 := by
  rintro (h | ⟨-, h⟩)
  · exact Nat.not_lt_zero _ h
  · exact Nat.not_lt_zero _ h

/-- The visits that come first are within the budget. -/
theorem excess?_after_of_le {budget : Budget} {j visit : Nat} (hsteps : visit ≤ budget.steps)
    (hvisit : visit ≤ j) (chance : Chance) : budget.excess? (chance.after j) visit = none := by
  have helapsed : (chance.after j).elapsed visit = .ofMillis 0 := if_pos hvisit
  refine Budget.excess?_eq_none_iff.2 ⟨hsteps, ?_⟩
  rw [helapsed]
  exact Duration.not_lt_zero _

/-- A visit is beyond the budget if and only if it is so after `j` visits more, with a budget and a
clock that allow for them. -/
theorem excess?_after (budget : Budget) (chance : Chance) (j visit : Nat) :
    (budget.excess? chance (visit + 1) = none ∧
        (budget.more j).excess? (chance.after j) (visit + j + 1) = none) ∨
      ∃ x y, budget.excess? chance (visit + 1) = some x ∧
        (budget.more j).excess? (chance.after j) (visit + j + 1) = some y := by
  have helapsed : (chance.after j).elapsed (visit + j + 1) = chance.elapsed (visit + 1) := by
    have hlater : ¬ visit + j + 1 ≤ j := by omega
    have hplace : visit + j + 1 - j = visit + 1 := by omega
    simp only [Chance.after, Clock.after, if_neg hlater, hplace]
  have hsteps : (budget.more j).steps < visit + j + 1 ↔ budget.steps < visit + 1 := by
    simp only [Budget.more]
    omega
  have htime : (budget.more j).time = budget.time := rfl
  simp only [Budget.excess?, helapsed, hsteps, htime]
  by_cases hmany : budget.steps < visit + 1
  · exact .inr ⟨_, _, if_pos hmany, if_pos hmany⟩
  · rw [if_neg hmany, if_neg hmany]
    by_cases hlate : budget.time < chance.elapsed (visit + 1)
    · exact .inr ⟨_, _, if_pos hlate, if_pos hlate⟩
    · exact .inl ⟨if_neg hlate, if_neg hlate⟩

/-! ## Running -/

/-- The same outcome: the same value, a budget exceeded on both sides, or the same error. -/
inductive SameOutcome : Except EvalError α → Except EvalError α → Prop
  | ok (a : α) : SameOutcome (.ok a) (.ok a)
  | budget (x y : Excess) : SameOutcome (.error (.budget x)) (.error (.budget y))
  | error (e : EvalError) : SameOutcome (.error e) (.error e)

section Run

variable (env : Environment σ) (budget : Budget) (j : Nat) (chance : Chance)

/-- A request other than the number of visits is served the same after `j` visits more, with a
budget and a clock that allow for them. -/
theorem serve_later (turn : Turn σ) {r : Request} (hr : r ≠ .steps) :
    SameOutcome (env.serve budget chance turn r).1
      (env.serve (budget.more j) (chance.after j) (turn.later j) r).1 ∧
    (env.serve (budget.more j) (chance.after j) (turn.later j) r).2 =
      (env.serve budget chance turn r).2.later j := by
  cases r with
  | steps => exact absurd rfl hr
  | visit d =>
    have hnext : turn.steps + j + 1 = turn.steps + 1 + j := Nat.add_right_comm _ _ _
    simp only [Environment.serve, Turn.later, hnext, and_true]
    rw [← hnext]
    rcases excess?_after budget chance j turn.steps with ⟨h, h'⟩ | ⟨x, y, h, h'⟩
    · rw [h, h']
      exact .ok ()
    · rw [h, h']
      exact .budget x y
  | choice bound => exact ⟨.ok _, rfl⟩
  | categoryCount => exact ⟨.ok _, rfl⟩
  | now => exact ⟨.ok _, rfl⟩
  | call c =>
    simp only [Environment.serve, Turn.later]
    rcases env.call c turn.world with ⟨answer | answer, world⟩
    · exact ⟨.error _, rfl⟩
    · exact ⟨.ok _, rfl⟩

/-- The second evaluation runs after `j` visits more as the first one does. -/
def Evaluation.RunsLater (e e' : Evaluation α) : Prop :=
  ∀ turn : Turn σ,
    SameOutcome (e.run env budget chance turn).1
      (e'.run env (budget.more j) (chance.after j) (turn.later j)).1 ∧
    (e'.run env (budget.more j) (chance.after j) (turn.later j)).2 =
      (e.run env budget chance turn).2.later j

theorem runsLater_request {r : Request} (hr : r ≠ .steps) {next next' : r.Answer → Evaluation α}
    (hnext : ∀ answer, RunsLater env budget j chance (next answer) (next' answer)) :
    RunsLater env budget j chance (.request r next) (.request r next') := by
  intro turn
  obtain ⟨ho, ht⟩ := serve_later env budget j chance turn hr
  rw [Evaluation.run, Evaluation.run]
  rcases hs : env.serve budget chance turn r with ⟨o, t⟩
  rcases hs' : env.serve (budget.more j) (chance.after j) (turn.later j) r with ⟨o', t'⟩
  rw [hs, hs'] at ho ht
  obtain rfl : t' = t.later j := ht
  cases ho with
  | ok answer => exact hnext answer t
  | budget x y => exact ⟨.budget x y, rfl⟩
  | error e => exact ⟨.error e, rfl⟩

/-- **A run looks at no depth**, and visits made before it count only against the budget. -/
theorem Evaluation.SameButDepth.runsLater {e e' : Evaluation α} (h : SameButDepth e e') :
    RunsLater env budget j chance e e' := by
  induction h with
  | done a => exact fun turn => ⟨.ok a, rfl⟩
  | @visit d d' next next' _ ih =>
    intro turn
    have hlater : (turn.later j).later 1 = (turn.later 1).later j := by
      rw [Turn.later_later, Turn.later_later, Nat.add_comm]
    rcases excess?_after budget chance j turn.steps with ⟨hwithin, hwithin'⟩ | ⟨x, y, hx, hy⟩
    · rw [run_visit_within env hwithin, run_visit_within env hwithin', hlater]
      exact ih (turn.later 1)
    · rw [run_visit_beyond env hx, run_visit_beyond env hy, hlater]
      exact ⟨.budget x y, rfl⟩
  | request hr _ ih => exact runsLater_request env budget j chance hr ih

end Run

/-! ## The tag -/

theorem node_srai (s : Settings) (c : Context) (query : Text → Evaluation Text)
    (attributes text : Text) :
    (Evaluator.standard s).node c query (.element ⟨"srai".toList, attributes⟩ [.text text]) =
      visit c >>= fun _ => visit c >>= fun _ =>
        (query text).orIfTooDeep s.recursionFallback := by
  have hh : standardHandler? (.element ⟨"srai".toList, attributes⟩ [.text text]) =
    some Tags.srai := rfl
  rw [node_of_handler hh, Node.children]
  have hcontent : (Evaluation.concat (((Evaluator.standard s).children c query
      [.text text]).map Child.visit)) = visit c >>= fun _ => .done text := by
    rw [Evaluator.map_visit_children]
    simp [Evaluation.concat, Evaluator.node]
  dsimp only [Tags.srai, Invocation.content]
  rw [hcontent]
  rfl

/-- What a template of one `<srai>` gives when its two nodes have been visited. -/
def Evaluator.asked (ev : Evaluator) (session : SessionId) (stars : Stars) (text : Text) :
    Evaluation Text :=
  (ev.query (.top session stars) text).orIfTooDeep ev.settings.recursionFallback >>= fun t =>
    .done (Text.trim t)

theorem render_srai_eq (s : Settings) (session : SessionId) (stars : Stars)
    (attributes text : Text) :
    (Evaluator.standard s).render session stars
        [.element ⟨"srai".toList, attributes⟩ [.text text]] =
      visit (.top session stars) >>= fun _ => visit (.top session stars) >>= fun _ =>
        (Evaluator.standard s).asked session stars text := by
  rw [Evaluator.render, Evaluator.evaluate, Evaluator.nodes, List.map_singleton, node_srai]
  simp only [Evaluation.concat, Evaluation.bind_assoc, pure_eq, done_bind, List.append_nil]
  rfl

/-- The answer to a text is what a self-query finds for it, one level deeper. -/
theorem sameButDepth_answer (s : Settings) (m m' depth : Nat) (session : SessionId)
    (stars : Stars) (text : Text) :
    SameButDepth
      ((Evaluator.standard (s.withLimits m depth)).answer session text >>= fun answer =>
        .done (answer.getD []))
      ((Evaluator.standard (s.withLimits m' (depth + 1))).asked session stars text) := by
  have hquery : (Evaluator.standard (s.withLimits m' (depth + 1))).query (.top session stars) text =
      (Evaluator.standard (s.withLimits m' (depth + 1))).selfQuery (depth + 1)
        (.top session stars) text := rfl
  rw [Evaluator.asked, hquery, Evaluator.selfQuery_succ, orIfTooDeep_findCategory_bind,
    Evaluator.answer, Evaluation.bind_assoc, Evaluation.bind_assoc]
  refine (Simulation.sameButDepth session).rel_findCategory_bind (k := 0) _ text ?_
  intro answer _
  cases answer with
  | none => exact .done []
  | some selection =>
    have hpermits := (Simulation.sameButDepth session).permits_of_writable (fun _ _ => trivial)
      (s.withLimits m depth)
    have hquery := @(Simulation.sameButDepth session).rel_selfQuery (s.withLimits m depth) m'
      (depth + 1) (fun _ => 0) (fun _ _ _ => Nat.le_of_eq (Nat.zero_mul _)) (fun _ _ => hpermits _)
      depth (.top session selection.stars) ((Context.top session stars).deeper selection.stars)
      rfl rfl fun _ _ => trivial
    have hscene : (Simulation.sameButDepth session).Scene (s.withLimits m depth) 0
        (.top session selection.stars) ((Context.top session stars).deeper selection.stars) _ _ :=
      { session := rfl
        session' := rfl
        stars := rfl
        depths := trivial
        query := hquery }
    have hnodes : SameButDepth _ _ :=
      hscene.rel_nodes m' (depth + 1) (hpermits (Node.tagsAll selection.template))
    rw [Settings.withLimits_withLimits] at hnodes
    dsimp only
    rw [(hnodes.orIfTooDeep_eq _).2, Evaluation.bind_assoc, Evaluator.render,
      Evaluation.bind_assoc]
    exact hnodes.bind fun t => .done (Text.trim t)

theorem run_visit_visit (env : Environment σ) {budget : Budget} {chance : Chance} {turn : Turn σ}
    (hfirst : budget.excess? chance (turn.steps + 1) = none)
    (hsecond : budget.excess? chance (turn.steps + 2) = none) (c : Context) (e : Evaluation α) :
    (visit c >>= fun _ => visit c >>= fun _ => e).run env budget chance turn =
      e.run env budget chance (turn.later 2) := by
  have hvisit : ∀ (t : Turn σ) (e : Evaluation α), budget.excess? chance (t.steps + 1) = none →
      (visit c >>= fun _ => e).run env budget chance t = e.run env budget chance (t.later 1) :=
    fun t e ht => run_visit_within env ht c.depth fun _ => e
  calc
    _ = (visit c >>= fun _ => e).run env budget chance (turn.later 1) := hvisit turn _ hfirst
    _ = e.run env budget chance (turn.later 2) := hvisit (turn.later 1) e hsecond

/-- **A self-query is a question one level deeper.** A `<srai>` around a text gives what the
text gives when it is said to the bot, nothing for no answer, with two visits and one level
more to spend; and the same calls are made, with the same effects. The same happens by chance in
both turns, and the two visits take no time. -/
theorem render_srai (s : Settings) (env : Environment σ) (fortune : Fortune)
    (maxSteps depth : Nat) (session : SessionId) (stars : Stars) (attributes text : Text)
    (world : World σ) :
    let inner : Bot σ := ⟨.standard (s.withLimits maxSteps depth), env, fortune⟩
    let outer : Bot σ :=
      ⟨.standard (s.withLimits (maxSteps + 2) (depth + 1)), env, fortune.after 2⟩
    let answered := inner.tryAnswer session text world
    let rendered := outer.render session stars
      [.element ⟨"srai".toList, attributes⟩ [.text text]] world
    SameOutcome (answered.1.map fun answer => answer.getD []) rendered.1 ∧
      rendered.2 = answered.2 := by
  intro inner outer answered rendered
  have hsame := sameButDepth_answer s maxSteps (maxSteps + 2) depth session stars text
  let budget := inner.evaluator.settings.budget
  let chance := inner.chance (world.turns + 1)
  have hruns := hsame.runsLater env budget 2 chance (.start world)
  rw [run_map] at hruns
  obtain ⟨houtcome, hturn⟩ := hruns
  have hfirst : (budget.more 2).excess? (chance.after 2) 1 = none :=
    excess?_after_of_le (Nat.le_add_left 1 _) (Nat.le_succ 1) chance
  have hsecond : (budget.more 2).excess? (chance.after 2) 2 = none :=
    excess?_after_of_le (Nat.le_add_left 2 _) (Nat.le_refl 2) chance
  have hrun : outer.run (outer.evaluator.render session stars
      [.element ⟨"srai".toList, attributes⟩ [.text text]]) (.start world) =
      (outer.evaluator.asked session stars text).run env (budget.more 2) (chance.after 2)
        ((Turn.start world).later 2) := by
    show Evaluation.run env (budget.more 2) (chance.after 2) ((Evaluator.standard _).render session
      stars [.element ⟨"srai".toList, attributes⟩ [.text text]]) (.start world) = _
    rw [render_srai_eq]
    exact run_visit_visit env hfirst hsecond (.top session stars) _
  have hrendered : rendered = _ := outer.render_eq session stars _ world
  have hworld := congrArg Turn.world hturn
  rw [hrendered, hrun]
  exact ⟨houtcome, hworld⟩

end Dialogue
