import Dialogue.Proofs.Evaluation.Confined
import Dialogue.Session.Environment

/-!
# What a template costs

Self-queries may go round in a circle, but the limit of nesting bounds what they cost. A node
is visited at most once, and so is the one child that an expansion puts in its place; and a
node puts at most one self-query. So a template of `n` nodes makes at most `2 * n` visits of
its own, and `n` times those of a template that a category may have, one level deeper
(`render_cost`).
-/

namespace Dialogue

open Evaluation Markup

variable {α β σ : Type}

/-- What `n` nodes cost at most with `depth` levels left, where the templates of categories
have at most `size` nodes. -/
def visitBound (size : Nat) (n : Nat) : Nat → Nat
  | 0 => 2 * n
  | depth + 1 => 2 * n + n * visitBound size size depth

def Markup.AtMost (size : Nat) (template : Document) : Prop := Node.sizeAll template ≤ size

/-- At most `k` visits are made, whatever the answers are that give templates of at most
`size` nodes. -/
inductive Evaluation.VisitsAtMost (size : Nat) : Nat → Evaluation α → Prop
  | done (k : Nat) (a : α) : VisitsAtMost size k (.done a)
  | request {k : Nat} {r : Request} {next : r.Answer → Evaluation α} :
      (∀ answer, r.Gives (AtMost size) answer → VisitsAtMost size k (next answer)) →
      VisitsAtMost size (k + r.visits) (.request r next)

namespace Evaluation.VisitsAtMost

variable {size k l : Nat} {e : Evaluation α}

theorem weaken (h : VisitsAtMost size k e) (hkl : k ≤ l) : VisitsAtMost size l e := by
  induction h generalizing l with
  | done k a => exact .done l a
  | @request k r next _ ih =>
    have h := VisitsAtMost.request (r := r) fun answer ha =>
      ih answer ha (l := l - r.visits) (by omega)
    rwa [Nat.sub_add_cancel (by omega)] at h

theorem bind {f : α → Evaluation β} (h : VisitsAtMost size k e)
    (hf : ∀ a, VisitsAtMost size l (f a)) : VisitsAtMost size (k + l) (e >>= f) := by
  induction h with
  | done k a => exact (hf a).weaken (Nat.le_add_left l k)
  | request _ ih =>
    rw [Nat.add_right_comm]
    exact .request ih

theorem orIfTooDeep (h : VisitsAtMost size k e) (a : α) :
    VisitsAtMost size k (e.orIfTooDeep a) := by
  induction h with
  | done k b => exact .done k b
  | request _ ih => exact .request ih

theorem ask (size : Nat) (r : Request) : VisitsAtMost size r.visits (ask r) := by
  have h := VisitsAtMost.request (k := 0) (r := r) fun answer (_ : r.Gives (AtMost size) answer) =>
    VisitsAtMost.done 0 answer
  rwa [Nat.zero_add] at h

end Evaluation.VisitsAtMost

theorem Request.OfSession.visits_eq_zero {session : SessionId} {r : Request}
    (hr : r.OfSession session) : r.visits = 0 := by
  cases hr <;> rfl

/-- Counting visits, as a simulation that looks at the first side. -/
def Simulation.counting (session : SessionId) (size : Nat) : Simulation where
  session := session
  depths _ _ := True
  template := AtMost size
  writable _ _ := True
  visitCost := 1
  rel k e _ := VisitsAtMost size k e
  done := .done 0
  weaken hkl h := h.weaken hkl
  bind h hf := h.bind hf
  orIfTooDeep t h := h.orIfTooDeep t
  visit _ := .ask size (.visit _)
  ask {r} hr _ := by
    have h := VisitsAtMost.ask size r
    rwa [hr.visits_eq_zero] at h
  select input that topic hf :=
    VisitsAtMost.request (r := .call (.select input that topic)) hf

/-! ## The bound -/

def queryBound (size : Nat) : Nat → Nat
  | 0 => 0
  | depth + 1 => visitBound size size depth

theorem queryBound_mul (size n depth : Nat) :
    (2 + queryBound size depth) * n = visitBound size n depth := by
  cases depth with
  | zero => rfl
  | succ depth => rw [queryBound, visitBound, Nat.add_mul, Nat.mul_comm n]

theorem visitsAtMost_render (s : Settings) (size : Nat) (session : SessionId) (stars : Stars)
    (template : Document) :
    VisitsAtMost size (visitBound size (Node.sizeAll template) s.maxRecursionDepth)
      ((Evaluator.standard s).render session stars template) := by
  have hbound : ∀ (j : Nat) (t : Document), Node.sizeAll t ≤ size →
      (2 * 1 + queryBound size j) * Node.sizeAll t ≤ queryBound size (j + 1) := by
    intro j t ht
    calc
      _ ≤ (2 + queryBound size j) * size := Nat.mul_le_mul_left _ ht
      _ = queryBound size (j + 1) := queryBound_mul size size j
  have hpermits := (Simulation.counting session size).permits_of_writable (fun _ _ => trivial) s
  have h : VisitsAtMost size ((2 + queryBound size s.maxRecursionDepth) * Node.sizeAll template)
      ((Evaluator.standard s).evaluate (.top session stars) template) :=
    (Simulation.counting session size).rel_evaluate s (queryBound size) hbound
      (fun _ _ => hpermits _) (c := .top session stars) rfl (fun _ _ => trivial) (hpermits _)
  rw [queryBound_mul] at h
  exact h.bind fun t => .done 0 (Text.trim t)

/-! ## Running -/

/-- The matcher gives no template of more than `size` nodes, whatever it is asked. -/
def Environment.TemplatesAtMost (env : Environment σ) (size : Nat) : Prop :=
  ∀ (input that topic : Text) (state : σ) (selection : Selection),
    (env.answer (.select input that topic) state).1 = .ok (some selection) →
    Node.sizeAll selection.template ≤ size

theorem Environment.TemplatesAtMost.gives {env : Environment σ} {size : Nat} {budget : Budget}
    {chance : Chance} (hsize : env.TemplatesAtMost size) {turn turn' : Turn σ} {r : Request}
    {answer : r.Answer} (h : env.serve budget chance turn r = (.ok answer, turn')) :
    r.Gives (AtMost size) answer := by
  refine (gives_of_serve h).mono ?_
  rintro _ ⟨input, that, topic, state, selection, hanswer, rfl⟩
  exact hsize input that topic state selection hanswer

theorem templatesAtMost_inMemory {categories : CategoryList} {size : Nat}
    (h : ∀ c ∈ categories, Node.sizeAll c.template ≤ size) :
    (Environment.inMemory categories).TemplatesAtMost size := by
  intro input that topic store selection hanswer
  have hselect : categories.select? input that topic = some selection :=
    Except.ok.inj hanswer
  obtain ⟨c, hc, htemplate⟩ := CategoryList.mem_of_select? hselect
  rw [← htemplate]
  exact h c hc

/-- A run makes at most as many visits as are counted. -/
theorem Evaluation.VisitsAtMost.totalVisits_trace_le {env : Environment σ} {size k : Nat}
    {e : Evaluation α} (h : VisitsAtMost size k e) (hsize : env.TemplatesAtMost size)
    (budget : Budget) (chance : Chance) (turn : Turn σ) :
    Request.totalVisits (e.trace env budget chance turn) ≤ k := by
  induction h generalizing turn with
  | done k a => exact Nat.zero_le k
  | @request k r next _ ih =>
    rw [trace, Request.totalVisits, Nat.add_comm k]
    apply Nat.add_le_add_left
    rcases hs : env.serve budget chance turn r with ⟨error | answer, turn'⟩
    · exact Nat.zero_le k
    · exact ih answer (hsize.gives hs) turn'

/-- **What a template costs is bounded, also where self-queries go round in a circle.** It
takes at most as many steps as the bound says, so a budget of that many is exceeded only where
time runs out, and it visits no node deeper than the limit of nesting. -/
theorem render_cost (s : Settings) (env : Environment σ) (fortune : Fortune) (size : Nat)
    (hsize : env.TemplatesAtMost size) (session : SessionId) (stars : Stars)
    (template : Document) (world : World σ) :
    let bot : Bot σ := ⟨.standard s, env, fortune⟩
    let rendering := bot.evaluator.render session stars template
    let chance := bot.chance (world.turns + 1)
    let run := bot.run rendering (.start world)
    let cost := visitBound size (Node.sizeAll template) s.maxRecursionDepth
    run.2.steps ≤ cost ∧
      (cost ≤ s.maxSteps → ∀ excess, run.1 = .error (.budget excess) →
        s.maxDuration < chance.elapsed run.2.steps) ∧
      ∀ d, .visit d ∈ rendering.trace env s.budget chance (.start world) →
        d ≤ s.maxRecursionDepth := by
  intro bot rendering chance run cost
  have hconfined : rendering.Confined session s.maxRecursionDepth :=
    confined_render s session stars template
  have hsteps : run.2.steps ≤ cost := by
    have hvisits := visitsAtMost_render s size session stars template
    have hsum := hvisits.totalVisits_trace_le hsize s.budget chance (.start world)
    have hrun := steps_run env s.budget chance rendering (.start world)
    calc
      _ = 0 + Request.totalVisits (rendering.trace env s.budget chance (.start world)) := hrun
      _ ≤ 0 + cost := Nat.add_le_add_left hsum 0
      _ = cost := Nat.zero_add cost
  refine ⟨hsteps, ?_, ?_⟩
  · intro hcost excess hexcess
    have hbeyond : s.budget.excess? chance run.2.steps = some excess :=
      hconfined.excess?_of_budget env s.budget chance hexcess
    by_contra hlate
    have hwithin : s.budget.excess? chance run.2.steps = none :=
      Budget.excess?_eq_none_iff.2 ⟨Nat.le_trans hsteps hcost, hlate⟩
    rw [hwithin] at hbeyond
    cases hbeyond
  · intro d hd
    have hvisit := hconfined.mem_trace env s.budget chance hd
    cases hvisit with
    | visit h => exact h
    | ofSession h => cases h

def askAgain : Category :=
  { pattern := [.wildcard .star]
    that := [.wildcard .star]
    topic := [.wildcard .star]
    template := [.element ⟨"srai".toList, []⟩ [.text "again".toList]] }

theorem render_cost_askAgain :
    let s : Settings := { maxRecursionDepth := 4 }
    let bot : Bot SessionStore := ⟨.standard s, .inMemory [askAgain], default⟩
    let rendering := bot.evaluator.render [] .none askAgain.template
    let run := bot.run rendering (.start (.fresh (.empty 32)))
    run.2.steps ≤ 124 ∧ ∀ excess, run.1 ≠ .error (.budget excess) := by
  intro s bot rendering run
  have hsize : ∀ c ∈ [askAgain], Node.sizeAll c.template ≤ 2 := by
    intro c hc
    obtain rfl := List.mem_singleton.1 hc
    decide
  obtain ⟨hsteps, hbudget, -⟩ := render_cost s (.inMemory [askAgain]) default 2
    (templatesAtMost_inMemory hsize) [] .none askAgain.template (.fresh (.empty 32))
  have htime : ¬ s.maxDuration < Duration.ofMillis 0 := by decide
  exact ⟨hsteps, fun excess hexcess => htime (hbudget (by decide) excess hexcess)⟩

end Dialogue
