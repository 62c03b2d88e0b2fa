import Dialogue.Proofs.Budget
import Mathlib.Logic.Relation

/-!
# What evaluation ignores

A comment stands for nothing, a literal block for its text, and two texts side by side for one.
Erasing such a difference anywhere in a template takes visits out of its evaluation and leaves
all other requests as they are (`silent_evaluate_of_erases`). A run that stays within its budget
is the run without its visits (`Evaluation.Confined.run_silent`), so the template and what is left
of it give the same and make the same calls (`render_erased`).
-/

namespace Dialogue

open Evaluation Markup

variable {α β σ : Type}

/-- One comment is deleted, one literal block becomes a text, or two texts side by side become
one; at the beginning of the nodes, behind other nodes, or inside an element. -/
inductive Markup.Erases : List Node → List Node → Prop
  | comment (t : Text) (ns : List Node) : Erases (.comment t :: ns) ns
  | literalBlock (t : Text) (ns : List Node) : Erases (.literalBlock t :: ns) (.text t :: ns)
  | fuse (t u : Text) (ns : List Node) : Erases (.text t :: .text u :: ns) (.text (t ++ u) :: ns)
  | behind (n : Node) {ns ms : List Node} : Erases ns ms → Erases (n :: ns) (n :: ms)
  | inside (tag : Tag) {ns ms : List Node} (rest : List Node) : Erases ns ms →
      Erases (.element tag ns :: rest) (.element tag ms :: rest)

/-! ## Evaluations without their visits -/

namespace Evaluation

def silent : Evaluation α → Evaluation α
  | .done a => .done a
  | .fail e => .fail e
  | .request (.visit _) next => silent (next ())
  | .request r next => .request r fun answer => silent (next answer)

theorem silent_bind (e : Evaluation α) (f : α → Evaluation β) :
    (e >>= f).silent = e.silent >>= fun a => (f a).silent := by
  induction e with
  | done a => rfl
  | fail error => rfl
  | request r next ih =>
    cases r with
    | visit d => exact ih ()
    | steps | choice bound | categoryCount | now | call c =>
      exact congrArg (Evaluation.request _) (funext ih)

theorem silent_orIfTooDeep (e : Evaluation α) (a : α) :
    (e.orIfTooDeep a).silent = e.silent.orIfTooDeep a := by
  induction e with
  | done b => rfl
  | fail error => cases error <;> rfl
  | request r next ih =>
    cases r with
    | visit d => exact ih ()
    | steps | choice bound | categoryCount | now | call c =>
      exact congrArg (Evaluation.request _) (funext ih)

end Evaluation

/-- Being the same but for visits, as a simulation. -/
def Simulation.silent (session : SessionId) : Simulation where
  session := session
  depths _ _ := True
  template _ := True
  writable _ _ := True
  visitCost := 0
  rel _ e e' := e.silent = e'.silent
  done _ := rfl
  weaken _ h := h
  bind h hf := by rw [silent_bind, silent_bind, h, funext hf]
  orIfTooDeep t h := by rw [silent_orIfTooDeep, silent_orIfTooDeep, h]
  visit _ := rfl
  ask _ _ := rfl
  select input that topic hf :=
    congrArg (Evaluation.request (.call (.select input that topic)))
      (funext fun answer => hf answer fun _ _ => trivial)

/-! ## Erasing -/

/-- No standard tag looks at its children except by evaluating them. -/
theorem process_element_eq {h : Handler} (hh : h ∈ standardHandlers) (s : Settings) (c : Context)
    (t : Tag) (ns ms : List Node) (cs : List Child) (q : Text → Evaluation Text)
    (x : Evaluation Text) :
    h.process ⟨s, c, .element t ns, cs, q, x⟩ = h.process ⟨s, c, .element t ms, cs, q, x⟩ := by
  have hi : (Simulation.same c.session).Invoked 0 0 ⟨s, c, .element t ns, cs, q, x⟩
      ⟨s, c, .element t ms, cs, q, x⟩ :=
    { settings := rfl
      session := rfl
      session' := rfl
      stars := rfl
      attributes := rfl
      selfClosing := rfl
      content := rfl
      items := List.forall₂_same.2 fun _ _ => ⟨rfl, rfl⟩
      selfQuery := fun _ => rfl }
  exact hi.rel_process hh (fun _ _ _ _ => trivial) fun _ _ => rfl

theorem tag_element_eq (s : Settings) (c : Context) (q : Text → Evaluation Text) (t : Tag)
    (ns ms : List Node) (cs : List Child) :
    (Evaluator.standard s).tag c q (.element t ns) cs =
      (Evaluator.standard s).tag c q (.element t ms) cs := by
  unfold Evaluator.tag
  cases hh : standardHandler? (.element t ns) with
  | none =>
    have hh' : standardHandler? (.element t ms) = none := hh
    rw [handle?_of_none hh, handle?_of_none hh']
    rfl
  | some h =>
    have hh' : standardHandler? (.element t ms) = some h := hh
    rw [handle?_of_some hh, handle?_of_some hh']
    exact process_element_eq (mem_of_standardHandler? hh).1 s c t ns ms cs q _

section Erases

variable (s : Settings) (c : Context) (q : Text → Evaluation Text)

theorem silent_node_comment (t : Text) :
    ((Evaluator.standard s).node c q (.comment t)).silent = .done [] := by
  rw [Evaluator.node]
  rfl

theorem silent_node_text (t : Text) :
    ((Evaluator.standard s).node c q (.text t)).silent = .done t := by
  rw [Evaluator.node]
  rfl

theorem silent_node_literalBlock (t : Text) :
    ((Evaluator.standard s).node c q (.literalBlock t)).silent = .done t := by
  rw [Evaluator.node]
  rfl

theorem silent_concat_cons {e : Evaluation Text} {t : Text} (he : e.silent = .done t)
    (es : List (Evaluation Text)) :
    (concat (e :: es)).silent = (concat es).silent >>= fun u => .done (t ++ u) := by
  rw [concat, silent_bind, he, done_bind, silent_bind]
  rfl

/-- In the silence of their visits, the children that are left are alike. A comment adds nothing
to what is said and is no item, and neither is a text. -/
theorem alikeChildren_of_erases {ns ms : List Node} (h : Erases ns ms) :
    (Simulation.silent c.session).AlikeChildren 0 ((Evaluator.standard s).children c q ns)
      ((Evaluator.standard s).children c q ms) := by
  have hsame : ∀ cs, (Simulation.silent c.session).AlikeChildren 0 cs cs := fun cs =>
    ⟨rfl, fun _ => List.forall₂_same.2 fun _ _ => ⟨rfl, rfl⟩⟩
  induction h with
  | comment t ns =>
    rw [Evaluator.children]
    refine ⟨?_, (hsame _).items⟩
    show (concat _).silent = (concat _).silent
    rw [List.map_cons, silent_concat_cons (silent_node_comment s c q t)]
    exact Evaluation.bind_done _
  | literalBlock t ns =>
    rw [Evaluator.children, Evaluator.children]
    refine Simulation.AlikeChildren.cons (k := 0) (l := 0) rfl ?_ rfl (hsame _)
    exact (silent_node_literalBlock s c q t).trans (silent_node_text s c q t).symm
  | fuse t u ns =>
    rw [Evaluator.children, Evaluator.children, Evaluator.children]
    refine ⟨?_, (hsame _).items⟩
    show (concat _).silent = (concat _).silent
    simp only [List.map_cons]
    rw [silent_concat_cons (silent_node_text s c q t),
      silent_concat_cons (silent_node_text s c q u),
      silent_concat_cons (silent_node_text s c q (t ++ u)), Evaluation.bind_assoc]
    simp only [done_bind, List.append_assoc]
  | behind n _ ih =>
    rw [Evaluator.children, Evaluator.children]
    exact .cons (k := 0) rfl rfl rfl ih
  | @inside tag ns ms rest _ ih =>
    -- the tag meets its children by what they evaluate to, so it may as well hold the others
    have hscene : (Simulation.silent c.session).Scene s 0 c c q q :=
      { session := rfl
        session' := rfl
        stars := rfl
        depths := trivial
        query := fun _ => rfl }
    have hpermits := (Simulation.silent c.session).permits_of_writable (fun _ _ => trivial) s
    have htag := hscene.rel_tag ih s.maxSteps s.maxRecursionDepth (n := .element tag ns)
      (hpermits _)
    rw [Evaluator.children, Evaluator.children]
    refine Simulation.AlikeChildren.cons (k := 0) (l := 0) rfl ?_ ?_ (hsame _)
    · rw [Evaluator.node, Evaluator.node, ← tag_element_eq s c q tag ns ms]
      exact (Simulation.silent c.session).bind (k := 0) rfl fun _ => htag
    · rw [Evaluator.content, Evaluator.content]
      exact ih.content

/-- **Erasing takes nothing but visits out of an evaluation.** -/
theorem silent_evaluate_of_erases {ns ms : List Node} (h : Relation.ReflTransGen Erases ns ms) :
    ((Evaluator.standard s).evaluate c ns).silent =
      ((Evaluator.standard s).evaluate c ms).silent := by
  induction h with
  | refl => rfl
  | tail _ hstep ih =>
    have hcontent := (alikeChildren_of_erases s c ((Evaluator.standard s).query c) hstep).content
    rw [Evaluator.map_visit_children, Evaluator.map_visit_children] at hcontent
    exact ih.trans hcontent

end Erases

/-! ## Running -/

def Turn.uncounted (turn : Turn σ) : Turn σ := { turn with steps := 0 }

theorem Request.Confined.ne_steps {session : SessionId} {depth : Nat} {r : Request}
    (h : r.Confined session depth) : r ≠ .steps := by
  rintro rfl
  cases h with
  | ofSession h => cases h

theorem silent_request {r : Request} (hr : r.visits = 0) (next : r.Answer → Evaluation α) :
    (Evaluation.request r next).silent = .request r fun answer => (next answer).silent := by
  cases r with
  | visit d => cases hr
  | steps | choice bound | categoryCount | now | call c => rfl

section Run

variable (env : Environment σ) (budget : Budget) (chance : Chance)

/-- What is no visit and does not ask for their number is served whatever it is. -/
theorem serve_uncounted {r : Request} (hvisits : r.visits = 0) (hsteps : r ≠ .steps)
    (turn : Turn σ) : env.serve budget chance turn.uncounted r =
      ((env.serve budget chance turn r).1, (env.serve budget chance turn r).2.uncounted) := by
  cases r with
  | visit d => cases hvisits
  | steps => exact absurd rfl hsteps
  | choice bound | categoryCount | now => rfl
  | call c =>
    simp only [Environment.serve, Turn.uncounted]
    rcases env.call c turn.world with ⟨error | answer, world⟩ <;> rfl

/-- **A run within its budget is the run without its visits**, but for their number. -/
theorem Evaluation.Confined.run_silent {session : SessionId} {depth : Nat} {e : Evaluation α}
    (he : e.Confined session depth) {turn : Turn σ}
    (hbudget : ∀ b, (e.run env budget chance turn).1 ≠ .error (.budget b)) :
    e.silent.run env budget chance turn.uncounted =
      ((e.run env budget chance turn).1, (e.run env budget chance turn).2.uncounted) := by
  induction he generalizing turn with
  | done a => rfl
  | @request r next hr _ ih =>
    by_cases hvisits : r.visits = 0
    · have hserve := serve_uncounted env budget chance hvisits hr.ne_steps turn
      rw [Evaluation.run] at hbudget ⊢
      rw [silent_request hvisits, Evaluation.run, hserve]
      rcases hs : env.serve budget chance turn r with ⟨error | answer, turn'⟩
      · rfl
      · rw [hs] at hbudget
        exact ih answer hbudget
    · obtain ⟨d, rfl⟩ : ∃ d, r = .visit d := by
        cases r with
        | visit d => exact ⟨d, rfl⟩
        | steps | choice bound | categoryCount | now | call c => exact absurd rfl hvisits
      cases hexcess : budget.excess? chance (turn.steps + 1) with
      | none =>
        rw [run_visit_within env hexcess] at hbudget ⊢
        exact ih () hbudget
      | some excess =>
        rw [run_visit_beyond env hexcess] at hbudget
        exact absurd rfl (hbudget excess)

/-- Two evaluations that are the same without their visits run alike within the budget. -/
theorem Evaluation.Confined.run_eq {session : SessionId} {depth : Nat} {e e' : Evaluation α}
    (he : e.Confined session depth) (he' : e'.Confined session depth) (h : e.silent = e'.silent)
    {turn : Turn σ} (hbudget : ∀ b, (e.run env budget chance turn).1 ≠ .error (.budget b))
    (hbudget' : ∀ b, (e'.run env budget chance turn).1 ≠ .error (.budget b)) :
    (e.run env budget chance turn).1 = (e'.run env budget chance turn).1 ∧
      (e.run env budget chance turn).2.uncounted =
        (e'.run env budget chance turn).2.uncounted := by
  have hrun := he.run_silent env budget chance hbudget
  have hrun' := he'.run_silent env budget chance hbudget'
  rw [h, hrun'] at hrun
  exact ⟨(congrArg Prod.fst hrun).symm, (congrArg Prod.snd hrun).symm⟩

end Run

/-! ## Templates -/

/-- **What evaluation ignores may be erased.** Take out comments, turn literal blocks into texts
and join texts side by side, as many as there are and at any depth. In every context and in every
state of what is around it, what is left gives the same value or error and takes the same random
choices, and the worlds that come after are the same, the calls made among them, as long as
neither run exceeds the budget. So it is for a rendering. -/
theorem render_erased (s : Settings) (env : Environment σ) (fortune : Fortune)
    {template erased : Document} (h : Relation.ReflTransGen Erases template erased)
    (c : Context) (turn : Turn σ) (session : SessionId) (stars : Stars) (world : World σ) :
    let bot : Bot σ := ⟨.standard s, env, fortune⟩
    let evaluated (ns : Document) := bot.run (bot.evaluator.evaluate c ns) turn
    let rendered (ns : Document) := bot.render session stars ns world
    ((∀ b, (evaluated template).1 ≠ .error (.budget b)) →
      (∀ b, (evaluated erased).1 ≠ .error (.budget b)) →
      (evaluated erased).1 = (evaluated template).1 ∧
        (evaluated erased).2.draws = (evaluated template).2.draws ∧
        (evaluated erased).2.world = (evaluated template).2.world) ∧
    ((∀ b, (rendered template).1 ≠ .error (.budget b)) →
      (∀ b, (rendered erased).1 ≠ .error (.budget b)) →
      rendered erased = rendered template) := by
  intro bot evaluated rendered
  constructor
  · have hconfined := fun ns => confined_evaluate_of_le s (c := c) (Nat.le_max_left _ _)
      (Nat.le_max_right c.depth s.maxRecursionDepth) ns
    intro hbudget hbudget'
    obtain ⟨houtcome, hturn⟩ := (hconfined erased).run_eq env s.budget _
      (hconfined template) (silent_evaluate_of_erases s c h).symm hbudget' hbudget
    have hdraws := congrArg Turn.draws hturn
    have hworld := congrArg Turn.world hturn
    exact ⟨houtcome, hdraws, hworld⟩
  · have hsilent : ((Evaluator.standard s).render session stars erased).silent =
        ((Evaluator.standard s).render session stars template).silent := by
      rw [Evaluator.render, Evaluator.render, silent_bind, silent_bind,
        silent_evaluate_of_erases s (.top session stars) h]
    intro hbudget hbudget'
    obtain ⟨houtcome, hturn⟩ := (confined_render s session stars erased).run_eq env s.budget
      _ (confined_render s session stars template) hsilent hbudget' hbudget
    have hworld := congrArg Turn.world hturn
    exact Prod.ext houtcome hworld

/-- A random choice of the second item, which remembers what it says. A comment stands before it
and another one inside it, where the text goes on in a literal block. -/
theorem render_erased_random :
    let fortune : Fortune := { (default : Fortune) with unseeded _ _ bound := Fin.last bound }
    let bot : Bot SessionStore := ⟨.standard {}, .inMemory [], fortune⟩
    let choose (between said : Document) : Document :=
      [.element (.bare "random".toList) (.element (.bare "li".toList) [] :: between ++
        [.element (.bare "li".toList) [.element (Legacy.named "set".toList "met".toList) said]])]
    let wordy := choose [.comment "or".toList]
      [.text "B ".toList, .comment "not C".toList, .literalBlock "<D>".toList]
    let plain := choose [] [.text "B <D>".toList]
    let rendered (ns : Document) := bot.render [] .none ns (.fresh (.empty 32))
    Relation.ReflTransGen Erases wordy plain ∧ rendered plain = rendered wordy ∧
      (rendered wordy).1 = .ok "B <D>".toList ∧
      (rendered wordy).2.calls = [⟨.setPredicate [] "met".toList "B <D>".toList, none⟩] := by
  intro fortune bot choose wordy plain rendered
  have herases : Relation.ReflTransGen Erases wordy plain := by
    have hsaid {ns ms : Document} (h : Erases ns ms) : Erases (choose [] ns) (choose [] ms) :=
      .inside _ _ (.behind _ (.inside _ _ (.inside _ _ h)))
    refine .head (.inside _ _ (.behind _ (.comment _ _))) ?_
    refine .head (hsaid (.behind _ (.comment _ _))) ?_
    refine .head (hsaid (.behind _ (.literalBlock _ _))) ?_
    exact .single (hsaid (.fuse _ _ _))
  have hwordy : (rendered wordy).1 = .ok "B <D>".toList := by decide +kernel
  have hplain : (rendered plain).1 = .ok "B <D>".toList := by decide +kernel
  have hbudget : ∀ ns, (rendered ns).1 = .ok "B <D>".toList →
      ∀ b, (rendered ns).1 ≠ .error (.budget b) := by
    intro ns hns b hb
    cases hns.symm.trans hb
  obtain ⟨-, hrendered⟩ := render_erased {} (.inMemory []) fortune herases
    (.top [] .none) (.start (.fresh (.empty 32))) [] .none (.fresh (.empty 32))
  refine ⟨herases, hrendered (hbudget wordy hwordy) (hbudget plain hplain), hwordy, ?_⟩
  decide +kernel

end Dialogue
