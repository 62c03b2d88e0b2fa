import Dialogue.Proofs.Evaluation.Confined
import Dialogue.Session.Environment

/-!
# Markup that no tag claims

A tag that has neither a handler nor an expansion is written out as it was. A document of such
tags is evaluated by as many visits as it has nodes and by nothing else (`nodes_of_ignored`), and
what it gives is the document as it is written without its comments and without the marks of its
literal blocks (`Node.plain`). A run of it is therefore known in every environment and with every
budget (`run_evaluate_of_ignored`).
-/

namespace Dialogue

open Evaluation Markup

variable {α β σ : Type}

/-! ## Documents without comments and literal blocks -/

namespace Markup.Node

mutual

/-- What is left of a node without its comments, where literal blocks are bare text. -/
def plain : Node → List Node
  | .element t children => [.element t (plainAll children)]
  | .selfClosing t => [.selfClosing t]
  | .text t | .literalBlock t => [.text t]
  | .comment _ => []

def plainAll : List Node → List Node
  | [] => []
  | n :: rest => n.plain ++ plainAll rest

end

theorem renderAll_singleton (n : Node) : renderAll [n] = n.render := List.append_nil _

theorem renderAll_append (ms ns : List Node) :
    renderAll (ms ++ ns) = renderAll ms ++ renderAll ns := by
  induction ms with
  | nil => rfl
  | cons m ms ih => rw [List.cons_append, renderAll, renderAll, ih, List.append_assoc]

theorem renderAll_plainAll_cons (n : Node) (rest : List Node) :
    renderAll (plainAll (n :: rest)) = renderAll n.plain ++ renderAll (plainAll rest) :=
  renderAll_append n.plain (plainAll rest)

/-- The markup of an element is written out around what is left of its children. -/
theorem renderAll_plain_element (t : Tag) (children : List Node) :
    renderAll (plain (.element t children)) =
      opening (.element t children) ++ renderAll (plainAll children) ++
        closing (.element t children) :=
  renderAll_singleton (.element t (plainAll children))

end Markup.Node

/-! ## Visits -/

namespace Evaluation

def visits (c : Context) : Nat → Evaluation Unit
  | 0 => .done ()
  | n + 1 => do
    visit c
    visits c n

theorem visits_add (c : Context) (m n : Nat) :
    visits c (m + n) = visits c m >>= fun _ => visits c n := by
  induction m with
  | zero => rw [Nat.zero_add]; rfl
  | succ m ih =>
    rw [Nat.succ_add, visits, visits, bind_assoc]
    exact congrArg _ (funext fun _ => ih)

theorem visits_one (c : Context) : visits c 1 = visit c := rfl

section Run

variable (env : Environment σ) (budget : Budget) (chance : Chance)

/-- A visit is asked for, and what follows it if the budget allows for the visit. -/
theorem trace_visit (turn : Turn σ) (depth : Nat)
    (next : (Request.visit depth).Answer → Evaluation α) :
    (Evaluation.request (.visit depth) next).trace env budget chance turn =
      .visit depth :: match budget.excess? chance (turn.steps + 1) with
        | none => (next ()).trace env budget chance (turn.later 1)
        | some _ => [] := by
  simp only [trace, Environment.serve]
  cases budget.excess? chance (turn.steps + 1) <;> rfl

variable {budget chance}

theorem run_visits_succ (c : Context) (n : Nat) {turn : Turn σ}
    (h : budget.excess? chance (turn.steps + 1) = none) :
    (visits c (n + 1)).run env budget chance turn =
        (visits c n).run env budget chance (turn.later 1) ∧
      (visits c (n + 1)).trace env budget chance turn =
        .visit c.depth :: (visits c n).trace env budget chance (turn.later 1) := by
  constructor
  · exact run_visit_within env h c.depth fun _ => visits c n
  · refine (trace_visit env budget chance turn c.depth fun _ => visits c n).trans ?_
    rw [h]

/-- Visits take place as far as the budget allows, and nothing else is asked for. -/
theorem run_visits (c : Context) (n : Nat) {turn : Turn σ}
    (h : ∀ k < n, budget.excess? chance (turn.steps + k + 1) = none) :
    (visits c n).run env budget chance turn = (.ok (), turn.later n) ∧
      (visits c n).trace env budget chance turn = List.replicate n (.visit c.depth) := by
  induction n generalizing turn with
  | zero => exact ⟨rfl, rfl⟩
  | succ n ih =>
    obtain ⟨hrun, htrace⟩ := run_visits_succ env c n (h 0 (Nat.succ_pos n))
    obtain ⟨hrun', htrace'⟩ := @ih (turn.later 1) fun k hk => by
      have hnext := h (k + 1) (Nat.succ_lt_succ hk)
      rwa [Nat.add_comm k, ← Nat.add_assoc] at hnext
    rw [hrun, hrun', htrace, htrace', Turn.later_later, Nat.add_comm 1]
    exact ⟨rfl, rfl⟩

/-- The first visit beyond the budget is counted and is the last one. -/
theorem run_visits_of_excess (c : Context) {n k : Nat} (hk : k < n) {turn : Turn σ}
    (h : ∀ j < k, budget.excess? chance (turn.steps + j + 1) = none) {excess : Excess}
    (hexcess : budget.excess? chance (turn.steps + k + 1) = some excess) :
    (visits c n).run env budget chance turn = (.error (.budget excess), turn.later (k + 1)) ∧
      (visits c n).trace env budget chance turn =
        List.replicate (k + 1) (.visit c.depth) := by
  induction n generalizing k turn with
  | zero => cases hk
  | succ n ih =>
    cases k with
    | zero =>
      constructor
      · exact run_visit_beyond env hexcess c.depth fun _ => visits c n
      · refine (trace_visit env budget chance turn c.depth fun _ => visits c n).trans ?_
        rw [hexcess]
        rfl
    | succ k =>
      have hshift : ∀ j, turn.steps + (j + 1) + 1 = (turn.later 1).steps + j + 1 := by
        intro j
        simp only [Turn.later]
        omega
      obtain ⟨hrun, htrace⟩ := run_visits_succ env c n (h 0 (Nat.succ_pos k))
      obtain ⟨hrun', htrace'⟩ := @ih k (Nat.lt_of_succ_lt_succ hk) (turn.later 1)
        (fun j hj => hshift j ▸ h (j + 1) (Nat.succ_lt_succ hj)) (hshift k ▸ hexcess)
      rw [hrun, hrun', htrace, htrace', Turn.later_later, Nat.add_comm 1]
      exact ⟨rfl, rfl⟩

variable (budget chance)

/-- What is made of the value asks for nothing more. -/
theorem trace_map (e : Evaluation α) (g : α → β) (turn : Turn σ) :
    (e >>= fun a => .done (g a)).trace env budget chance turn =
      e.trace env budget chance turn := by
  induction e generalizing turn with
  | done a => rfl
  | fail error => rfl
  | request r next ih =>
    rw [request_bind, trace, trace]
    rcases env.serve budget chance turn r with ⟨error | answer, turn⟩
    · rfl
    · exact congrArg _ (ih answer turn)

end Run

end Evaluation

/-! ## Tags without a meaning -/

namespace Evaluator

variable {ev : Evaluator} (c : Context) (q : Text → Evaluation Text)

/-- The tag has neither a handler nor an expansion in these settings. -/
def Ignores (ev : Evaluator) (t : Tag) : Prop :=
  ev.registry.find? t.name = none ∧
    Legacy.expansion? ev.settings.supportDeprecatedTags t.name = none

instance (ev : Evaluator) (t : Tag) : Decidable (ev.Ignores t) :=
  decidable_of_iff ((ev.registry.find? t.name).isNone = true ∧
    (Legacy.expansion? ev.settings.supportDeprecatedTags t.name).isNone = true)
    (and_congr Option.isNone_iff_eq_none Option.isNone_iff_eq_none)

/-- A tag without a meaning is written out around its evaluated children. -/
theorem Ignores.tag_eq {n : Node} {t : Tag} (ht : n.tag? = some t) (h : ev.Ignores t)
    (cs : List Child) :
    ev.tag c q n cs = enclose n cs := by
  have hname : n.name? = some t.name := congrArg (Option.map Tag.name) ht
  have hhandle : ev.handle? c q n cs (ev.expand c q n) = none := by
    rw [handle?, hname, Option.bind_some, h.1]
    rfl
  have hexpansion : ev.expansion? n = .error ⟨t.name⟩ := by
    simp only [expansion?, Legacy.expansionOfNode?, hname, h.2]
  rw [tag, hhandle, hexpansion]

theorem enclose_children (n : Node) (ns : List Node) :
    enclose n (ev.children c q ns) =
      ev.nodes c q ns >>= fun inner => .done (n.opening ++ inner ++ n.closing) := by
  rw [enclose, map_visit_children]
  rfl

/-- A tag that closes itself is written as it opens. -/
theorem enclose_selfClosing (t : Tag) :
    enclose (.selfClosing t) [] = .done (Node.render (.selfClosing t)) := by
  have h : t.selfClosing ++ [] ++ [] = t.selfClosing := by rw [List.append_nil, List.append_nil]
  exact congrArg done h

theorem nodes_cons (n : Node) (rest : List Node) :
    ev.nodes c q (n :: rest) =
      ev.node c q n >>= fun t => ev.nodes c q rest >>= fun ts => .done (t ++ ts) := rfl

mutual

/-- A node without meaningful tags is one visit for each of its nodes. -/
theorem node_of_ignored {n : Node} (h : ∀ t ∈ n.tags, ev.Ignores t) :
    ev.node c q n = visits c n.size >>= fun _ => .done (Node.renderAll n.plain) := by
  cases n with
  | element t children =>
    have ht : ev.Ignores t := h t List.mem_cons_self
    have hall : ∀ u ∈ Node.tagsAll children, ev.Ignores u :=
      fun u hu => h u (List.mem_cons_of_mem t hu)
    rw [node, ht.tag_eq c q rfl, enclose_children, nodes_of_ignored hall, Node.size, visits_add,
      visits_one, Node.renderAll_plain_element, Evaluation.bind_assoc, Evaluation.bind_assoc]
    rfl
  | selfClosing t =>
    have ht : ev.Ignores t := h t List.mem_cons_self
    rw [node, ht.tag_eq c q rfl, Node.plain, Node.renderAll_singleton, Node.size, visits_one,
      enclose_selfClosing]
  | text t | literalBlock t =>
    rw [node, Node.plain, Node.renderAll_singleton, Node.size, visits_one]
    rfl
  | comment t =>
    rw [node, Node.plain, Node.size, visits_one]
    rfl

/-- Nodes without meaningful tags are one visit for each of their nodes. -/
theorem nodes_of_ignored {ns : List Node} (h : ∀ t ∈ Node.tagsAll ns, ev.Ignores t) :
    ev.nodes c q ns =
      visits c (Node.sizeAll ns) >>= fun _ => .done (Node.renderAll (Node.plainAll ns)) := by
  cases ns with
  | nil => rfl
  | cons n rest =>
    have hn : ∀ t ∈ n.tags, ev.Ignores t := fun t ht => h t (List.mem_append_left _ ht)
    have hrest : ∀ t ∈ Node.tagsAll rest, ev.Ignores t :=
      fun t ht => h t (List.mem_append_right _ ht)
    rw [nodes_cons, node_of_ignored hn, nodes_of_ignored hrest, Node.sizeAll,
      Node.renderAll_plainAll_cons, visits_add, Evaluation.bind_assoc, Evaluation.bind_assoc]
    refine congrArg _ (funext fun _ => ?_)
    rw [done_bind, Evaluation.bind_assoc]
    rfl

end

end Evaluator

/-! ## Running -/

section Run

variable (env : Environment σ) (budget : Budget) (chance : Chance)

/-- **Markup that no tag claims passes through.** If the budget allows for as many visits as the
document has nodes, the document is given back without its comments and with its literal blocks
as bare text. Otherwise the budget is exceeded, at the first visit that is one too many or comes
too late. In either case nothing is asked for but visits, one for each node that is reached. -/
theorem run_evaluate_of_ignored (ev : Evaluator) (c : Context) {d : Document}
    (h : ∀ t ∈ Node.tagsAll d, ev.Ignores t) (turn : Turn σ) :
    let run := (ev.evaluate c d).run env budget chance turn
    let trace := (ev.evaluate c d).trace env budget chance turn
    ((∀ k < Node.sizeAll d, ¬ budget.time < chance.elapsed (turn.steps + k + 1)) →
      run = (if Node.sizeAll d ≤ budget.steps - turn.steps then
          (.ok (Document.render (Node.plainAll d)), turn.later (Node.sizeAll d))
        else (.error (.budget (.steps budget.steps)),
          turn.later (budget.steps - turn.steps + 1))) ∧
      trace = List.replicate (min (Node.sizeAll d) (budget.steps - turn.steps + 1))
        (.visit c.depth)) ∧
    ∀ k < Node.sizeAll d, (∀ j < k, budget.excess? chance (turn.steps + j + 1) = none) →
      ∀ excess, budget.excess? chance (turn.steps + k + 1) = some excess →
        run = (.error (.budget excess), turn.later (k + 1)) ∧
          trace = List.replicate (k + 1) (.visit c.depth) := by
  intro run trace
  have hvisits : ev.evaluate c d =
      visits c (Node.sizeAll d) >>= fun _ => .done (Document.render (Node.plainAll d)) :=
    Evaluator.nodes_of_ignored c (ev.query c) h
  have hrun : run = _ := (congrArg (Evaluation.run env budget chance · turn) hvisits).trans
    (run_map env budget chance _ _ turn)
  have htrace : trace = _ := (congrArg (Evaluation.trace env budget chance · turn) hvisits).trans
    (trace_map env budget chance _ _ turn)
  have hbeyond : ∀ k < Node.sizeAll d,
      (∀ j < k, budget.excess? chance (turn.steps + j + 1) = none) →
      ∀ excess, budget.excess? chance (turn.steps + k + 1) = some excess →
        run = (.error (.budget excess), turn.later (k + 1)) ∧
          trace = List.replicate (k + 1) (.visit c.depth) := by
    intro k hk hbefore excess hexcess
    obtain ⟨hvisited, htraced⟩ := run_visits_of_excess env c hk hbefore hexcess
    rw [hrun, htrace, hvisited, htraced]
    exact ⟨rfl, rfl⟩
  refine ⟨fun htime => ?_, hbeyond⟩
  have hwithin : ∀ k < Node.sizeAll d, k < budget.steps - turn.steps →
      budget.excess? chance (turn.steps + k + 1) = none := fun k hk hroom =>
    Budget.excess?_eq_none_iff.2 ⟨by omega, htime k hk⟩
  by_cases hroom : Node.sizeAll d ≤ budget.steps - turn.steps
  · obtain ⟨hvisited, htraced⟩ := run_visits env c (Node.sizeAll d) fun k hk =>
      hwithin k hk (Nat.lt_of_lt_of_le hk hroom)
    rw [hrun, htrace, hvisited, htraced, if_pos hroom,
      Nat.min_eq_left (Nat.le_succ_of_le hroom)]
    exact ⟨rfl, rfl⟩
  · have hlast : budget.steps - turn.steps < Node.sizeAll d := Nat.lt_of_not_le hroom
    have hexcess : budget.excess? chance (turn.steps + (budget.steps - turn.steps) + 1) =
        some (.steps budget.steps) := by
      rw [Budget.excess?, if_pos (by omega)]
    rw [if_neg hroom, Nat.min_eq_right hlast]
    exact hbeyond _ hlast (fun j hj => hwithin j (Nat.lt_trans hj hlast) hj) _ hexcess

end Run

/-- Where deprecated spellings are not supported, `<birthday/>` is a tag like any other. -/
theorem run_evaluate_of_ignored_birthday :
    let ev : Evaluator := .standard { supportDeprecatedTags := false }
    let d : Document :=
      [.element ⟨"foo".toList, " bar='1'".toList⟩
        [.text "X".toList, .comment " note ".toList, .literalBlock "<y>".toList],
       .selfClosing (.bare "birthday".toList)]
    let run (steps : Nat) : Except EvalError Text × Turn SessionStore :=
      (ev.evaluate (.top [] .none) d).run (.inMemory []) ⟨steps, .ofMillis 2000⟩ default
        (.start (.fresh (.empty 32)))
    (∀ t ∈ Node.tagsAll d, ev.Ignores t) ∧
      (run 5).1 = .ok "<foo bar='1'>X<y></foo><birthday/>".toList ∧ (run 5).2.steps = 5 ∧
      (run 4).1 = .error (.budget (.steps 4)) ∧ (run 4).2.steps = 5 := by
  intro ev d run
  have h : ∀ t ∈ Node.tagsAll d, ev.Ignores t := by decide
  have htime : ¬ Duration.ofMillis 2000 < Duration.ofMillis 0 := by decide
  have hrun := fun steps => ((run_evaluate_of_ignored (.inMemory []) ⟨steps, .ofMillis 2000⟩
    default ev (.top [] .none) h (.start (.fresh (.empty 32)))).1 fun _ _ => htime).1
  have henough : run 5 = (.ok (Document.render (Node.plainAll d)), .later _ 5) := hrun 5
  have hfew : run 4 = (.error (.budget (.steps 4)), .later _ 5) := hrun 4
  rw [henough, hfew]
  exact ⟨h, by decide, rfl, rfl, rfl⟩

end Dialogue
