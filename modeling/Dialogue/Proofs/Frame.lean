import Dialogue.Proofs.History
import Dialogue.Proofs.Text.Trim

/-!
# What a rendering leaves alone

Which predicates a rendering may change can be read off the tags of its template and of those
that the matcher can give (`Environment.Settable`): whatever self-queries and expansions come
between, nothing else is written (`framed_render`). So the histories, the other sessions and all
other predicates stay as they are, and a predicate that has changed holds what was written to it
last (`render_frame`).
-/

namespace Dialogue

open Evaluation Markup

variable {α β σ τ : Type}

/-! ## Evaluations that write nothing else -/

/-- The requests of a session that give a predicate only a value that it may have. -/
inductive Request.Framed (session : SessionId) (writable : Text → Text → Prop) : Request → Prop
  | visit (depth : Nat) : Framed session writable (.visit depth)
  | select (input that topic : Text) :
      Framed session writable (.call (.select input that topic))
  | ofSession {r : Request} : r.OfSession session → (∀ w ∈ r.write?, writable w.1 w.2) →
      Framed session writable r

/-- An evaluation with such requests only, as long as it is given templates of one kind. -/
inductive Evaluation.Framed (session : SessionId) (writable : Text → Text → Prop)
    (template : Document → Prop) : Evaluation α → Prop
  | done (a : α) : Framed session writable template (.done a)
  | request {r : Request} {next : r.Answer → Evaluation α} : r.Framed session writable →
      (∀ answer, r.Gives template answer → Framed session writable template (next answer)) →
      Framed session writable template (.request r next)

namespace Evaluation.Framed

variable {session : SessionId} {writable : Text → Text → Prop} {template : Document → Prop}
  {e : Evaluation α}

theorem bind {f : α → Evaluation β} (h : Framed session writable template e)
    (hf : ∀ a, Framed session writable template (f a)) :
    Framed session writable template (e >>= f) := by
  induction h with
  | done a => exact hf a
  | request hr _ ih => exact .request hr ih

theorem orIfTooDeep (h : Framed session writable template e) (a : α) :
    Framed session writable template (e.orIfTooDeep a) := by
  induction h with
  | done b => exact .done b
  | request hr _ ih => exact .request hr ih

end Evaluation.Framed

/-- Writing nothing else, as a simulation that looks at the first side and does not count. -/
def Simulation.framed (session : SessionId) (writable : Text → Text → Prop)
    (template : Document → Prop) : Simulation where
  session := session
  depths _ _ := True
  template := template
  writable := writable
  visitCost := 0
  rel _ e _ := Evaluation.Framed session writable template e
  done := .done
  weaken _ h := h
  bind h hf := h.bind hf
  orIfTooDeep t h := h.orIfTooDeep t
  visit _ := .request (.visit _) fun _ _ => .done ()
  ask hr hw := .request (.ofSession hr hw) fun answer _ => .done answer
  select input that topic hf := .request (.select input that topic) hf

/-- The predicates that a rendering of the template may change: those that a tag sets, of the
template itself or of one that the matcher can give. -/
def Environment.Settable (env : Environment σ) (s : Settings) (template : Document) (p : Text) :
    Prop :=
  ∃ ns, (ns = template ∨ env.CanGive ns) ∧
    ∃ t ∈ Node.tagsAll ns, t.Sets s.supportDeprecatedTags p

/-- **A rendering writes trimmed values to such predicates only.** -/
theorem framed_render (env : Environment σ) (s : Settings) (session : SessionId) (stars : Stars)
    (template : Document) :
    ((Evaluator.standard s).render session stars template).Framed session
      (fun p v => env.Settable s template p ∧ Text.trim v = v) env.CanGive := by
  let sim := Simulation.framed session
    (fun p v => env.Settable s template p ∧ Text.trim v = v) env.CanGive
  have hpermits : ∀ ns, ns = template ∨ env.CanGive ns → sim.Permits s (Node.tagsAll ns) :=
    fun ns hns t ht p hsets v =>
      ⟨⟨ns, hns, t, ht, hsets⟩, Text.trim_of_trimmed (Text.trimmed_trim v)⟩
  have h : Evaluation.Framed session _ env.CanGive
      ((Evaluator.standard s).evaluate (.top session stars) template) :=
    sim.rel_evaluate s (fun _ => 0) (fun _ _ _ => Nat.le_of_eq (Nat.zero_mul _))
      (fun ns hns => hpermits ns (.inr hns)) (c := .top session stars) rfl (fun _ _ => trivial)
      (hpermits template (.inl rfl))
  exact h.bind fun t => .done (Text.trim t)

/-- What the calls of a framed run keep holds after it, however it ends. -/
theorem Evaluation.Framed.run_world {env : Environment σ} {session : SessionId}
    {writable : Text → Text → Prop} {e : Evaluation α}
    (he : e.Framed session writable env.CanGive) {P : World σ → Prop}
    (hcall : ∀ c, Request.Framed session writable (.call c) → ∀ world, P world →
      P (env.call c world).2)
    (budget : Budget) (chance : Chance) {turn : Turn σ} (hturn : P turn.world) :
    P (e.run env budget chance turn).2.world := by
  induction he generalizing turn with
  | done a => exact hturn
  | @request r next hr _ ih =>
    have hserve : P (env.serve budget chance turn r).2.world :=
      holds_serve env budget chance (fun c hc => hcall c (hc ▸ hr) turn.world hturn) hturn
    rw [Evaluation.run]
    rcases hs : env.serve budget chance turn r with ⟨error | answer, turn'⟩
    · rw [hs] at hserve
      exact hserve
    · rw [hs] at hserve
      exact ih answer (gives_of_serve hs) hserve

/-! ## The last write -/

def Event.valueSet? (session : SessionId) (name : Text) : Event → Option Text
  | ⟨.setPredicate s n value, none⟩ => if s = session ∧ n = name then some value else none
  | _ => none

def World.lastWrite? (world : World σ) (session : SessionId) (name : Text) : Option Text :=
  world.calls.findSome? (Event.valueSet? session name)

theorem World.lastWrite?_cons (world : World σ) (state : σ) (event : Event) (turns : Nat)
    (session : SessionId) (name : Text) :
    World.lastWrite? ⟨state, event :: world.calls, turns⟩ session name =
      (event.valueSet? session name).or (world.lastWrite? session name) := by
  rw [lastWrite?, List.findSome?_cons]
  cases event.valueSet? session name <;> rfl

/-- What was written since the store was as given: only values that a predicate of the session may
have, and every predicate holds the last one. -/
structure World.KeepsFrame (session : SessionId) (writable : Text → Text → Prop)
    (store : SessionStore) (world : World (SessionStore × τ)) : Prop where
  history : ∀ other kind, (world.state.1.state other).history kind =
    (store.state other).history kind
  predicate : ∀ other name, world.state.1.predicate? other name =
    (world.lastWrite? other name).or (store.predicate? other name)
  written : ∀ other name value, world.lastWrite? other name = some value →
    other = session ∧ writable name value

theorem World.keepsFrame_start (session : SessionId) (writable : Text → Text → Prop)
    (store : SessionStore) (state : τ) :
    (Turn.start (.fresh (store, state))).world.KeepsFrame session writable store where
  history _ _ := rfl
  predicate _ _ := rfl
  written _ _ _ := nofun

section WithMatcher

variable {select : Text → Text → Text → τ → Except MatcherError (Option Selection) × τ}
  {categoryCount : τ → Nat} {session : SessionId}
  {writable : Text → Text → Prop} {store : SessionStore} {world : World (SessionStore × τ)}

/-- A call that writes nothing changes nothing. -/
theorem World.KeepsFrame.call_of_write?_eq_none (h : world.KeepsFrame session writable store)
    {c : Call} (hpush : c.isPush = false) (hwrite : (Request.call c).write? = none) :
    ((Environment.withMatcher select categoryCount).call c world).2.KeepsFrame session writable
      store := by
  obtain ⟨failure, hworld⟩ := (Environment.withMatcher select categoryCount).call_snd c world
  have hstore : ((Environment.withMatcher select categoryCount).answer c world.state).2.1 =
      world.state.1 := by
    cases c with
    | predicate | history | select => rfl
    | setPredicate => cases hwrite
    | pushHistory => cases hpush
  have hevent : ∀ other name, Event.valueSet? other name ⟨c, failure⟩ = none := by
    intro other name
    cases c with
    | predicate | history | select | pushHistory => rfl
    | setPredicate => cases hwrite
  rw [hworld]
  constructor
  · intro other kind
    rw [hstore]
    exact h.history other kind
  · intro other name
    rw [World.lastWrite?_cons, hevent, hstore]
    exact h.predicate other name
  · intro other name value hvalue
    rw [World.lastWrite?_cons, hevent] at hvalue
    exact h.written other name value hvalue

/-- A predicate of the session is given a value that it may have. -/
theorem World.KeepsFrame.setPredicate (h : world.KeepsFrame session writable store)
    {name value : Text} (hw : writable name value) :
    ((Environment.withMatcher select categoryCount).call (.setPredicate session name value)
      world).2.KeepsFrame session writable store := by
  have hworld : ((Environment.withMatcher select categoryCount).call
      (.setPredicate session name value) world).2 =
      ⟨(world.state.1.setPredicate session name value, world.state.2),
        ⟨.setPredicate session name value, none⟩ :: world.calls, world.turns⟩ := rfl
  rw [hworld]
  constructor
  · intro other kind
    rw [SessionStore.history_setPredicate]
    exact h.history other kind
  · intro other key
    rw [World.lastWrite?_cons, SessionStore.predicate?_setPredicate, Event.valueSet?]
    split
    · rfl
    · exact h.predicate other key
  · intro other key given hgiven
    rw [World.lastWrite?_cons, Event.valueSet?] at hgiven
    split at hgiven
    · next heq =>
      obtain ⟨rfl, rfl⟩ := heq
      obtain rfl : value = given := Option.some.inj hgiven
      exact ⟨rfl, hw⟩
    · exact h.written other key given hgiven

theorem World.KeepsFrame.call (h : world.KeepsFrame session writable store) {c : Call}
    (hc : Request.Framed session writable (.call c)) :
    ((Environment.withMatcher select categoryCount).call c world).2.KeepsFrame session writable
      store := by
  cases hc with
  | select input that topic => exact h.call_of_write?_eq_none rfl rfl
  | ofSession hsession hw =>
    cases hsession with
    | predicate | history => exact h.call_of_write?_eq_none rfl rfl
    | setPredicate name value => exact h.setPredicate (hw (name, value) rfl)

variable (select categoryCount) in
/-- **A rendering changes only what its tags say.** The histories of all sessions stay as they
are, and so do the predicates of all other sessions. Of its own session it changes no predicate
but those that a tag sets, of its template or of one that the matcher can give; and one that has
changed holds what the last successful write to it wrote, which is trimmed. All this holds whether
or not the rendering fails. -/
theorem render_frame (s : Settings) (fortune : Fortune) (session : SessionId) (stars : Stars)
    (template : Document) (store : SessionStore) (state : τ) :
    let env := Environment.withMatcher select categoryCount
    let bot : Bot (SessionStore × τ) := ⟨.standard s, env, fortune⟩
    let world := (bot.render session stars template (.fresh (store, state))).2
    let after := world.state.1
    (∀ other kind, (after.state other).history kind = (store.state other).history kind) ∧
    (∀ other p, other ≠ session → after.predicate? other p = store.predicate? other p) ∧
    (∀ p, ¬ env.Settable s template p →
      after.predicate? session p = store.predicate? session p) ∧
    ∀ p, after.predicate? session p ≠ store.predicate? session p →
      ∃ value, world.lastWrite? session p = some value ∧ Text.trim value = value ∧
        after.predicate? session p = some value := by
  intro env bot world after
  have hframe : world.KeepsFrame session
      (fun p v => env.Settable s template p ∧ Text.trim v = v) store :=
    (framed_render env s session stars template).run_world (fun _ hc _ h => h.call hc) s.budget
      (bot.chance 1) (World.keepsFrame_start session _ store state)
  have hunwritten : ∀ other p, world.lastWrite? other p = none →
      after.predicate? other p = store.predicate? other p := by
    intro other p hnone
    have hpredicate := hframe.predicate other p
    rwa [hnone] at hpredicate
  refine ⟨hframe.history, fun other p hother => ?_, fun p hp => ?_, fun p hchanged => ?_⟩
  · apply hunwritten
    rw [Option.eq_none_iff_forall_ne_some]
    exact fun value hvalue => hother (hframe.written other p value hvalue).1
  · apply hunwritten
    rw [Option.eq_none_iff_forall_ne_some]
    exact fun value hvalue => hp (hframe.written session p value hvalue).2.1
  · cases hlast : world.lastWrite? session p with
    | none => exact absurd (hunwritten session p hlast) hchanged
    | some value =>
      have hpredicate := hframe.predicate session p
      rw [hlast] at hpredicate
      exact ⟨value, rfl, (hframe.written session p value hlast).2.2, hpredicate⟩

end WithMatcher

/-- A matcher that answers everything by remembering a mood. The template that asks it sets
nothing by itself, and the name stays unknown. -/
theorem render_frame_mood :
    let mood : Document := [.element (.bare "set_mood".toList) [.text " good ".toList]]
    let env : Environment (SessionStore × Unit) := .withMatcher
      (fun _ _ _ _ => (.ok (some ⟨mood, .none⟩), ())) (fun _ => 1)
    let bot : Bot (SessionStore × Unit) := ⟨.standard {}, env, default⟩
    let template : Document := [.element (.bare "srai".toList) [.text "hello".toList]]
    let world := (bot.render [] .none template (.fresh (.empty 32, ()))).2
    world.state.1.predicate? [] "mood".toList = some "good".toList ∧
      world.lastWrite? [] "mood".toList = some "good".toList ∧
      ¬ env.Settable {} template "name".toList ∧
      world.state.1.predicate? [] "name".toList = none := by
  intro mood env bot template world
  obtain ⟨-, -, hkept, hchanged⟩ := render_frame (fun _ _ _ _ => (.ok (some ⟨mood, .none⟩), ()))
    (fun _ => 1) {} default [] .none template (.empty 32) ()
  have hmood : world.state.1.predicate? [] "mood".toList = some "good".toList := by decide +kernel
  have hname : ¬ env.Settable {} template "name".toList := by
    have htags : ∀ ns ∈ [template, mood], ∀ t ∈ Node.tagsAll ns, ¬ t.Sets true "name".toList := by
      decide +kernel
    rintro ⟨ns, hns, t, ht, hsets⟩
    refine htags ns ?_ t ht hsets
    rcases hns with rfl | ⟨_, _, _, _, selection, hgiven, rfl⟩
    · exact List.mem_cons_self
    · cases hgiven
      exact List.mem_cons_of_mem _ (List.mem_singleton_self _)
  have hdiffers : world.state.1.predicate? [] "mood".toList ≠
      (SessionStore.empty 32).predicate? [] "mood".toList := by
    rw [hmood]
    exact Option.some_ne_none _
  obtain ⟨value, hlast, -, hvalue⟩ := hchanged "mood".toList hdiffers
  obtain rfl : value = "good".toList := Option.some.inj (hvalue.symm.trans hmood)
  exact ⟨hmood, hlast, hname, hkept "name".toList hname⟩

end Dialogue
