import Dialogue.Proofs.Evaluation.Confined
import Dialogue.Proofs.Session.Store

/-!
# Sessions do not interfere

Everything that is done to reply to what is said in a session is a call of that session. So
the replies in a session, and what is remembered of it, are what they would be if there were
no other session (`converse_isolated`). Shown for two runs at once: their states are related
in a way that calls of the session respect, and what they leave to chance is the same turn by
turn. The numbers of these turns differ: among others, a session begins only some of them
(`Bot.turnNumbers`).
-/

namespace Dialogue

open Evaluation

variable {α σ : Type}

/-! ## Two runs -/

/-- Calls of the session see no difference between related states and leave related states
behind. -/
structure Environment.Respects (env : Environment σ) (session : SessionId)
    (rel : σ → σ → Prop) : Prop where
  answer : ∀ {c : Call}, (∀ s ∈ c.session?, s = session) → ∀ {a b : σ}, rel a b →
    (env.answer c a).1 = (env.answer c b).1 ∧ rel (env.answer c a).2 (env.answer c b).2
  categoryCount : ∀ {a b : σ}, rel a b → env.categoryCount a = env.categoryCount b

/-- Turns in related states, after as many visits and readings and the same random choices. -/
structure Turn.Related (rel : σ → σ → Prop) (t u : Turn σ) : Prop where
  steps : t.steps = u.steps
  draws : t.draws = u.draws
  readings : t.readings = u.readings
  state : rel t.world.state u.world.state

theorem Request.Confined.session_eq {session : SessionId} {depth : Nat} {c : Call}
    (h : Request.Confined session depth (.call c)) : ∀ s ∈ c.session?, s = session := by
  intro s hs
  cases h with
  | select => cases hs
  | ofSession h => cases h <;> exact (Option.some.inj hs).symm

namespace Environment.Respects

variable {env : Environment σ} {session : SessionId} {rel : σ → σ → Prop}

theorem call (henv : env.Respects session rel) {c : Call} (hc : ∀ s ∈ c.session?, s = session)
    {v w : World σ} (h : rel v.state w.state) :
    (env.call c v).1 = (env.call c w).1 ∧ rel (env.call c v).2.state (env.call c w).2.state := by
  obtain ⟨hanswer, hstate⟩ := henv.answer hc h
  unfold Environment.call
  rcases hv : env.answer c v.state with ⟨answer | answer, a⟩ <;>
    rcases hw : env.answer c w.state with ⟨answer' | answer', b⟩ <;>
    rw [hv, hw] at hanswer hstate <;>
    cases hanswer <;>
    exact ⟨rfl, hstate⟩

theorem serve (henv : env.Respects session rel) {depth : Nat} {r : Request}
    (hr : r.Confined session depth) (budget : Budget) (chance : Chance) {t u : Turn σ}
    (h : Turn.Related rel t u) :
    (env.serve budget chance t r).1 = (env.serve budget chance u r).1 ∧
      Turn.Related rel (env.serve budget chance t r).2 (env.serve budget chance u r).2 := by
  cases r with
  | visit d =>
    simp only [Environment.serve, h.steps, true_and]
    exact ⟨rfl, h.draws, h.readings, h.state⟩
  | steps =>
    rcases hr with _ | _ | hr
    cases hr
  | choice bound =>
    simp only [Environment.serve, h.draws, true_and]
    exact ⟨h.steps, rfl, h.readings, h.state⟩
  | categoryCount => exact ⟨congrArg Except.ok (henv.categoryCount h.state), h⟩
  | now =>
    simp only [Environment.serve, h.readings, true_and]
    exact ⟨h.steps, h.draws, rfl, h.state⟩
  | call c =>
    obtain ⟨hanswer, hstate⟩ := henv.call hr.session_eq h.state
    simp only [Environment.serve]
    rcases hv : env.call c t.world with ⟨answer | answer, v⟩ <;>
      rcases hw : env.call c u.world with ⟨answer' | answer', w⟩ <;>
      rw [hv, hw] at hanswer hstate <;>
      cases hanswer <;>
      exact ⟨rfl, h.steps, h.draws, h.readings, hstate⟩

/-- **Confined runs in related states go alike** and leave related states behind. -/
theorem run (henv : env.Respects session rel) {depth : Nat} {e : Evaluation α}
    (he : e.Confined session depth) (budget : Budget) (chance : Chance) {t u : Turn σ}
    (h : Turn.Related rel t u) :
    (e.run env budget chance t).1 = (e.run env budget chance u).1 ∧
      Turn.Related rel (e.run env budget chance t).2 (e.run env budget chance u).2 := by
  induction he generalizing t u with
  | done a => exact ⟨rfl, h⟩
  | @request r next hr _ ih =>
    obtain ⟨hanswer, hturn⟩ := henv.serve hr budget chance h
    rw [Evaluation.run, Evaluation.run]
    rcases ht : env.serve budget chance t r with ⟨answer, t'⟩
    rcases hu : env.serve budget chance u r with ⟨answer', u'⟩
    rw [ht, hu] at hanswer hturn
    obtain rfl : answer = answer' := hanswer
    cases answer with
    | error error => exact ⟨rfl, hturn⟩
    | ok answer => exact ih answer hturn

end Environment.Respects

/-! ## The number of a turn -/

section Turns

variable (env : Environment σ) (budget : Budget) (chance : Chance)

theorem turns_call (c : Call) (world : World σ) : (env.call c world).2.turns = world.turns := by
  obtain ⟨failure, hcall⟩ := env.call_snd c world
  rw [hcall]

/-- A turn keeps its number to the end. -/
theorem turns_run (e : Evaluation α) (turn : Turn σ) :
    (e.run env budget chance turn).2.world.turns = turn.world.turns := by
  induction e generalizing turn with
  | done a => rfl
  | fail error => rfl
  | request r next ih =>
    have hserve : (env.serve budget chance turn r).2.world.turns = turn.world.turns :=
      holds_serve env budget chance (P := fun world => world.turns = turn.world.turns)
        (fun c _ => turns_call env c turn.world) rfl
    rw [Evaluation.run]
    rcases hs : env.serve budget chance turn r with ⟨error | answer, turn'⟩
    · rw [hs] at hserve
      exact hserve
    · rw [hs] at hserve
      exact (ih answer turn').trans hserve

end Turns

namespace Bot

variable (bot : Bot σ) (session : SessionId)

/-- Every sentence is answered in one turn. -/
theorem turns_respondToSentence (sentence : Text) (world : World σ) :
    (bot.respondToSentence session sentence world).2.turns = world.turns + 1 := by
  rw [respondToSentence_snd, record, turns_call, tryAnswer_eq, run, turns_run]
  exact congrArg (· + 1) (turns_call bot.environment _ world)

theorem turns_respondToSentences (sentences : List Text) (world : World σ) :
    (bot.respondToSentences session sentences world).2.turns =
      world.turns + sentences.length := by
  induction sentences generalizing world with
  | nil => rfl
  | cons sentence rest ih =>
    rw [respondToSentences_cons, List.length_cons, ih, turns_respondToSentence, Nat.add_assoc,
      Nat.add_comm 1]

end Bot

/-! ## Replies -/

/-- Every answer asks only for what belongs to its session. -/
def Bot.Confined (bot : Bot σ) : Prop :=
  ∀ (session : SessionId) (sentence : Text),
    ∃ depth, (bot.evaluator.answer session sentence).Confined session depth

def Alike (rel : σ → σ → Prop) (x y : α × World σ) : Prop :=
  x.1 = y.1 ∧ rel x.2.state y.2.state

namespace Bot

def withFortune (bot : Bot σ) (fortune : Fortune) : Bot σ := { bot with fortune }

section Respects

variable {bot : Bot σ} (fortune : Fortune) {session : SessionId} {rel : σ → σ → Prop}
  {v w : World σ}

theorem record_alike (henv : bot.environment.Respects session rel) (kind : HistoryKind)
    (entry : Text) (h : rel v.state w.state) :
    rel (bot.record session kind entry v).state (bot.record session kind entry w).state := by
  have hc : ∀ s ∈ (Call.pushHistory session kind entry).session?, s = session := by
    rintro s ⟨⟩
    rfl
  exact (henv.call hc h).2

theorem tryAnswer_alike (hbot : bot.Confined) (henv : bot.environment.Respects session rel)
    (sentence : Text) (h : rel v.state w.state)
    (hchance : (bot.withFortune fortune).chance (w.turns + 1) = bot.chance (v.turns + 1)) :
    Alike rel (bot.tryAnswer session sentence v)
      ((bot.withFortune fortune).tryAnswer session sentence w) := by
  obtain ⟨depth, hconfined⟩ := hbot session sentence
  have hstart : Turn.Related rel (.start v) (.start w) :=
    { steps := rfl
      draws := rfl
      readings := rfl
      state := h }
  obtain ⟨houtcome, hturn⟩ := henv.run hconfined bot.evaluator.settings.budget
    (bot.chance (v.turns + 1)) hstart
  have hother : (bot.withFortune fortune).run (bot.evaluator.answer session sentence) (.start w) =
      (bot.evaluator.answer session sentence).run bot.environment bot.evaluator.settings.budget
        (bot.chance (v.turns + 1)) (.start w) := by
    rw [← hchance]
    rfl
  rw [tryAnswer_eq, tryAnswer_eq]
  refine ⟨houtcome.trans (congrArg Prod.fst hother.symm), ?_⟩
  have hstate := hturn.state
  rw [← hother] at hstate
  exact hstate

theorem respondToSentence_alike (hbot : bot.Confined)
    (henv : bot.environment.Respects session rel) (sentence : Text) (h : rel v.state w.state)
    (hchance : (bot.withFortune fortune).chance (w.turns + 1) = bot.chance (v.turns + 1)) :
    Alike rel (bot.respondToSentence session sentence v)
      ((bot.withFortune fortune).respondToSentence session sentence w) := by
  have hinput := record_alike henv .input sentence h
  have hturns : ∀ world : World σ, (bot.record session .input sentence world).turns = world.turns :=
    turns_call bot.environment _
  obtain ⟨houtcome, hstate⟩ := tryAnswer_alike fortune hbot henv sentence hinput
    (by rw [hturns, hturns]; exact hchance)
  have hreply : (bot.respondToSentence session sentence v).1 =
      ((bot.withFortune fortune).respondToSentence session sentence w).1 := by
    rw [respondToSentence_fst, respondToSentence_fst, houtcome]
    rfl
  constructor
  · exact hreply
  · rw [respondToSentence_snd, respondToSentence_snd, hreply]
    exact record_alike henv .that _ hstate

/-- Sentences are answered alike where the turns of both runs leave the same to chance. -/
theorem respondToSentences_alike (hbot : bot.Confined)
    (henv : bot.environment.Respects session rel) (sentences : List Text)
    (h : rel v.state w.state)
    (hchance : ∀ k < sentences.length,
      (bot.withFortune fortune).chance (w.turns + k + 1) = bot.chance (v.turns + k + 1)) :
    Alike rel (bot.respondToSentences session sentences v)
      ((bot.withFortune fortune).respondToSentences session sentences w) := by
  induction sentences generalizing v w with
  | nil => exact ⟨rfl, h⟩
  | cons sentence rest ih =>
    obtain ⟨hfirst, hstate⟩ := respondToSentence_alike fortune hbot henv sentence h
      (hchance 0 (Nat.succ_pos _))
    obtain ⟨hothers, hend⟩ := ih hstate fun k hk => by
      rw [turns_respondToSentence, turns_respondToSentence, Nat.add_right_comm w.turns,
        Nat.add_right_comm v.turns]
      exact hchance (k + 1) (Nat.succ_lt_succ hk)
    rw [respondToSentences_cons, respondToSentences_cons, hfirst, hothers]
    exact ⟨rfl, hend⟩

/-- **A bot replies alike in related states** and leaves related states behind. -/
theorem respond_alike (hbot : bot.Confined) (henv : bot.environment.Respects session rel)
    (input : Text) (h : rel v.state w.state)
    (hchance : ∀ k < (sentencesOf bot.evaluator.settings input).length,
      (bot.withFortune fortune).chance (w.turns + k + 1) = bot.chance (v.turns + k + 1)) :
    Alike rel (bot.respond session input v)
      ((bot.withFortune fortune).respond session input w) := by
  obtain ⟨hreplies, hend⟩ := respondToSentences_alike fortune hbot henv
    (sentencesOf bot.evaluator.settings input) h hchance
  rw [respond_eq, respond_eq, hreplies]
  exact ⟨rfl, hend⟩

end Respects

/-! ## Sessions in memory -/

def saidIn (session : SessionId) (turns : List (SessionId × Text)) : List (SessionId × Text) :=
  turns.filter fun turn => turn.1 = session

theorem saidIn_cons (session current : SessionId) (text : Text)
    (rest : List (SessionId × Text)) :
    saidIn session ((current, text) :: rest) =
      if current = session then (current, text) :: saidIn session rest
      else saidIn session rest := by
  by_cases h : current = session <;> simp [saidIn, h]

/-- Replies to what is said in several sessions, one turn after the other. Each reply comes
with its session. -/
def converse (bot : Bot σ) :
    List (SessionId × Text) → World σ → List (SessionId × Text) × World σ
  | [], world => ([], world)
  | (session, input) :: rest, world =>
    let (reply, world) := bot.respond session input world
    let (replies, world) := bot.converse rest world
    ((session, reply) :: replies, world)

theorem converse_cons (bot : Bot σ) (session : SessionId) (input : Text)
    (rest : List (SessionId × Text)) (world : World σ) :
    bot.converse ((session, input) :: rest) world =
      ((session, (bot.respond session input world).1) ::
          (bot.converse rest (bot.respond session input world).2).1,
        (bot.converse rest (bot.respond session input world).2).2) := rfl

theorem turns_respond (bot : Bot σ) (session : SessionId) (input : Text) (world : World σ) :
    (bot.respond session input world).2.turns =
      world.turns + (sentencesOf bot.evaluator.settings input).length := by
  rw [respond_eq]
  exact bot.turns_respondToSentences session _ world

/-- The numbers of the turns in which the sentences of the session are answered, where so many
turns have begun before. -/
def turnNumbers (s : Settings) (session : SessionId) (begun : Nat) :
    List (SessionId × Text) → List Nat
  | [] => []
  | (current, input) :: rest =>
    let count := (sentencesOf s input).length
    let numbers := turnNumbers s session (begun + count) rest
    if current = session then List.range' (begun + 1) count ++ numbers else numbers

end Bot

/-- Stores that agree on the session, of which the first one agrees with the store before on
all others. -/
structure SessionStore.AgreeFrom (before : SessionStore) (session : SessionId)
    (a b : SessionStore) : Prop where
  own : SessionStore.Agree session a b
  others : ∀ other, other ≠ session → SessionStore.Agree other before a

theorem respects_agreeFrom (categories : CategoryList) (session : SessionId)
    (before : SessionStore) :
    (Environment.inMemory categories).Respects session (before.AgreeFrom session) := by
  constructor
  · intro c hc a b h
    obtain ⟨hanswer, hagree⟩ := h.own.answer categories.select? hc
    have hothers : ∀ other, other ≠ session → SessionStore.Agree other before
        (SessionStore.answer categories.select? c a).2 := by
      intro other hother
      exact (h.others other hother).trans (SessionStore.agree_answer categories.select? hc hother a)
    exact ⟨hanswer, hagree, hothers⟩
  · intro a b _
    rfl

section InMemory

variable {bot : Bot SessionStore} {categories : CategoryList}

/-- What is said in a session goes alike where stores agree on the session and the same is left to
chance, and it leaves the other sessions as they are. -/
theorem respond_agree (fortune : Fortune) (hbot : bot.Confined)
    (henv : bot.environment = .inMemory categories) (session : SessionId) (input : Text)
    {v w : World SessionStore} (h : SessionStore.Agree session v.state w.state)
    (hchance : ∀ k < (Bot.sentencesOf bot.evaluator.settings input).length,
      (bot.withFortune fortune).chance (w.turns + k + 1) = bot.chance (v.turns + k + 1)) :
    (bot.respond session input v).1 = ((bot.withFortune fortune).respond session input w).1 ∧
      SessionStore.Agree session (bot.respond session input v).2.state
        ((bot.withFortune fortune).respond session input w).2.state ∧
      ∀ other, other ≠ session →
        SessionStore.Agree other v.state (bot.respond session input v).2.state := by
  have hrespects : bot.environment.Respects session (v.state.AgreeFrom session) := by
    rw [henv]
    exact respects_agreeFrom categories session v.state
  have hstart : v.state.AgreeFrom session v.state w.state :=
    ⟨h, fun other _ => SessionStore.Agree.refl other v.state⟩
  obtain ⟨hreply, hend⟩ := Bot.respond_alike fortune hbot hrespects input hstart hchance
  exact ⟨hreply, hend.own, hend.others⟩

theorem respond_others (hbot : bot.Confined) (henv : bot.environment = .inMemory categories)
    (session : SessionId) (input : Text) (world : World SessionStore) {other : SessionId}
    (hother : other ≠ session) :
    SessionStore.Agree other world.state (bot.respond session input world).2.state := by
  have hself := SessionStore.Agree.refl session world.state
  obtain ⟨-, -, hothers⟩ := respond_agree bot.fortune hbot henv session input hself
    fun _ _ => rfl
  exact hothers other hother

/-- A session goes on among others as it does alone, if its turns leave the same to chance. -/
theorem converse_agree (hbot : bot.Confined) (henv : bot.environment = .inMemory categories)
    {fortune : Fortune} (session : SessionId) (turns : List (SessionId × Text))
    {v w : World SessionStore} (h : SessionStore.Agree session v.state w.state)
    (hchance : ∀ k number,
      (Bot.turnNumbers bot.evaluator.settings session v.turns turns)[k]? = some number →
      (bot.withFortune fortune).chance (w.turns + k + 1) = bot.chance number) :
    Bot.saidIn session (bot.converse turns v).1 =
        ((bot.withFortune fortune).converse (Bot.saidIn session turns) w).1 ∧
      SessionStore.Agree session (bot.converse turns v).2.state
        ((bot.withFortune fortune).converse (Bot.saidIn session turns) w).2.state := by
  induction turns generalizing v w with
  | nil => exact ⟨rfl, h⟩
  | cons turn rest ih =>
    obtain ⟨current, input⟩ := turn
    rw [Bot.turnNumbers] at hchance
    by_cases hcurrent : current = session
    · -- What is said in the session is said in both runs, and takes as many turns in both.
      obtain rfl := hcurrent
      rw [if_pos rfl] at hchance
      obtain ⟨hreply, hagree, -⟩ := respond_agree fortune hbot henv current input h fun k hk => by
        apply hchance
        rw [List.getElem?_append_left (by rwa [List.length_range']), List.getElem?_range' hk,
          Nat.one_mul, Nat.add_right_comm]
      have hturns : ((bot.withFortune fortune).respond current input w).2.turns =
          w.turns + (Bot.sentencesOf bot.evaluator.settings input).length :=
        (bot.withFortune fortune).turns_respond current input w
      obtain ⟨hreplies, hend⟩ := ih hagree fun k number hk => by
        rw [Bot.turns_respond] at hk
        rw [hturns, Nat.add_assoc w.turns]
        apply hchance
        rw [List.getElem?_append_right (by rw [List.length_range']; exact Nat.le_add_right _ _),
          List.length_range', Nat.add_sub_cancel_left]
        exact hk
      rw [Bot.saidIn_cons, if_pos rfl, Bot.converse_cons, Bot.converse_cons, Bot.saidIn_cons,
        if_pos rfl, hreplies, hreply]
      exact ⟨rfl, hend⟩
    · -- What is said in another session is said in the first run only, and the session stays.
      rw [if_neg hcurrent] at hchance
      have hkept := respond_others hbot henv current input v (Ne.symm hcurrent)
      obtain ⟨hreplies, hend⟩ := ih (hkept.symm.trans h) fun k number hk => by
        rw [Bot.turns_respond] at hk
        exact hchance k number hk
      rw [Bot.saidIn_cons, if_neg hcurrent, Bot.converse_cons, Bot.saidIn_cons,
        if_neg hcurrent]
      exact ⟨hreplies, hend⟩

end InMemory

/-- **Sessions do not interfere.** Let the random choices begin from a seed. In a conversation of
many sessions, what is replied in one and what is remembered of it are as if there were no other,
where its turns have the clock that they have among the others; and what is said in a session
changes nothing that is remembered of another one. -/
theorem converse_isolated (s : Settings) {seed : Nat} (hseed : s.randomSeed = some seed)
    (categories : CategoryList) (fortune : Fortune) (session : SessionId)
    (turns : List (SessionId × Text)) (store : SessionStore) (clock : Nat → Clock)
    (hclock : ∀ k number, (Bot.turnNumbers s session 0 turns)[k]? = some number →
      clock (k + 1) = fortune.clock number) :
    let bot : Bot SessionStore := ⟨.standard s, .inMemory categories, fortune⟩
    let lone : Bot SessionStore := bot.withFortune { fortune with clock }
    let together := bot.converse turns (.fresh store)
    let alone := lone.converse (Bot.saidIn session turns) (.fresh (store.only session))
    Bot.saidIn session together.1 = alone.1 ∧
      together.2.state.sessions.get? session = alone.2.state.sessions.get? session ∧
      ∀ (other : SessionId) (input : Text) (world : World SessionStore), other ≠ session →
        (bot.respond session input world).2.state.sessions.get? other =
          world.state.sessions.get? other := by
  intro bot lone together alone
  have hbot : bot.Confined := fun session sentence => ⟨_, confined_answer s session sentence⟩
  have hstart : SessionStore.Agree session (World.fresh store).state
      (World.fresh (store.only session)).state := SessionStore.agree_only store session
  have hchance : ∀ k number, (Bot.turnNumbers s session 0 turns)[k]? = some number →
      lone.chance (0 + k + 1) = bot.chance number := by
    intro k number hk
    have hsame : ∀ n, bot.chance n = { fortune.clock n with choice := fortune.seeded seed } := by
      intro n
      simp only [bot, Bot.chance, Fortune.chance, Evaluator.standard, hseed]
    have hlone : ∀ n, lone.chance n = { clock n with choice := fortune.seeded seed } := by
      intro n
      simp only [lone, bot, Bot.withFortune, Bot.chance, Fortune.chance, Evaluator.standard, hseed]
    rw [hsame, hlone, Nat.zero_add, hclock k number hk]
  obtain ⟨hreplies, hend⟩ := converse_agree hbot rfl session turns hstart hchance
  refine ⟨hreplies, hend.sessions, ?_⟩
  intro other input world hother
  exact (respond_others hbot rfl session input world hother).sessions.symm

def takeNote : Category :=
  { pattern := [.wildcard .star]
    that := [.wildcard .star]
    topic := [.wildcard .star]
    template := [.element ⟨"set".toList, " name=\"met\"".toList⟩ [.text "yes".toList]] }

/-- The turn of the other session stands between the two of this one. -/
theorem converse_isolated_takeNote :
    let s : Settings := { randomSeed := some 7 }
    let bot : Bot SessionStore := ⟨.standard s, .inMemory [takeNote], default⟩
    let turns : List (SessionId × Text) := [("ann".toList, "Hello.".toList),
      ("bob".toList, "Hello.".toList), ("ann".toList, "Bye.".toList)]
    let store := SessionStore.empty 32
    let together := bot.converse turns (.fresh store)
    let alone := bot.converse (Bot.saidIn "ann".toList turns)
      (.fresh (store.only "ann".toList))
    Bot.turnNumbers s "ann".toList 0 turns = [1, 3] ∧
      Bot.saidIn "ann".toList together.1 = alone.1 ∧
      (bot.respond "ann".toList "Bye.".toList together.2).2.state.sessions.get? "bob".toList =
        together.2.state.sessions.get? "bob".toList := by
  intro s bot turns store together alone
  dsimp only [together, alone, bot]
  have hne : "bob".toList ≠ "ann".toList := by decide
  obtain ⟨hreplies, -, hothers⟩ := converse_isolated s rfl [takeNote] default "ann".toList turns
    store (default : Fortune).clock fun _ _ _ => rfl
  exact ⟨by decide +kernel, hreplies, hothers "bob".toList "Bye.".toList _ hne⟩

end Dialogue
