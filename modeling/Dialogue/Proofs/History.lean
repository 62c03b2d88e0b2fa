import Dialogue.Proofs.Batching
import Dialogue.Proofs.Index
import Dialogue.Proofs.Isolation
import Dialogue.Proofs.Recall
import Dialogue.Proofs.Session.Log

/-!
# The histories of a conversation

Every sentence is recorded before it is matched, and its reply afterwards, whether or not the
matcher failed. So while a sentence is answered, the history of the input ends with it and the
history of the replies with the reply to the sentence before (`converse_histories`). Nothing that
a template does moves the two histories (`Evaluation.Confined.continues_of_mem_turns`), and each
sentence moves them by one entry (`Bot.recorded_respondToSentences`).
-/

namespace Dialogue

open Evaluation Markup Text

variable {α σ τ : Type}

/-! ## The latest entries -/

/-- The entry at a place counted from 1 for the last one, if it is one of the last `limit`. -/
def latest (entries : List α) (limit n : Nat) : Option α :=
  if 1 ≤ n ∧ n ≤ min entries.length limit then entries[entries.length - n]? else none

theorem mem_of_latest {entries : List α} {limit n : Nat} {a : α}
    (h : latest entries limit n = some a) : a ∈ entries := by
  rw [latest] at h
  split at h
  · exact List.mem_of_getElem? h
  · cases h

/-- A history that keeps the latest of some entries gives the latest of them. -/
theorem SessionStore.history?_eq_latest {store : SessionStore} {session : SessionId}
    {kind : HistoryKind} {entries : List Text} {limit : Nat}
    (h : (store.state session).history kind = entries.reverse.take limit) (n : Nat) :
    store.history? session kind n = latest entries limit n := by
  cases n with
  | zero => rfl
  | succ i =>
    have hplace : store.history? session kind (i + 1) = (entries.reverse.take limit)[i]? :=
      congrArg (·[i]?) h
    rw [hplace, List.getElem?_take, latest]
    by_cases hi : i < entries.length
    · by_cases hlimit : i < limit
      · rw [if_pos hlimit, if_pos (by omega), List.getElem?_reverse hi]
        congr 1
        omega
      · rw [if_neg hlimit, if_neg (by omega)]
    · have hnone : entries.reverse[i]? = none := by
        rw [List.getElem?_eq_none_iff, List.length_reverse]
        omega
      rw [hnone, ite_self, if_neg (by omega)]

/-! ## A matcher that may fail -/

/-- Sessions in a store, and a matcher that may fail. What the matcher goes by is a `τ`, of which
nothing else is known. -/
def Environment.withMatcher
    (select : Text → Text → Text → τ → Except MatcherError (Option Selection) × τ)
    (categoryCount : τ → Nat) : Environment (SessionStore × τ) where
  answer
    | .select input that topic, state =>
      ((select input that topic state.2).1.mapError .matcher,
        (state.1, (select input that topic state.2).2))
    | c, state =>
      ((SessionStore.answer (fun _ _ _ => none) c state.1).1,
        ((SessionStore.answer (fun _ _ _ => none) c state.1).2, state.2))
  categoryCount state := categoryCount state.2

/-! ## The turns of a run -/

/-- The turns that a run goes through, the first and the last one among them. -/
def Evaluation.turns (env : Environment σ) (budget : Budget) (chance : Chance) :
    Evaluation α → Turn σ → List (Turn σ)
  | .done _, turn | .fail _, turn => [turn]
  | .request r next, turn =>
    turn :: match env.serve budget chance turn r with
      | (.ok answer, turn) => (next answer).turns env budget chance turn
      | (.error _, turn) => [turn]

section Turns

variable (env : Environment σ) (budget : Budget) (chance : Chance)

theorem run_mem_turns (e : Evaluation α) (turn : Turn σ) :
    (e.run env budget chance turn).2 ∈ e.turns env budget chance turn := by
  induction e generalizing turn with
  | done a => exact List.mem_singleton_self _
  | fail error => exact List.mem_singleton_self _
  | request r next ih =>
    rw [Evaluation.run, Evaluation.turns]
    rcases env.serve budget chance turn r with ⟨error | answer, turn'⟩
    · exact List.mem_cons_of_mem _ (List.mem_singleton_self _)
    · exact List.mem_cons_of_mem _ (ih answer turn')

/-- What the calls of a session keep holds in all turns of a confined run. -/
theorem Evaluation.Confined.of_mem_turns {session : SessionId} {depth : Nat} {e : Evaluation α}
    (he : e.Confined session depth) {P : World σ → Prop}
    (hcall : ∀ c, Request.Confined session depth (.call c) → ∀ world, P world →
      P (env.call c world).2)
    {turn : Turn σ} (hturn : P turn.world) :
    ∀ t ∈ e.turns env budget chance turn, P t.world := by
  induction he generalizing turn with
  | done a =>
    intro t ht
    obtain rfl := List.mem_singleton.1 ht
    exact hturn
  | @request r next hr _ ih =>
    have hserve : P (env.serve budget chance turn r).2.world :=
      holds_serve env budget chance (fun c hc => hcall c (hc ▸ hr) turn.world hturn) hturn
    -- the turn is the present one, or the run goes on from where the request was served
    intro t ht
    rw [Evaluation.turns] at ht
    rcases List.mem_cons.1 ht with rfl | ht
    · exact hturn
    · rcases hs : env.serve budget chance turn r with ⟨error | answer, turn'⟩
      · rw [hs] at ht hserve
        obtain rfl := List.mem_singleton.1 ht
        exact hserve
      · rw [hs] at ht hserve
        exact ih answer hserve t ht

end Turns

/-! ## What a template leaves alone -/

def Call.isPush : Call → Bool
  | .pushHistory .. => true
  | _ => false

/-- A world that comes after another one, with the histories of the session as they were. -/
structure World.Continues (session : SessionId) (earlier world : World (SessionStore × τ)) :
    Prop where
  limit : world.state.1.limit = earlier.state.1.limit
  history : ∀ kind, (world.state.1.state session).history kind =
    (earlier.state.1.state session).history kind
  calls : ∃ inner : List Event, world.calls = inner ++ earlier.calls ∧
    ∀ event ∈ inner, event.call.isPush = false

theorem World.Continues.refl (session : SessionId) (world : World (SessionStore × τ)) :
    world.Continues session world where
  limit := rfl
  history _ := rfl
  calls := ⟨[], rfl, nofun⟩

/-- To begin a turn changes nothing that is remembered. -/
theorem World.Continues.of_start {session : SessionId} {earlier world : World (SessionStore × τ)}
    (h : (Turn.start earlier).world.Continues session world) : earlier.Continues session world where
  limit := h.limit
  history := h.history
  calls := h.calls

theorem Request.Confined.not_isPush {session : SessionId} {depth : Nat} {c : Call}
    (h : Request.Confined session depth (.call c)) : c.isPush = false := by
  cases h with
  | select => rfl
  | ofSession h => cases h <;> rfl

section WithMatcher

variable {select : Text → Text → Text → τ → Except MatcherError (Option Selection) × τ}
  {categoryCount : τ → Nat}

variable (select categoryCount) in
/-- A call that is no push leaves the histories alone. -/
theorem histories_answer {c : Call} (hc : c.isPush = false) (state : SessionStore × τ)
    (session : SessionId) :
    (((Environment.withMatcher select categoryCount).answer c state).2.1.limit =
      state.1.limit) ∧
    ∀ kind, ((((Environment.withMatcher select categoryCount).answer c state).2.1).state
      session).history kind = (state.1.state session).history kind := by
  cases c with
  | predicate | history | select => exact ⟨rfl, fun _ => rfl⟩
  | setPredicate s name value =>
    exact ⟨rfl, SessionStore.history_setPredicate state.1 s session name value⟩
  | pushHistory => cases hc

theorem World.Continues.call {session : SessionId} {earlier world : World (SessionStore × τ)}
    (h : earlier.Continues session world) {c : Call} (hc : c.isPush = false) :
    earlier.Continues session
      ((Environment.withMatcher select categoryCount).call c world).2 := by
  obtain ⟨failure, hworld⟩ := (Environment.withMatcher select categoryCount).call_snd c world
  obtain ⟨hlimit, hhistory⟩ :=
    histories_answer select categoryCount hc world.state session
  obtain ⟨inner, hcalls, hinner⟩ := h.calls
  rw [hworld]
  refine ⟨hlimit.trans h.limit, fun kind => (hhistory kind).trans (h.history kind), ?_⟩
  exact ⟨⟨c, failure⟩ :: inner, congrArg (⟨c, failure⟩ :: ·) hcalls,
    List.forall_mem_cons.2 ⟨hc, hinner⟩⟩

/-- **Nothing that a template does moves the histories** of its session, in any turn of a run. -/
theorem Evaluation.Confined.continues_of_mem_turns {session : SessionId} {depth : Nat}
    {e : Evaluation α} (he : e.Confined session depth) (budget : Budget) (chance : Chance)
    (turn : Turn (SessionStore × τ)) :
    ∀ t ∈ e.turns (.withMatcher select categoryCount) budget chance turn,
      turn.world.Continues session t.world :=
  he.of_mem_turns _ budget chance (fun _ hc _ h => h.call hc.not_isPush)
    (World.Continues.refl session turn.world)

end WithMatcher

/-! ## What a conversation records -/

/-- The histories of the session are the latest of some sentences and of the replies to them. -/
structure SessionStore.Recorded (session : SessionId) (bound : Nat) (said replies : List Text)
    (store : SessionStore) : Prop where
  limit : store.limit = bound
  input : (store.state session).history .input = said.reverse.take bound
  that : (store.state session).history .that = replies.reverse.take bound

theorem SessionStore.recorded_empty (session : SessionId) (limit : Nat) :
    (SessionStore.empty limit).Recorded session limit [] [] where
  limit := rfl
  input := List.take_nil.symm
  that := List.take_nil.symm

/-- The entry that is pushed to a history of the latest entries becomes the last of them. -/
theorem SessionStore.history_pushHistory_concat {store : SessionStore} {session : SessionId}
    {kind : HistoryKind} {entries : List Text} {bound : Nat} (hlimit : store.limit = bound)
    (h : (store.state session).history kind = entries.reverse.take bound) (entry : Text) :
    ((store.pushHistory session kind entry).state session).history kind =
      (entries ++ [entry]).reverse.take bound := by
  rw [history_pushHistory, if_pos ⟨rfl, rfl⟩, h, hlimit, take_cons_take, List.reverse_append,
    List.reverse_singleton, List.singleton_append]

theorem SessionStore.history_pushHistory_of_ne {kind other : HistoryKind} (h : kind ≠ other)
    (store : SessionStore) (session : SessionId) (entry : Text) :
    ((store.pushHistory session kind entry).state session).history other =
      (store.state session).history other := by
  rw [history_pushHistory, if_neg fun hkind => h hkind.2]

namespace SessionStore.Recorded

variable {session : SessionId} {limit : Nat} {said replies : List Text}

theorem pushInput {store : SessionStore} (h : store.Recorded session limit said replies)
    (sentence : Text) :
    (store.pushHistory session .input sentence).Recorded session limit (said ++ [sentence])
      replies where
  limit := h.limit
  input := history_pushHistory_concat h.limit h.input sentence
  that := (history_pushHistory_of_ne (by decide) store session sentence).trans h.that

theorem pushThat {store : SessionStore} (h : store.Recorded session limit said replies)
    (reply : Text) :
    (store.pushHistory session .that reply).Recorded session limit said (replies ++ [reply]) where
  limit := h.limit
  input := (history_pushHistory_of_ne (by decide) store session reply).trans h.input
  that := history_pushHistory_concat h.limit h.that reply

theorem of_continues {earlier world : World (SessionStore × τ)}
    (h : earlier.state.1.Recorded session limit said replies)
    (hworld : earlier.Continues session world) :
    world.state.1.Recorded session limit said replies where
  limit := hworld.limit.trans h.limit
  input := (hworld.history .input).trans h.input
  that := (hworld.history .that).trans h.that

end SessionStore.Recorded

namespace Bot

theorem converse_session (bot : Bot σ) (session : SessionId) (inputs : List Text)
    (world : World σ) :
    (bot.converse (inputs.map fun input => (session, input)) world).2 =
      (bot.respondToSentences session
        (inputs.flatMap (sentencesOf bot.evaluator.settings)) world).2 := by
  induction inputs generalizing world with
  | nil => rfl
  | cons input inputs ih =>
    rw [List.map_cons, converse_cons, ih, List.flatMap_cons, respondToSentences_append, respond_eq]

theorem length_respondToSentences (bot : Bot σ) (session : SessionId) (sentences : List Text)
    (world : World σ) :
    (bot.respondToSentences session sentences world).1.length = sentences.length := by
  induction sentences generalizing world with
  | nil => rfl
  | cons sentence rest ih =>
    rw [respondToSentences_cons, List.length_cons, List.length_cons, ih]

section WithMatcher

variable {bot : Bot (SessionStore × τ)}
  {select : Text → Text → Text → τ → Except MatcherError (Option Selection) × τ}
  {categoryCount : τ → Nat}
  (henv : bot.environment = .withMatcher select categoryCount)

include henv

theorem record_withMatcher (session : SessionId) (kind : HistoryKind) (entry : Text)
    (world : World (SessionStore × τ)) :
    bot.record session kind entry world =
      ⟨(world.state.1.pushHistory session kind entry, world.state.2),
        ⟨.pushHistory session kind entry, none⟩ :: world.calls, world.turns⟩ := by
  rw [record, henv]
  rfl

theorem tryAnswer_continues (hbot : bot.Confined) (session : SessionId) (sentence : Text)
    (world : World (SessionStore × τ)) :
    world.Continues session (bot.tryAnswer session sentence world).2 := by
  obtain ⟨depth, hconfined⟩ := hbot session sentence
  rw [tryAnswer_eq, run, henv]
  exact (hconfined.continues_of_mem_turns _ _ (.start world) _ (run_mem_turns _ _ _ _ _)).of_start

/-- A sentence is pushed before it is answered and its reply afterwards, and nothing is pushed in
between. -/
theorem calls_respondToSentence (hbot : bot.Confined) (session : SessionId) (sentence : Text)
    (world : World (SessionStore × τ)) :
    ∃ inner : List Event, (∀ event ∈ inner, event.call.isPush = false) ∧
      (bot.respondToSentence session sentence world).2.calls =
        ⟨.pushHistory session .that (bot.respondToSentence session sentence world).1, none⟩ ::
          (inner ++ ⟨.pushHistory session .input sentence, none⟩ :: world.calls) := by
  have hanswer := tryAnswer_continues henv hbot session sentence
    (bot.record session .input sentence world)
  obtain ⟨inner, hcalls, hinner⟩ := hanswer.calls
  refine ⟨inner, hinner, ?_⟩
  rw [respondToSentence_snd, record_withMatcher henv, hcalls, record_withMatcher henv]

theorem recorded_record_input {session : SessionId} {limit : Nat} {said replies : List Text}
    {world : World (SessionStore × τ)}
    (h : world.state.1.Recorded session limit said replies) (sentence : Text) :
    (bot.record session .input sentence world).state.1.Recorded session limit
      (said ++ [sentence]) replies := by
  rw [record_withMatcher henv]
  exact h.pushInput sentence

/-- Each sentence and its reply move the histories by one entry. -/
theorem recorded_respondToSentence (hbot : bot.Confined) {session : SessionId} {limit : Nat}
    {said replies : List Text} {world : World (SessionStore × τ)}
    (h : world.state.1.Recorded session limit said replies) (sentence : Text) :
    (bot.respondToSentence session sentence world).2.state.1.Recorded session limit
      (said ++ [sentence]) (replies ++ [(bot.respondToSentence session sentence world).1]) := by
  have hasked := recorded_record_input henv h sentence
  have hanswered := hasked.of_continues (tryAnswer_continues henv hbot session sentence _)
  rw [respondToSentence_snd, record_withMatcher henv]
  exact hanswered.pushThat _

theorem recorded_respondToSentences (hbot : bot.Confined) {session : SessionId} {limit : Nat}
    {said replies : List Text} {world : World (SessionStore × τ)}
    (h : world.state.1.Recorded session limit said replies) (sentences : List Text) :
    (bot.respondToSentences session sentences world).2.state.1.Recorded session limit
      (said ++ sentences) (replies ++ (bot.respondToSentences session sentences world).1) := by
  induction sentences generalizing said replies world with
  | nil => rwa [List.append_nil, respondToSentences, List.append_nil]
  | cons sentence rest ih =>
    have hfirst := recorded_respondToSentence henv hbot h sentence
    rw [respondToSentences_cons, List.append_cons said]
    dsimp only
    rw [List.append_cons replies]
    exact ih hfirst

end WithMatcher

end Bot

/-! ## What was said is recalled -/

/-- The tag for what was said gives a sentence of the history. -/
theorem node_indexed_input (s : Settings) (c : Context) (q : Text → Evaluation Text) (n : Nat) :
    (Evaluator.standard s).node c q (.indexed "input".toList n) =
      visit c >>= fun _ =>
        historySentence s c.session .input (if n < UInt64.size then n else 1) 1 := by
  have hhandler : standardHandler? (.indexed "input".toList n) = some Tags.input := rfl
  have hindex : (Node.indexed "input".toList n).attributes.value? "index".toList =
      some (ofNat n) := by
    rw [attributes_indexed]
    rfl
  have hsentence : ∀ i : Invocation, i.settings = s → i.context = c →
      i.node = .indexed "input".toList n → Tags.sentenceOf .input i =
        historySentence s c.session .input (if n < UInt64.size then n else 1) 1 := by
    rintro i rfl rfl hnode
    rw [Tags.sentenceOf, Tags.index?, Invocation.attribute?, hnode, hindex, placeOfSentence_ofNat]
  rw [node_of_handler hhandler]
  exact congrArg (visit c >>= ·) (funext fun _ => hsentence _ rfl rfl rfl)

section Recall

variable {select : Text → Text → Text → τ → Except MatcherError (Option Selection) × τ}
  {categoryCount : τ → Nat}

/-- Where the histories are known, the tag gives what was said at its place without its markup. A
sentence that was said is a sentence by itself, so it is recalled as a whole. -/
theorem run_indexed_input {s : Settings} (hsplitters : Unspaced s.sentenceSplitters)
    (budget : Budget) (chance : Chance) {said replies : List Text} {limit : Nat}
    (hsaid : ∀ sentence ∈ said, ∃ t, sentence ∈ sentences s.sentenceSplitters t)
    {c : Context} {turn : Turn (SessionStore × τ)}
    (hturn : turn.world.state.1.Recorded c.session limit said replies)
    (hwithin : budget.excess? chance (turn.steps + 1) = none) (q : Text → Evaluation Text)
    (n : Nat) :
    (((Evaluator.standard s).node c q (.indexed "input".toList n)).run
        (.withMatcher select categoryCount) budget chance turn).1 =
      .ok (((latest said limit (if n < UInt64.size then n else 1)).map removeMarkup).getD []) := by
  have hvisit : ∀ next : Unit → Evaluation Text,
      (visit c >>= next).run (.withMatcher select categoryCount) budget chance turn =
        (next ()).run (.withMatcher select categoryCount) budget chance (turn.later 1) :=
    fun next => run_visit_within _ hwithin c.depth next
  rw [node_indexed_input, hvisit]
  generalize (if n < UInt64.size then n else 1) = place
  by_cases hplace : place = 0
  · subst hplace
    rfl
  · have hasked : ((history? c.session .input place).run (.withMatcher select categoryCount)
        budget chance (turn.later 1)).1 = .ok (latest said limit place) :=
      congrArg Except.ok (SessionStore.history?_eq_latest hturn.input place)
    rw [run_historySentence _ _ _ _ _ _ _ (Nat.one_le_iff_ne_zero.2 hplace) (Nat.le_refl 1), hasked]
    cases hlatest : latest said limit place with
    | none => rfl
    | some sentence =>
      obtain ⟨t, ht⟩ := hsaid sentence (mem_of_latest hlatest)
      have hwhole : sentenceFromEnd s sentence 1 = removeMarkup sentence := by
        rw [sentenceFromEnd, sentences_of_mem hsplitters ht]
        rfl
      exact congrArg Except.ok hwhole

/-- **The discipline of the histories.** In a conversation of one session, whatever the matcher
does, every sentence is pushed before it is matched and its reply afterwards, which is the fallback
response where nothing was found or something failed; nothing else is pushed. In every turn of the
answer to a sentence, however deep, the history of the input ends with this sentence and that of the
replies with the reply to the sentence before, so a tag recalls what was said at its place. An index
that does not fit 64 bits cannot be read and counts as the first place. -/
theorem converse_histories (s : Settings) (hsplitters : Unspaced s.sentenceSplitters)
    (select : Text → Text → Text → τ → Except MatcherError (Option Selection) × τ)
    (categoryCount : τ → Nat) (fortune : Fortune) (session : SessionId)
    (limit : Nat) (x : τ) (inputs : List Text) :
    let env := Environment.withMatcher select categoryCount
    let bot : Bot (SessionStore × τ) := ⟨.standard s, env, fortune⟩
    let start := World.fresh (SessionStore.empty limit, x)
    let sentences := inputs.flatMap (Bot.sentencesOf s)
    (bot.converse (inputs.map fun input => (session, input)) start).2 =
        (bot.respondToSentences session sentences start).2 ∧
      ∀ earlier sentence later, sentences = earlier ++ sentence :: later →
        let before := bot.respondToSentences session earlier start
        let asked := bot.record session .input sentence before.2
        let chance := bot.chance (asked.turns + 1)
        let outcome := (bot.tryAnswer session sentence asked).1
        let after := bot.respondToSentence session sentence before.2
        (bot.respondToSentences session sentences start).1 =
            before.1 ++ after.1 :: (bot.respondToSentences session later after.2).1 ∧
          before.1.length = earlier.length ∧
          (∀ answer, outcome = .ok (some answer) → after.1 = answer) ∧
          (outcome = .ok none ∨ (∃ error, outcome = .error error) →
            after.1 = s.fallbackResponse) ∧
          (∃ inner : List Event, (∀ event ∈ inner, event.call.isPush = false) ∧
            after.2.calls = ⟨.pushHistory session .that after.1, none⟩ ::
              (inner ++ ⟨.pushHistory session .input sentence, none⟩ :: before.2.calls)) ∧
          ∀ turn ∈ (bot.evaluator.answer session sentence).turns env s.budget chance
              (.start asked),
            (∀ (c : Context) (q : Text → Evaluation Text) (n : Nat), c.session = session →
              s.budget.excess? chance (turn.steps + 1) = none →
              ((bot.evaluator.node c q (.indexed "input".toList n)).run env s.budget chance
                  turn).1 =
                .ok (((latest (earlier ++ [sentence]) limit
                  (if n < UInt64.size then n else 1)).map removeMarkup).getD [])) ∧
            ∀ n, turn.world.state.1.history? session .that n = latest before.1 limit n := by
  intro env bot start sentences
  have hbot : bot.Confined := fun session sentence => ⟨_, confined_answer s session sentence⟩
  refine ⟨bot.converse_session session inputs start, ?_⟩
  intro earlier sentence later hsentences before asked chance outcome after
  have hstart : start.state.1.Recorded session limit [] [] :=
    SessionStore.recorded_empty session limit
  have hbefore : before.2.state.1.Recorded session limit earlier before.1 :=
    Bot.recorded_respondToSentences rfl hbot hstart earlier
  have hasked : asked.state.1.Recorded session limit (earlier ++ [sentence]) before.1 :=
    Bot.recorded_record_input rfl hbefore sentence
  -- what was said so far are sentences of the inputs, so each of them is a sentence by itself
  have hsaid : ∀ said ∈ earlier ++ [sentence],
      ∃ t, said ∈ Text.sentences s.sentenceSplitters t := by
    intro said hmem
    have hall : said ∈ sentences := by
      rw [hsentences, List.append_cons]
      exact List.mem_append_left later hmem
    obtain ⟨input, -, hinput⟩ := List.mem_flatMap.1 hall
    exact ⟨_, hinput⟩
  refine ⟨?_, ?_, ?_, ?_, Bot.calls_respondToSentence rfl hbot session sentence before.2, ?_⟩
  · rw [hsentences, Bot.respondToSentences_append, Bot.respondToSentences_cons]
  · exact bot.length_respondToSentences session earlier start
  · intro answer hanswer
    exact congrArg bot.reply hanswer
  · rintro (hnone | ⟨error, herror⟩)
    · exact congrArg bot.reply hnone
    · exact congrArg bot.reply herror
  · intro turn hmem
    have hconfined := confined_answer s session sentence
    have hturn : turn.world.state.1.Recorded session limit (earlier ++ [sentence]) before.1 :=
      hasked.of_continues
        (hconfined.continues_of_mem_turns s.budget chance (.start asked) turn hmem).of_start
    constructor
    · rintro c q n rfl hwithin
      exact run_indexed_input hsplitters s.budget chance hsaid hturn hwithin q n
    · exact SessionStore.history?_eq_latest hturn.that

end Recall

/-- A matcher that is available for one input only, and answers with what was said just before. -/
def justBefore (input _that _topic : Text) (state : Unit) :
    Except MatcherError (Option Selection) × Unit :=
  if input = "BYE".toList then
    (.ok (some ⟨[.indexed "input".toList 2], .none⟩), state)
  else (.error (.unavailable "not now".toList), state)

/-- Failures in between do not shift the histories against each other. -/
theorem converse_histories_justBefore :
    let s : Settings := { fallbackResponse := "Pardon?".toList }
    let env := Environment.withMatcher justBefore (fun _ => 1)
    let bot : Bot (SessionStore × Unit) := ⟨.standard s, env, default⟩
    let before := bot.respondToSentences [] ["<b>Hi</b>.".toList, "So long.".toList]
      (.fresh (.empty 2, ()))
    let asked := bot.record [] .input "Bye.".toList before.2
    let recalled (n : Nat) := (bot.evaluator.node (.top [] .none) (fun _ => .done [])
      (.indexed "input".toList n)).run env s.budget (bot.chance 3) (.start asked)
    before.1 = ["Pardon?".toList, "Pardon?".toList] ∧
      (bot.respondToSentence [] "Bye.".toList before.2).1 = "So long.".toList ∧
      (recalled 2).1 = .ok "So long.".toList ∧ (recalled 3).1 = .ok [] ∧
      ∀ n, asked.state.1.history? [] .that n =
        latest ["Pardon?".toList, "Pardon?".toList] 2 n := by
  intro s env bot before asked recalled
  have hsplitters : Unspaced s.sentenceSplitters := by
    unfold Unspaced
    decide
  have hbefore : before.1 = ["Pardon?".toList, "Pardon?".toList] := by decide +kernel
  obtain ⟨-, hsentence⟩ := converse_histories s hsplitters justBefore (fun _ => 1)
    default [] 2 () ["<b>Hi</b>. So long.".toList, "Bye.".toList]
  obtain ⟨-, -, hanswer, -, -, hturns⟩ := hsentence ["<b>Hi</b>.".toList, "So long.".toList]
    "Bye.".toList [] (by decide +kernel)
  obtain ⟨hinput, hthat⟩ := hturns (.start asked) List.mem_cons_self
  refine ⟨hbefore, hanswer "So long.".toList (by decide +kernel), ?_, ?_, ?_⟩
  · exact (hinput _ _ 2 rfl (by decide)).trans (by decide +kernel)
  · exact (hinput _ _ 3 rfl (by decide)).trans (by decide +kernel)
  · rw [← hbefore]
    exact hthat

/-- An index that does not fit 64 bits recalls the sentence at hand, although there is none at its
place. -/
theorem input_index_too_large :
    let i := 2 ^ 64
    let select (_ _ _ : Text) (state : Unit) : Except MatcherError (Option Selection) × Unit :=
      (.ok (some ⟨[.indexed "input".toList i], .none⟩), state)
    let env := Environment.withMatcher select (fun _ => 1)
    let bot : Bot (SessionStore × Unit) := ⟨.standard {}, env, default⟩
    Bot.sentencesOf {} "hello".toList = ["hello".toList] ∧
      ((latest ["hello".toList] 32 i).map removeMarkup).getD [] = [] ∧
      (bot.respond [] "hello".toList (.fresh (.empty 32, ()))).1 = "hello".toList := by
  decide +kernel

end Dialogue
