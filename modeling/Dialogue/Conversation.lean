import Dialogue.Evaluation.Evaluator
import Dialogue.Evaluation.Run
import Dialogue.Text.Occurrence

/-!
# Conversations

What is said to the bot is cut into sentences, and every sentence is answered on its own:
recorded, matched, answered by the template of the category, and the answer recorded before
the next sentence. A sentence that nothing answers or whose template fails gets the fallback
response.
-/

namespace Dialogue

open Evaluation

/-- The answer to a sentence, if a category matches it. -/
def Evaluator.answer (ev : Evaluator) (session : SessionId) (sentence : Text) :
    Evaluation (Option Text) := do
  match ← findCategory ev.settings session sentence with
  | some selection => return some (← ev.render session selection.stars selection.template)
  | none => return none

/-- What a bot leaves to chance in all its turns, which are counted from 1. -/
structure Fortune where
  /-- The choices that follow from a seed. -/
  seeded : Nat → Choices
  /-- The choices of a turn that has no seed. -/
  unseeded : Nat → Choices
  clock : Nat → Clock
deriving Inhabited

/-- The chance of one turn. Every turn that has a seed begins anew from it. -/
def Fortune.chance (fortune : Fortune) (seed : Option Nat) (turn : Nat) : Chance where
  toClock := fortune.clock turn
  choice :=
    match seed with
    | some seed => fortune.seeded seed
    | none => fortune.unseeded turn

/-- A bot: how it evaluates templates, what is around it, and what it leaves to chance. -/
structure Bot (σ : Type) where
  evaluator : Evaluator
  environment : Environment σ
  fortune : Fortune

namespace Bot

variable {σ α : Type}

def chance (bot : Bot σ) (turn : Nat) : Chance :=
  bot.fortune.chance bot.evaluator.settings.randomSeed turn

def run (bot : Bot σ) (e : Evaluation α) (turn : Turn σ) : Except EvalError α × Turn σ :=
  e.run bot.environment bot.evaluator.settings.budget (bot.chance turn.world.turns) turn

/-- Renders a template in a turn of its own. -/
def render (bot : Bot σ) (session : SessionId) (stars : Stars) (template : Markup.Document)
    (world : World σ) : Except EvalError Text × World σ :=
  let (outcome, turn) := bot.run (bot.evaluator.render session stars template) (.start world)
  (outcome, turn.world)

def tryAnswer (bot : Bot σ) (session : SessionId) (sentence : Text) (world : World σ) :
    Except EvalError (Option Text) × World σ :=
  let (outcome, turn) := bot.run (bot.evaluator.answer session sentence) (.start world)
  (outcome, turn.world)

/-- Makes an entry the latest one of a history. That this fails has no consequence. -/
def record (bot : Bot σ) (session : SessionId) (kind : HistoryKind) (entry : Text)
    (world : World σ) : World σ :=
  (bot.environment.call (.pushHistory session kind entry) world).2

def reply (bot : Bot σ) : Except EvalError (Option Text) → Text
  | .ok (some answer) => answer
  | .ok none | .error _ => bot.evaluator.settings.fallbackResponse

/-- Replies to a sentence and records both. -/
def respondToSentence (bot : Bot σ) (session : SessionId) (sentence : Text) (world : World σ) :
    Text × World σ :=
  let (outcome, world) :=
    bot.tryAnswer session sentence (bot.record session .input sentence world)
  let reply := bot.reply outcome
  (reply, bot.record session .that reply world)

def respondToSentences (bot : Bot σ) (session : SessionId) :
    List Text → World σ → List Text × World σ
  | [], world => ([], world)
  | sentence :: rest, world =>
    let (reply, world) := bot.respondToSentence session sentence world
    let (replies, world) := bot.respondToSentences session rest world
    (reply :: replies, world)

/-- The sentences of what was said, after the substitutions for input. -/
def sentencesOf (settings : Settings) (input : Text) : List Text :=
  Text.sentences settings.sentenceSplitters
    (Text.substituteIgnoreCase settings.substitutions.input input)

def joinReplies (replies : List Text) : Text :=
  Text.trim (Text.join [' '] (replies.filter (fun reply => !reply.isEmpty)))

def respond (bot : Bot σ) (session : SessionId) (input : Text) (world : World σ) :
    Text × World σ :=
  let (replies, world) :=
    bot.respondToSentences session (sentencesOf bot.evaluator.settings input) world
  (joinReplies replies, world)

/-! ## The steps of a turn -/

section Steps

variable (bot : Bot σ) (session : SessionId)

theorem render_eq (stars : Stars) (template : Markup.Document) (world : World σ) :
    bot.render session stars template world =
      ((bot.run (bot.evaluator.render session stars template) (.start world)).1,
        (bot.run (bot.evaluator.render session stars template) (.start world)).2.world) := rfl

theorem tryAnswer_eq (sentence : Text) (world : World σ) :
    bot.tryAnswer session sentence world =
      ((bot.run (bot.evaluator.answer session sentence) (.start world)).1,
        (bot.run (bot.evaluator.answer session sentence) (.start world)).2.world) := rfl

theorem respondToSentence_fst (sentence : Text) (world : World σ) :
    (bot.respondToSentence session sentence world).1 =
      bot.reply (bot.tryAnswer session sentence (bot.record session .input sentence world)).1 :=
  rfl

theorem respondToSentence_snd (sentence : Text) (world : World σ) :
    (bot.respondToSentence session sentence world).2 =
      bot.record session .that (bot.respondToSentence session sentence world).1
        (bot.tryAnswer session sentence (bot.record session .input sentence world)).2 := rfl

theorem respondToSentences_cons (sentence : Text) (rest : List Text) (world : World σ) :
    bot.respondToSentences session (sentence :: rest) world =
      ((bot.respondToSentence session sentence world).1 ::
          (bot.respondToSentences session rest
            (bot.respondToSentence session sentence world).2).1,
        (bot.respondToSentences session rest
          (bot.respondToSentence session sentence world).2).2) := rfl

theorem respond_eq (input : Text) (world : World σ) :
    bot.respond session input world =
      (joinReplies (bot.respondToSentences session
          (sentencesOf bot.evaluator.settings input) world).1,
        (bot.respondToSentences session (sentencesOf bot.evaluator.settings input) world).2) :=
  rfl

end Steps

end Bot

end Dialogue
