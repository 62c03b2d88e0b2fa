import Dialogue.Evaluation.Basic
import Dialogue.Settings.Basic
import Dialogue.Text.Normal
import Dialogue.Text.Sentence

/-!
# Queries

What a template can find out about its session, and the search for the category that answers
a text in the context of the session.
-/

namespace Dialogue

/-- Where a node is evaluated: in which session, with which wildcards, and how many
self-queries deep. -/
structure Context where
  session : SessionId
  stars : Stars
  depth : Nat
deriving DecidableEq, Repr

namespace Context

/-- The context of a template that is no part of a self-query. -/
def top (session : SessionId) (stars : Stars) : Context := ⟨session, stars, 0⟩

def deeper (c : Context) (stars : Stars) : Context := ⟨c.session, stars, c.depth + 1⟩

def tooDeep (c : Context) (limit : Nat) : EvalError := .recursionLimit (c.depth + 1) limit

/-- The context one self-query deeper, if the limit allows it. -/
def nested (c : Context) (stars : Stars) (limit : Nat) : Except EvalError Context :=
  if c.depth < limit then .ok (c.deeper stars) else .error (c.tooDeep limit)

end Context

namespace Evaluation

def visit (context : Context) : Evaluation Unit := ask (.visit context.depth)

def steps : Evaluation Nat := ask .steps

def choice (bound : Nat) : Evaluation (Fin (bound + 1)) := ask (.choice bound)

def categoryCount : Evaluation Nat := ask .categoryCount

def now : Evaluation Moment := ask .now

/-! ## The session -/

/-- The value of a predicate, if it was ever set. -/
def predicate? (session : SessionId) (name : Text) : Evaluation (Option Text) :=
  call (.predicate session name)

/-- The value of a predicate, or the default value. -/
def predicate (settings : Settings) (session : SessionId) (name : Text) : Evaluation Text := do
  return (← predicate? session name).getD settings.defaultPredicateValue

def setPredicate (session : SessionId) (name value : Text) : Evaluation Unit :=
  call (.setPredicate session name value)

def history? (session : SessionId) (kind : HistoryKind) (index : Nat) :
    Evaluation (Option Text) :=
  call (.history session kind index)

/-- The sentence of an entry at the given place, counted from 1 for the last one, without
markup. -/
def sentenceFromEnd (settings : Settings) (entry : Text) (sentence : Nat) : Text :=
  match sentence with
  | 0 => []
  | i + 1 =>
    (((Text.sentences settings.sentenceSplitters entry).reverse[i]?).map Text.removeMarkup).getD []

/-- A sentence of an entry of a history. Entries and sentences are both counted from 1 for
the latest one; there is nothing at the place 0. -/
def historySentence (settings : Settings) (session : SessionId) (kind : HistoryKind)
    (turn sentence : Nat) : Evaluation Text := do
  if turn = 0 ∨ sentence = 0 then return []
  else
    match ← history? session kind turn with
    | some entry => return sentenceFromEnd settings entry sentence
    | none => return []

/-- The context in which input is matched: the last sentence that the bot said. -/
def thatContext (settings : Settings) (session : SessionId) : Evaluation Text := do
  let that := Text.normalizeInput (← historySentence settings session .that 1 1)
  return if that.isEmpty then anyContext else that

def topicPredicate : Text := "topic".toList

def topicContext (settings : Settings) (session : SessionId) : Evaluation Text := do
  let topic := ((← predicate? session topicPredicate).map Text.normalizeInput).getD []
  return if topic.isEmpty then settings.defaultTopic else topic

/-! ## The matcher -/

/-- The category that answers a text in the context of the session. -/
def findCategory (settings : Settings) (session : SessionId) (text : Text) :
    Evaluation (Option Selection) := do
  let that ← thatContext settings session
  let topic ← topicContext settings session
  call (.select (Text.normalizeInput text) that topic)

/-- To go on with the category found is to ask for the context and the topic first. -/
theorem findCategory_bind {α : Type} (settings : Settings) (session : SessionId) (text : Text)
    (f : Option Selection → Evaluation α) :
    (findCategory settings session text >>= f) =
      thatContext settings session >>= fun that =>
        topicContext settings session >>= fun topic =>
          call (.select (Text.normalizeInput text) that topic) >>= f := by
  refine (bind_assoc _ _ _).trans ?_
  exact congrArg _ (funext fun that => bind_assoc _ _ _)

/-! Looking for a category never nests too deep, so only what comes after it can. -/

theorem orIfTooDeep_thatContext_bind (settings : Settings) (session : SessionId)
    (fallback : Text) (f : Text → Evaluation Text) :
    (thatContext settings session >>= f).orIfTooDeep fallback =
      thatContext settings session >>= fun that => (f that).orIfTooDeep fallback := by
  apply congrArg (Evaluation.request (.call (.history session .that 1)))
  funext entry
  cases entry <;> rfl

theorem orIfTooDeep_topicContext_bind (settings : Settings) (session : SessionId)
    (fallback : Text) (f : Text → Evaluation Text) :
    (topicContext settings session >>= f).orIfTooDeep fallback =
      topicContext settings session >>= fun topic => (f topic).orIfTooDeep fallback := rfl

theorem orIfTooDeep_findCategory_bind (settings : Settings) (session : SessionId)
    (text fallback : Text) (f : Option Selection → Evaluation Text) :
    (findCategory settings session text >>= f).orIfTooDeep fallback =
      findCategory settings session text >>= fun answer => (f answer).orIfTooDeep fallback := by
  rw [findCategory_bind, findCategory_bind, orIfTooDeep_thatContext_bind]
  simp only [orIfTooDeep_topicContext_bind]
  rfl

end Evaluation

end Dialogue
