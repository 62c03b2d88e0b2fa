import Dialogue.Date.Moment
import Dialogue.Evaluation.Call

/-!
# Evaluations

An evaluation is what a template does, before anything is done: a tree that ends in a value
or an error and branches at each request on the answer to it. Running it in an environment
serves the requests one after the other. A request that fails ends the run with its error.
-/

namespace Dialogue

/-- What an evaluation can ask for. -/
inductive Request where
  /-- Counts the visit of a node at the given depth of nesting. -/
  | visit (depth : Nat)
  /-- The number of visits so far. -/
  | steps
  /-- A random choice between one more things than the bound. -/
  | choice (bound : Nat)
  /-- The number of categories. -/
  | categoryCount
  /-- The present moment. -/
  | now
  /-- A call on the session or on the matcher. -/
  | call (call : Call)
deriving DecidableEq, Repr

def Request.Answer : Request → Type
  | .visit _ => Unit
  | .steps => Nat
  | .choice bound => Fin (bound + 1)
  | .categoryCount => Nat
  | .now => Moment
  | .call c => c.Answer

/-- What an evaluation does on the way to a value. -/
inductive Evaluation (α : Type) where
  /-- Gives a value. -/
  | done (value : α)
  /-- Ends with an error. -/
  | fail (error : EvalError)
  /-- Makes a request and goes on with the answer. -/
  | request (r : Request) (next : r.Answer → Evaluation α)

namespace Evaluation

variable {α β γ : Type}

def bind : Evaluation α → (α → Evaluation β) → Evaluation β
  | .done a, f => f a
  | .fail e, _ => .fail e
  | .request r next, f => .request r fun answer => bind (next answer) f

instance : Monad Evaluation where
  pure := .done
  bind := bind

@[simp] theorem pure_eq (a : α) : (pure a : Evaluation α) = .done a := rfl

@[simp] theorem done_bind (a : α) (f : α → Evaluation β) : (.done a >>= f) = f a := rfl

@[simp] theorem fail_bind (e : EvalError) (f : α → Evaluation β) :
    (.fail e >>= f) = .fail e := rfl

@[simp] theorem request_bind (r : Request) (next : r.Answer → Evaluation α)
    (f : α → Evaluation β) :
    (.request r next >>= f) = .request r (fun answer => next answer >>= f) := rfl

/-- Going on with nothing changes nothing. -/
theorem bind_done (e : Evaluation α) : (e >>= .done) = e := by
  induction e with
  | done a => rfl
  | fail error => rfl
  | request r next ih => simp [ih]

theorem bind_assoc (e : Evaluation α) (f : α → Evaluation β) (g : β → Evaluation γ) :
    (e >>= f >>= g) = (e >>= fun a => f a >>= g) := by
  induction e with
  | done a => rfl
  | fail error => rfl
  | request r next ih => simp [ih]

instance : LawfulMonad Evaluation := LawfulMonad.mk' Evaluation
  bind_done
  (fun _ _ => rfl)
  (fun e f g => bind_assoc e f g)

def ask (r : Request) : Evaluation r.Answer := .request r .done

def call (c : Call) : Evaluation c.Answer := ask (.call c)

/-- Puts a text in the place of the error that a self-query nests too deep. -/
def orIfTooDeep (fallback : α) : Evaluation α → Evaluation α
  | .done a => .done a
  | .fail (.recursionLimit _ _) => .done fallback
  | .fail e => .fail e
  | .request r next => .request r fun answer => orIfTooDeep fallback (next answer)

def concat : List (Evaluation Text) → Evaluation Text
  | [] => .done []
  | e :: rest => do
    let t ← e
    let ts ← concat rest
    return t ++ ts

end Evaluation

end Dialogue
