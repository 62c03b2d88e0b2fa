import Dialogue.Category.Selection
import Dialogue.Legacy.Expansion
import Dialogue.Session.Store

/-!
# Calls and errors

While it runs, an evaluation calls on the session, for predicates and histories, and on the
matcher, for a category. Both may fail, and then the evaluation fails with the same error.
-/

namespace Dialogue

/-- Why the matcher cannot be asked. -/
inductive MatcherError where
  | unavailable (reason : Text)
  | lookup (reason : Text)
deriving DecidableEq, Repr

def MatcherError.message : MatcherError → Text
  | .unavailable reason => "Matcher unavailable: ".toList ++ reason
  | .lookup reason => "Lookup failed: ".toList ++ reason

/-- A call on the session or on the matcher. -/
inductive Call where
  /-- Reads a predicate. -/
  | predicate (session : SessionId) (name : Text)
  /-- Gives a predicate a value. -/
  | setPredicate (session : SessionId) (name value : Text)
  /-- Reads the entry of a history at a place counted from 1 for the latest one. -/
  | history (session : SessionId) (kind : HistoryKind) (index : Nat)
  /-- Makes an entry the latest one of a history. -/
  | pushHistory (session : SessionId) (kind : HistoryKind) (entry : Text)
  /-- Asks for the category that answers an input in its context. -/
  | select (input that topic : Text)
deriving DecidableEq, Repr

def Call.Answer : Call → Type
  | .predicate .. | .history .. => Option Text
  | .setPredicate .. | .pushHistory .. => Unit
  | .select .. => Option Selection

inductive CallError where
  | session (error : SessionError)
  | matcher (error : MatcherError)
deriving DecidableEq, Repr

def CallError.message : CallError → Text
  | .session error => "Session error: ".toList ++ error.message
  | .matcher error => "Matcher error: ".toList ++ error.message

/-- A call that was made, and why it failed if it did. -/
structure Event where
  call : Call
  failure : Option CallError
deriving DecidableEq, Repr

/-- What a turn spends beyond its budget. -/
inductive Excess where
  | steps (limit : Nat)
  /-- Both are in milliseconds. -/
  | time (elapsed limit : Nat)
deriving DecidableEq, Repr

def Excess.message : Excess → Text
  | .steps limit => "more than ".toList ++ Text.ofNat limit ++ " steps".toList
  | .time elapsed limit =>
    "ran for ".toList ++ Text.ofNat elapsed ++ " ms, limit is ".toList ++ Text.ofNat limit
      ++ " ms".toList

/-- Why an evaluation fails. -/
inductive EvalError where
  /-- A self-query would nest deeper than the limit. -/
  | recursionLimit (depth limit : Nat)
  /-- A visit takes more steps or comes later than the budget allows. -/
  | budget (excess : Excess)
  /-- A call failed. -/
  | call (error : CallError)
  /-- A handler asked for the expansion of a tag that has none. -/
  | legacy (error : Legacy.UnknownTag)
  /-- A handler gave up. -/
  | handler (tag message : Text)
deriving DecidableEq, Repr

def EvalError.message : EvalError → Text
  | .recursionLimit depth limit =>
    "Recursion depth ".toList ++ Text.ofNat depth ++ " exceeds limit ".toList ++ Text.ofNat limit
  | .budget excess => "Evaluation budget exceeded: ".toList ++ excess.message
  | .call error => error.message
  | .legacy error => "Legacy tag error: ".toList ++ error.message
  | .handler tag message =>
    "Handler <".toList ++ tag ++ "> failed: ".toList ++ message

end Dialogue
