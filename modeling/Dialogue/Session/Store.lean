import Dialogue.Dictionary
import Dialogue.Text.Basic

/-!
# Sessions

A session remembers predicates, which are texts with names, and two histories: what was said
to the bot and what it answered. The store keeps the sessions apart by their names, and of
each history the latest entries, up to a limit.
-/

namespace Dialogue

abbrev SessionId := Text

/-- The two histories of a session. -/
inductive HistoryKind where
  /-- What was said to the bot. -/
  | input
  /-- What the bot answered. -/
  | that
deriving DecidableEq, Repr

namespace HistoryKind

def name : HistoryKind → Text
  | .input => "input".toList
  | .that => "that".toList

def ofName? (name : Text) : Option HistoryKind :=
  [HistoryKind.input, .that].find? (fun kind => kind.name == name)

end HistoryKind

inductive SessionError where
  | unavailable (session : Text)
  | storage (reason : Text)
deriving DecidableEq, Repr

def SessionError.message : SessionError → Text
  | .unavailable session => "Session ".toList ++ session ++ " is unavailable".toList
  | .storage reason => "Session storage error: ".toList ++ reason

/-- What is remembered of one session. Histories begin with the latest entry. -/
structure SessionState where
  predicates : Dictionary Text Text
  inputs : List Text
  responses : List Text
deriving DecidableEq, Repr

namespace SessionState

def empty : SessionState := ⟨[], [], []⟩

def history (s : SessionState) : HistoryKind → List Text
  | .input => s.inputs
  | .that => s.responses

/-- Puts an entry in front of a history and keeps the first `limit` entries. -/
def push (s : SessionState) (limit : Nat) (kind : HistoryKind) (entry : Text) : SessionState :=
  match kind with
  | .input => { s with inputs := (entry :: s.inputs).take limit }
  | .that => { s with responses := (entry :: s.responses).take limit }

end SessionState

/-- The sessions by name, and how many entries of a history are kept. -/
structure SessionStore where
  limit : Nat
  sessions : Dictionary SessionId SessionState
deriving DecidableEq, Repr

namespace SessionStore

def empty (limit : Nat) : SessionStore := ⟨limit, []⟩

def state (store : SessionStore) (session : SessionId) : SessionState :=
  (store.sessions.get? session).getD .empty

def modify (store : SessionStore) (session : SessionId) (f : SessionState → SessionState) :
    SessionStore :=
  { store with sessions := store.sessions.set session (f (store.state session)) }

def predicate? (store : SessionStore) (session : SessionId) (name : Text) : Option Text :=
  (store.state session).predicates.get? name

def setPredicate (store : SessionStore) (session : SessionId) (name value : Text) :
    SessionStore :=
  store.modify session fun s => { s with predicates := s.predicates.set name value }

/-- The entry of a history at the given place, counted from 1 for the latest one. -/
def history? (store : SessionStore) (session : SessionId) (kind : HistoryKind) (index : Nat) :
    Option Text :=
  match index with
  | 0 => none
  | i + 1 => ((store.state session).history kind)[i]?

def pushHistory (store : SessionStore) (session : SessionId) (kind : HistoryKind)
    (entry : Text) : SessionStore :=
  store.modify session fun s => s.push store.limit kind entry

def clear (store : SessionStore) (session : SessionId) : SessionStore :=
  { store with sessions := store.sessions.erase session }

/-- The number of sessions of which something is remembered. -/
def count (store : SessionStore) : Nat := store.sessions.length

end SessionStore

end Dialogue
