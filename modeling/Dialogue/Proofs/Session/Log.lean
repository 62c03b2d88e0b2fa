import Dialogue.Proofs.Session.Store
import Mathlib.Data.Set.Card

/-!
# What a store remembers of its operations

A store is changed by calls, and by forgetting a session. What it remembers then can be read off
the operations alone (`answer_after`): of a predicate the value that it was given last, of a
history the entries that were pushed last, as many as the limit allows, and of both only what
came after the session was last forgotten.
-/

namespace Dialogue

/-- What is done with a store: a call is made, or a session is forgotten. -/
inductive StoreOperation where
  | call (call : Call)
  | clear (session : SessionId)
deriving DecidableEq, Repr

namespace StoreOperation

def valueSet? (session : SessionId) (name : Text) : StoreOperation → Option Text
  | .call (.setPredicate s n value) => if s = session ∧ n = name then some value else none
  | _ => none

def entryPushed? (session : SessionId) (kind : HistoryKind) : StoreOperation → Option Text
  | .call (.pushHistory s k entry) => if s = session ∧ k = kind then some entry else none
  | _ => none

def written? : StoreOperation → Option SessionId
  | .call (.setPredicate s _ _) | .call (.pushHistory s _ _) => some s
  | _ => none

/-! ## Reading the operations -/

/-- The operations since the session was last forgotten, the latest one first. -/
def since (session : SessionId) (operations : List StoreOperation) : List StoreOperation :=
  operations.reverse.takeWhile fun operation => operation ≠ .clear session

def lastValue? (session : SessionId) (name : Text) (operations : List StoreOperation) :
    Option Text :=
  (since session operations).findSome? (valueSet? session name)

def entries (session : SessionId) (kind : HistoryKind) (operations : List StoreOperation) :
    List Text :=
  (since session operations).filterMap (entryPushed? session kind)

/-- The sessions to which something was written since they were last forgotten. -/
def written (operations : List StoreOperation) : Set SessionId :=
  {session | ∃ operation ∈ since session operations, operation.written? = some session}

theorem mem_written {session : SessionId} {operations : List StoreOperation} :
    session ∈ written operations ↔
      ∃ operation ∈ since session operations, operation.written? = some session := Iff.rfl

section Concat

variable (session : SessionId) (operations : List StoreOperation) (operation : StoreOperation)

theorem since_concat :
    since session (operations ++ [operation]) =
      if operation = .clear session then [] else operation :: since session operations := by
  rw [since, List.reverse_append, List.reverse_singleton, List.singleton_append,
    List.takeWhile_cons]
  by_cases h : operation = .clear session <;> simp [h, since]

theorem lastValue?_concat (name : Text) :
    lastValue? session name (operations ++ [operation]) =
      if operation = .clear session then none
      else (operation.valueSet? session name).or (lastValue? session name operations) := by
  rw [lastValue?, since_concat]
  split
  · rfl
  · rw [List.findSome?_cons]
    cases operation.valueSet? session name <;> rfl

theorem entries_concat (kind : HistoryKind) :
    entries session kind (operations ++ [operation]) =
      if operation = .clear session then []
      else (operation.entryPushed? session kind).toList ++ entries session kind operations := by
  rw [entries, since_concat]
  split
  · rfl
  · rw [List.filterMap_cons]
    cases operation.entryPushed? session kind <;> rfl

theorem mem_written_concat :
    session ∈ written (operations ++ [operation]) ↔
      operation ≠ .clear session ∧
        (operation.written? = some session ∨ session ∈ written operations) := by
  rw [mem_written, since_concat]
  by_cases h : operation = .clear session <;> simp [h, mem_written]

end Concat

end StoreOperation

namespace SessionStore

open StoreOperation

/-! ## Changes -/

section Changes

variable (store : SessionStore) (session other : SessionId)

theorem state_modify (f : SessionState → SessionState) :
    (store.modify session f).state other =
      if session = other then f (store.state session) else store.state other := by
  rw [state, modify, Dictionary.get?_set]
  split <;> rfl

theorem state_clear :
    (store.clear session).state other =
      if session = other then .empty else store.state other := by
  rw [state, clear, Dictionary.get?_erase]
  split <;> rfl

theorem predicate?_setPredicate (name key value : Text) :
    (store.setPredicate session name value).predicate? other key =
      if session = other ∧ name = key then some value else store.predicate? other key := by
  rw [predicate?, setPredicate, state_modify]
  by_cases h : session = other
  · subst h
    simp only [if_true, true_and, Dictionary.get?_set]
    rfl
  · simp only [h, if_false, false_and]
    rfl

theorem history_setPredicate (name value : Text) (kind : HistoryKind) :
    ((store.setPredicate session name value).state other).history kind =
      (store.state other).history kind := by
  rw [setPredicate, state_modify]
  split
  · subst_vars
    cases kind <;> rfl
  · rfl

theorem predicate?_pushHistory (kind : HistoryKind) (entry key : Text) :
    (store.pushHistory session kind entry).predicate? other key = store.predicate? other key := by
  rw [predicate?, pushHistory, state_modify]
  split
  · subst_vars
    cases kind <;> rfl
  · rfl

theorem history_pushHistory (kind k : HistoryKind) (entry : Text) :
    ((store.pushHistory session kind entry).state other).history k =
      if session = other ∧ kind = k then
        (entry :: (store.state other).history k).take store.limit
      else (store.state other).history k := by
  rw [pushHistory, state_modify]
  by_cases h : session = other
  · subst h
    rw [if_pos rfl]
    cases kind <;> cases k <;> simp [SessionState.push, SessionState.history]
  · rw [if_neg h, if_neg (mt And.left h)]

/-- An entry that is kept is the latest one, so the ones dropped before it are not missed. -/
theorem take_cons_take (entry : Text) (entries : List Text) (limit : Nat) :
    (entry :: entries.take limit).take limit = (entry :: entries).take limit := by
  cases limit with
  | zero => rfl
  | succ k =>
    rw [List.take_succ_cons, List.take_succ_cons, List.take_take, Nat.min_eq_left (Nat.le_succ k)]

theorem predicate?_clear (name : Text) :
    (store.clear session).predicate? other name =
      if session = other then none else store.predicate? other name := by
  rw [predicate?, state_clear]
  split <;> rfl

theorem history_clear (kind : HistoryKind) :
    ((store.clear session).state other).history kind =
      if session = other then [] else (store.state other).history kind := by
  rw [state_clear]
  split
  · cases kind <;> rfl
  · rfl

end Changes

def perform (select : Text → Text → Text → Option Selection) (store : SessionStore) :
    StoreOperation → SessionStore
  | .call c => (answer select c store).2
  | .clear session => store.clear session

def after (select : Text → Text → Text → Option Selection) (operations : List StoreOperation)
    (store : SessionStore) : SessionStore :=
  operations.foldl (perform select) store

/-! ## What is remembered -/

/-- What the store remembers is what its operations say. -/
structure Reflects (bound : Nat) (operations : List StoreOperation) (store : SessionStore) :
    Prop where
  limit : store.limit = bound
  predicates : ∀ session name, store.predicate? session name = lastValue? session name operations
  histories : ∀ session kind,
    (store.state session).history kind = (entries session kind operations).take bound
  nodup : (Dictionary.keys store.sessions).Nodup
  sessions : ∀ session, session ∈ Dictionary.keys store.sessions ↔ session ∈ written operations

theorem reflects_empty (limit : Nat) : Reflects limit [] (.empty limit) where
  limit := rfl
  predicates _ _ := rfl
  histories session kind := by
    cases kind <;> exact List.take_nil.symm
  nodup := List.nodup_nil
  sessions session := by
    constructor
    · exact fun h => absurd h List.not_mem_nil
    · rintro ⟨operation, hmem, -⟩
      cases hmem

namespace Reflects

variable {limit : Nat} {operations : List StoreOperation} {store : SessionStore}

/-- An operation that writes nothing and forgets nothing changes nothing. -/
theorem quiet (h : Reflects limit operations store) {c : Call}
    (hwritten : (StoreOperation.call c).written? = none) :
    Reflects limit (operations ++ [.call c]) store := by
  have hvalue : ∀ session name, (StoreOperation.call c).valueSet? session name = none := by
    intro session name
    cases c with
    | setPredicate | pushHistory => cases hwritten
    | predicate | history | select => rfl
  have hentry : ∀ session kind, (StoreOperation.call c).entryPushed? session kind = none := by
    intro session kind
    cases c with
    | setPredicate | pushHistory => cases hwritten
    | predicate | history | select => rfl
  exact
    { limit := h.limit
      predicates := by
        intro session name
        rw [lastValue?_concat, hvalue, h.predicates]
        rfl
      histories := by
        intro session kind
        rw [entries_concat, hentry, h.histories]
        rfl
      nodup := h.nodup
      sessions := by
        intro session
        rw [mem_written_concat, hwritten, h.sessions]
        simp }

theorem setPredicate (h : Reflects limit operations store) (session : SessionId)
    (name value : Text) :
    Reflects limit (operations ++ [.call (.setPredicate session name value)])
      (store.setPredicate session name value) where
  limit := h.limit
  predicates other key := by
    rw [lastValue?_concat, if_neg nofun, predicate?_setPredicate, h.predicates]
    simp only [valueSet?]
    split <;> rfl
  histories other kind := by
    rw [entries_concat, if_neg nofun, history_setPredicate, h.histories]
    rfl
  nodup := Dictionary.nodup_keys_set h.nodup _ _
  sessions other := by
    rw [mem_written_concat, ← h.sessions]
    refine Dictionary.mem_keys_set.trans ?_
    simp [written?, eq_comm]

theorem pushHistory (h : Reflects limit operations store) (session : SessionId)
    (kind : HistoryKind) (entry : Text) :
    Reflects limit (operations ++ [.call (.pushHistory session kind entry)])
      (store.pushHistory session kind entry) where
  limit := h.limit
  predicates other key := by
    rw [lastValue?_concat, if_neg nofun, predicate?_pushHistory, h.predicates]
    rfl
  histories other k := by
    rw [entries_concat, if_neg nofun, history_pushHistory, h.histories, h.limit]
    simp only [entryPushed?]
    split
    · exact take_cons_take entry (entries other k operations) limit
    · rfl
  nodup := Dictionary.nodup_keys_set h.nodup _ _
  sessions other := by
    rw [mem_written_concat, ← h.sessions]
    refine Dictionary.mem_keys_set.trans ?_
    simp [written?, eq_comm]

theorem clear (h : Reflects limit operations store) (session : SessionId) :
    Reflects limit (operations ++ [.clear session]) (store.clear session) where
  limit := h.limit
  predicates other key := by
    rw [predicate?_clear, lastValue?_concat, h.predicates]
    simp only [StoreOperation.clear.injEq]
    rfl
  histories other kind := by
    rw [history_clear, entries_concat, h.histories]
    simp only [StoreOperation.clear.injEq]
    split
    · exact List.take_nil.symm
    · rfl
  nodup := Dictionary.nodup_keys_erase h.nodup session
  sessions other := by
    rw [mem_written_concat, ← h.sessions]
    refine Dictionary.mem_keys_erase.trans ?_
    simp [written?, eq_comm]

/-- **What an operation does to a store is what it adds to the operations.** -/
theorem perform (h : Reflects limit operations store)
    (select : Text → Text → Text → Option Selection) (operation : StoreOperation) :
    Reflects limit (operations ++ [operation]) (store.perform select operation) := by
  cases operation with
  | clear session => exact h.clear session
  | call c =>
    cases c with
    | setPredicate session name value => exact h.setPredicate session name value
    | pushHistory session kind entry => exact h.pushHistory session kind entry
    | predicate session name => exact h.quiet rfl
    | history session kind index => exact h.quiet rfl
    | select input that topic => exact h.quiet rfl

end Reflects

theorem reflects_after (limit : Nat) (select : Text → Text → Text → Option Selection)
    (operations : List StoreOperation) :
    Reflects limit operations ((SessionStore.empty limit).after select operations) := by
  induction operations using List.reverseRecOn with
  | nil => exact reflects_empty limit
  | append_singleton operations operation ih =>
    rw [after, List.foldl_append]
    exact ih.perform select operation

/-- **A store refines the log of its operations.** A predicate has the value that it was given
last, and a history the entries that were pushed to it last, as many as the limit allows and
counted from 1; what came before the session was last forgotten does not count. The sessions
counted are those to which something was written since. To read a predicate or a history changes
nothing. -/
theorem answer_after (limit : Nat) (select : Text → Text → Text → Option Selection)
    (operations : List StoreOperation) :
    let store := (SessionStore.empty limit).after select operations
    (∀ session name,
      answer select (.predicate session name) store =
        (.ok (lastValue? session name operations), store)) ∧
    (∀ session kind index,
      answer select (.history session kind index) store =
        (.ok (if 1 ≤ index ∧ index ≤ limit then (entries session kind operations)[index - 1]?
          else none), store)) ∧
    store.count = (written operations).ncard := by
  intro store
  have h : Reflects limit operations store := reflects_after limit select operations
  refine ⟨fun session name => ?_, fun session kind index => ?_, ?_⟩
  · rw [← h.predicates]
    rfl
  · apply congrArg fun entry => (Except.ok entry, store)
    cases index with
    | zero => rfl
    | succ i =>
      show ((store.state session).history kind)[i]? = _
      rw [h.histories, List.getElem?_take]
      by_cases hi : i < limit <;> simp [hi]
  · have hset : written operations = {session | session ∈ Dictionary.keys store.sessions} :=
      Set.ext fun session => (h.sessions session).symm
    rw [hset, ← List.coe_toFinset, Set.ncard_coe_finset, List.toFinset_card_of_nodup h.nodup]
    exact (List.length_map Prod.fst).symm

end SessionStore

end Dialogue
