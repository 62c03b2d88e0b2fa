import Dialogue.Session.Environment

/-!
# Sessions kept apart

What a store remembers of one session is all that calls of this session see, and all that
they change. Two stores agree on a session if they remember the same of it.
-/

namespace Dialogue

def Call.session? : Call → Option SessionId
  | .predicate session .. | .setPredicate session .. | .history session ..
  | .pushHistory session .. => some session
  | .select .. => none

namespace SessionStore

/-- The same is remembered of the session, and as many entries are kept. -/
structure Agree (session : SessionId) (a b : SessionStore) : Prop where
  limit : a.limit = b.limit
  sessions : a.sessions.get? session = b.sessions.get? session

theorem Agree.refl (session : SessionId) (a : SessionStore) : Agree session a a :=
  ⟨rfl, rfl⟩

theorem Agree.trans {session : SessionId} {a b c : SessionStore} (hab : Agree session a b)
    (hbc : Agree session b c) : Agree session a c :=
  ⟨hab.limit.trans hbc.limit, hab.sessions.trans hbc.sessions⟩

theorem Agree.symm {session : SessionId} {a b : SessionStore} (h : Agree session a b) :
    Agree session b a :=
  ⟨h.limit.symm, h.sessions.symm⟩

theorem Agree.state_eq {session : SessionId} {a b : SessionStore} (h : Agree session a b) :
    a.state session = b.state session := by
  rw [state, h.sessions, state]

theorem Agree.modify {session : SessionId} {a b : SessionStore} (h : Agree session a b)
    (f : SessionState → SessionState) :
    Agree session (a.modify session f) (b.modify session f) := by
  constructor
  · exact h.limit
  · show Dictionary.get? session (Dictionary.set session (f (a.state session)) a.sessions) =
      Dictionary.get? session (Dictionary.set session (f (b.state session)) b.sessions)
    rw [Dictionary.get?_set, Dictionary.get?_set, h.state_eq, if_pos rfl, if_pos rfl]

/-- A change to one session is none to another. -/
theorem agree_modify {session other : SessionId} (h : other ≠ session) (a : SessionStore)
    (f : SessionState → SessionState) : Agree other a (a.modify session f) := by
  constructor
  · rfl
  · show _ = Dictionary.get? other (Dictionary.set session (f (a.state session)) a.sessions)
    rw [Dictionary.get?_set, if_neg h.symm]

/-! ## What calls see -/

theorem Agree.predicate?_eq {session : SessionId} {a b : SessionStore} (h : Agree session a b)
    (name : Text) : a.predicate? session name = b.predicate? session name := by
  rw [predicate?, h.state_eq, predicate?]

theorem Agree.history?_eq {session : SessionId} {a b : SessionStore} (h : Agree session a b)
    (kind : HistoryKind) (index : Nat) :
    a.history? session kind index = b.history? session kind index := by
  cases index with
  | zero => rfl
  | succ i =>
    show ((a.state session).history kind)[i]? = ((b.state session).history kind)[i]?
    rw [h.state_eq]

variable (select : Text → Text → Text → Option Selection) {session : SessionId} {c : Call}

/-- A call gets the same answer from stores that agree on its session, and then they agree
again. -/
theorem Agree.answer {a b : SessionStore} (h : Agree session a b)
    (hc : ∀ s ∈ c.session?, s = session) :
    (SessionStore.answer select c a).1 = (SessionStore.answer select c b).1 ∧
      Agree session (SessionStore.answer select c a).2 (SessionStore.answer select c b).2 := by
  cases c with
  | predicate s name =>
    obtain rfl := hc s rfl
    exact ⟨congrArg Except.ok (h.predicate?_eq name), h⟩
  | setPredicate s name value =>
    obtain rfl := hc s rfl
    constructor
    · rfl
    · show Agree s (a.setPredicate s name value) (b.setPredicate s name value)
      exact h.modify _
  | history s kind index =>
    obtain rfl := hc s rfl
    exact ⟨congrArg Except.ok (h.history?_eq kind index), h⟩
  | pushHistory s kind entry =>
    obtain rfl := hc s rfl
    constructor
    · rfl
    · show Agree s (a.modify s fun state => state.push a.limit kind entry)
        (b.modify s fun state => state.push b.limit kind entry)
      rw [h.limit]
      exact h.modify _
  | select input that topic => exact ⟨rfl, h⟩

/-- A call changes nothing of other sessions than its own. -/
theorem agree_answer (hc : ∀ s ∈ c.session?, s = session) {other : SessionId}
    (hother : other ≠ session) (a : SessionStore) :
    Agree other a (SessionStore.answer select c a).2 := by
  cases c with
  | predicate | history | select => exact Agree.refl other a
  | setPredicate s name value =>
    obtain rfl := hc s rfl
    show Agree other a (a.setPredicate s name value)
    exact agree_modify hother a _
  | pushHistory s kind entry =>
    obtain rfl := hc s rfl
    show Agree other a (a.pushHistory s kind entry)
    exact agree_modify hother a _

/-! ## One session only -/

/-- What is left of a store if all sessions but one are forgotten. -/
def only (store : SessionStore) (session : SessionId) : SessionStore :=
  { store with sessions := store.sessions.filter fun entry => entry.1 = session }

theorem agree_only (store : SessionStore) (session : SessionId) :
    Agree session store (store.only session) := by
  constructor
  · rfl
  · show store.sessions.get? session =
      Dictionary.get? session (store.sessions.filter fun entry => entry.1 = session)
    induction store.sessions with
    | nil => rfl
    | cons entry rest ih =>
      obtain ⟨k, state⟩ := entry
      by_cases hk : k = session
      · simp [Dictionary.get?, hk]
      · simpa [Dictionary.get?, hk] using ih

end SessionStore

end Dialogue
