import Dialogue.Evaluation.Run

/-!
# An environment in memory

Sessions in a store, and a fixed list of categories. No call fails.
-/

namespace Dialogue

namespace SessionStore

def answer (select : Text → Text → Text → Option Selection) :
    (c : Call) → SessionStore → Except CallError c.Answer × SessionStore
  | .predicate session name, store => (.ok (store.predicate? session name), store)
  | .setPredicate session name value, store => (.ok (), store.setPredicate session name value)
  | .history session kind index, store => (.ok (store.history? session kind index), store)
  | .pushHistory session kind entry, store => (.ok (), store.pushHistory session kind entry)
  | .select input that topic, store => (.ok (select input that topic), store)

end SessionStore

/-- Sessions in a store, and categories to select from. -/
def Environment.inMemory (categories : CategoryList) : Environment SessionStore where
  answer := SessionStore.answer categories.select?
  categoryCount _ := categories.length

end Dialogue
