import Dialogue.Category.Basic

/-!
# Selecting a category

Of the categories that match, the most specific one is taken, and of equally specific ones
the one that was added first. A pattern is the more specific the fewer wildcards it has, and
then the more words; the pattern for the input counts first, then `that`, then the topic.
-/

namespace Dialogue

open Markup

/-- What the wildcards of a category stand for. -/
structure Stars where
  input : List Text
  that : List Text
  topic : List Text
deriving DecidableEq, Repr

def Stars.none : Stars := ⟨[], [], []⟩

/-- The template to answer with, and what the wildcards stand for in it. -/
structure Selection where
  template : Document
  stars : Stars

/-- Which pattern is more specific: `lt` means the first. -/
def Pattern.compareSpecificity (p q : Pattern) : Ordering :=
  (compare p.wildcardCount q.wildcardCount).then (compare q.literalCount p.literalCount)

namespace Category

/-- Which category is more specific: `lt` means the first. -/
def compareSpecificity (a b : Category) : Ordering :=
  ((a.pattern.compareSpecificity b.pattern).then (a.that.compareSpecificity b.that)).then
    (a.topic.compareSpecificity b.topic)

/-- What the wildcards stand for, if the three patterns match. -/
def match? (c : Category) (input that topic : Text) : Option Stars := do
  let inputStars ← c.pattern.captures? true input
  let thatStars ← c.that.captures? true that
  let topicStars ← c.topic.captures? true topic
  return ⟨inputStars, thatStars, topicStars⟩

end Category

namespace CategoryList

/-- The better of the best category so far and one more: the new one has to match and to be
more specific. -/
def improve (input that topic : Text) (best : Option (Category × Stars)) (c : Category) :
    Option (Category × Stars) :=
  match best with
  | some (current, _) =>
    if c.compareSpecificity current = .lt then
      match c.match? input that topic with
      | some stars => some (c, stars)
      | none => best
    else best
  | none => (c.match? input that topic).map fun stars => (c, stars)

/-- The most specific category that matches, and what its wildcards stand for. -/
def select? (categories : CategoryList) (input that topic : Text) : Option Selection :=
  (categories.foldl (improve input that topic) none).map fun (c, stars) => ⟨c.template, stars⟩

theorem improve_eq_some {input that topic : Text} {best : Option (Category × Stars)}
    {c : Category} {x : Category × Stars} (h : improve input that topic best c = some x) :
    x.1 = c ∨ best = some x := by
  have hmatch : ∀ stars, (c, stars) = x → x.1 = c := by
    rintro stars rfl
    rfl
  rcases best with _ | ⟨current, stars⟩
  · obtain ⟨stars, -, hx⟩ := Option.map_eq_some_iff.1 h
    exact Or.inl (hmatch stars hx)
  · dsimp only [improve] at h
    split at h
    · split at h
      · exact Or.inl (hmatch _ (Option.some.inj h))
      · exact Or.inr h
    · exact Or.inr h

theorem mem_of_foldl_improve {input that topic : Text} {categories : CategoryList}
    {best : Option (Category × Stars)} {x : Category × Stars}
    (h : categories.foldl (improve input that topic) best = some x) :
    x.1 ∈ categories ∨ best = some x := by
  induction categories generalizing best with
  | nil => exact Or.inr h
  | cons c rest ih =>
    rcases ih h with hrest | himprove
    · exact Or.inl (List.mem_cons_of_mem c hrest)
    · rcases improve_eq_some himprove with rfl | hbest
      · exact Or.inl List.mem_cons_self
      · exact Or.inr hbest

/-- The template that is selected is that of a category. -/
theorem mem_of_select? {categories : CategoryList} {input that topic : Text}
    {selection : Selection} (h : categories.select? input that topic = some selection) :
    ∃ c ∈ categories, c.template = selection.template := by
  obtain ⟨x, hx, rfl⟩ := Option.map_eq_some_iff.1 h
  rcases mem_of_foldl_improve hx with hmem | hnone
  · exact ⟨x.1, hmem, rfl⟩
  · cases hnone

end CategoryList

end Dialogue
