import Dialogue.Proofs.Legacy.Canonical
import Dialogue.Proofs.Markup.Attribute

/-!
# The tags that set a predicate

A tag sets the predicate in its name attribute, or, where deprecated tags are supported, the one
that its own name tells. Of all expansions only those of such tags set a predicate, and it is the
same one (`sets_of_expansionOfNode?`).
-/

namespace Dialogue

namespace Markup

namespace Node

mutual

def tags : Node → List Tag
  | .element t children => t :: tagsAll children
  | .selfClosing t => [t]
  | .text _ | .literalBlock _ | .comment _ => []

def tagsAll : List Node → List Tag
  | [] => []
  | n :: rest => n.tags ++ tagsAll rest

end

end Node

/-- The tag sets the predicate: it is `set` and its first name attribute is the predicate, or it
is a deprecated spelling of that. -/
def Tag.Sets (supportDeprecated : Bool) (t : Tag) (p : Text) : Prop :=
  (t.name = "set".toList ∧ t.attribute? "name".toList = some p) ∨
  (supportDeprecated = true ∧
    ((t.name = "settopic".toList ∧ p = "topic".toList) ∨
      (t.name = "setname".toList ∧ p = "name".toList) ∨
      (t.name = "set_".toList ++ p ∧ p ≠ [])))

instance (supportDeprecated : Bool) (t : Tag) (p : Text) :
    Decidable (t.Sets supportDeprecated p) :=
  inferInstanceAs (Decidable (_ ∨ _))

end Markup

namespace Legacy

open Markup

/-- The tag that is made with a name has it in its name attribute, whatever the name is. -/
theorem attribute?_named (tag name : Text) :
    (named tag name).attribute? "name".toList = some name := by
  rw [Tag.attribute?, named, Tag.attributes_withAttribute tag (by decide)]
  rfl

theorem eq_of_afterPrefix? {beginning t rest : Text} (h : afterPrefix? beginning t = some rest) :
    t = beginning ++ rest ∧ rest ≠ [] := by
  rw [afterPrefix?] at h
  split at h
  · next hcond =>
    obtain rfl := Option.some.inj h
    obtain ⟨hbegins, hlength⟩ := Bool.and_eq_true_iff.1 hcond
    obtain ⟨rest, rfl⟩ := List.isPrefixOf_iff_prefix.1 hbegins
    rw [List.drop_left]
    refine ⟨rfl, fun hnil => ?_⟩
    rw [hnil] at hlength
    simp at hlength
  · cases h

theorem sets_of_deprecatedExpansion? {t tag : Tag} {p : Text}
    (h : deprecatedExpansion? t.name = some (.withContent tag))
    (hp : tag.attribute? "name".toList = some p) : t.Sets true p := by
  simp only [deprecatedExpansion?, Option.orElse_eq_orElse, Option.orElse_eq_or,
    Option.or_eq_some_iff, Option.map_eq_some_iff] at h
  rcases h with ⟨_, _, ⟨⟩⟩ | ⟨_, ⟨_, _, ⟨⟩⟩ | ⟨_, ⟨predicate, hrule, ⟨⟩⟩ |
    ⟨_, ⟨predicate, hafter, ⟨⟩⟩ | ⟨_, _, _, ⟨⟩⟩⟩⟩⟩
  · obtain rfl : predicate = p := Option.some.inj ((attribute?_named _ _).symm.trans hp)
    have hrules : ∀ rule ∈ setRules, rule = ("settopic".toList, "topic".toList) ∨
        rule = ("setname".toList, "name".toList) := by decide
    rcases hrules _ (mem_of_lookup hrule) with heq | heq
    · exact .inr ⟨rfl, .inl (Prod.ext_iff.1 heq)⟩
    · exact .inr ⟨rfl, .inr (.inl (Prod.ext_iff.1 heq))⟩
  · obtain rfl : predicate = p := Option.some.inj ((attribute?_named _ _).symm.trans hp)
    exact .inr ⟨rfl, .inr (.inr (eq_of_afterPrefix? hafter))⟩

/-- **An expansion sets only what the tag sets** for which it stands. -/
theorem sets_of_expansion? {supportDeprecated : Bool} {t tag : Tag} {p : Text}
    (h : expansion? supportDeprecated t.name = some (.withContent tag))
    (hp : tag.attribute? "name".toList = some p) : t.Sets supportDeprecated p := by
  unfold expansion? at h
  split at h
  · cases h
  · split at h
    · cases supportDeprecated <;> cases h
    · split at h
      · next hdeprecated =>
        rw [hdeprecated]
        exact sets_of_deprecatedExpansion? h hp
      · cases h

theorem sets_of_expansionOfNode? {supportDeprecated : Bool} {n : Node} {tag : Tag} {p : Text}
    (h : expansionOfNode? supportDeprecated n = .ok (.withContent tag))
    (hp : tag.attribute? "name".toList = some p) :
    ∃ t ∈ n.tag?, t.Sets supportDeprecated p := by
  unfold expansionOfNode? at h
  split at h
  · next name hname =>
    obtain ⟨t, ht, rfl⟩ := Option.map_eq_some_iff.1 hname
    split at h
    · next x hx =>
      obtain rfl := Except.ok.inj h
      exact ⟨t, ht, sets_of_expansion? hx hp⟩
    · cases h
  · cases h

end Legacy

end Dialogue
