import Dialogue.Legacy.Expansion

/-!
# Expansions are canonical

An expansion gives one of a few tags, whatever spelling it is for.
-/

namespace Dialogue.Legacy

open Markup

namespace Expansion

/-- The tag that an expansion puts in the place of a legacy tag. -/
def tag : Expansion → Tag
  | .selfClosing tag | .aroundStar tag | .withContent tag => tag

def canonicalNames : Expansion → List Text
  | .selfClosing _ =>
    ["bot".toList, "that".toList, "input".toList, "get".toList, "size".toList,
     "version".toList, "id".toList]
  | .aroundStar _ => ["srai".toList, "person".toList, "person2".toList, "gender".toList]
  | .withContent _ => ["set".toList]

/-- The tag has a name that is allowed for its kind of expansion. -/
def IsCanonical (x : Expansion) : Prop := x.tag.name ∈ x.canonicalNames

instance (x : Expansion) : Decidable x.IsCanonical := inferInstanceAs (Decidable (_ ∈ _))

end Expansion

theorem mem_of_lookup {β : Type} {table : List (Text × β)} {name : Text} {b : β}
    (h : table.lookup name = some b) : (name, b) ∈ table := by
  obtain ⟨l₁, l₂, rfl, _⟩ := List.lookup_eq_some_iff.1 h
  simp

theorem isCanonical_of_deprecatedExpansion? {name : Text} {x : Expansion}
    (h : deprecatedExpansion? name = some x) : x.IsCanonical := by
  have hrules : ∀ rule ∈ selfClosingRules, (Expansion.selfClosing rule.2).IsCanonical := by
    decide
  have hget : "get".toList ∈ (Expansion.selfClosing (.bare [])).canonicalNames := by decide
  simp only [deprecatedExpansion?, Option.orElse_eq_orElse, Option.orElse_eq_or,
    Option.or_eq_some_iff, Option.map_eq_some_iff] at h
  rcases h with ⟨property, _, rfl⟩ | ⟨_, ⟨rule, hrule, rfl⟩ | ⟨_, ⟨predicate, _, rfl⟩ |
    ⟨_, ⟨predicate, _, rfl⟩ | ⟨_, predicate, _, rfl⟩⟩⟩⟩
  · exact List.mem_cons_self
  · exact hrules _ (mem_of_lookup hrule)
  · exact List.mem_cons_self
  · exact List.mem_cons_self
  · exact hget

/-- **Every expansion is canonical**, in both settings. -/
theorem isCanonical_of_expansion? {supportDeprecated : Bool} {name : Text} {x : Expansion}
    (h : expansion? supportDeprecated name = some x) : x.IsCanonical := by
  have hshorthands : ∀ rule ∈ starShorthands,
      (Expansion.aroundStar (.bare rule.2)).IsCanonical := by decide
  unfold expansion? at h
  split at h
  · next outer hlookup =>
    obtain rfl := Option.some.inj h
    exact hshorthands _ (mem_of_lookup hlookup)
  · split at h
    · obtain rfl := Option.some.inj h
      cases supportDeprecated <;> decide
    · split at h
      · exact isCanonical_of_deprecatedExpansion? h
      · cases h

theorem isCanonical_of_expansionOfNode? {supportDeprecated : Bool} {n : Node} {x : Expansion}
    (h : expansionOfNode? supportDeprecated n = .ok x) : x.IsCanonical := by
  unfold expansionOfNode? at h
  split at h
  · split at h
    · next hx =>
      obtain rfl := Except.ok.inj h
      exact isCanonical_of_expansion? hx
    · cases h
  · cases h

end Dialogue.Legacy
