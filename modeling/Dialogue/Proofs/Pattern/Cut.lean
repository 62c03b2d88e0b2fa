import Dialogue.Pattern.Match
import Mathlib.Data.List.Forall2

/-!
# Cutting words into blocks

A pattern matches words that can be cut into one block for each token. Of all cuts the matcher
finds the one in which the first wildcard takes as many words as it can, then the second, and so
on: the blocks of its wildcards have the lexicographically greatest lengths
(`Pattern.blocks?_eq_some_iff`), and it finds none only if there is none
(`Pattern.blocks?_eq_none_iff`).
-/

namespace Dialogue

open Unicode

/-! ## The longest block -/

section LongestBlock

variable {α : Type} {next : List Text → Option α} {words : List Text}

theorem longestBlock_eq_none_iff : longestBlock next words = none ↔
    ∀ block rest, block ≠ [] → words = block ++ rest → next rest = none := by
  induction words with
  | nil =>
    refine iff_of_true rfl fun block rest hne h => ?_
    exact absurd (List.append_eq_nil_iff.1 h.symm).1 hne
  | cons w words ih =>
    have hcons : longestBlock next (w :: words) = none ↔
        longestBlock next words = none ∧ next words = none := by
      rw [longestBlock]
      split <;> simp_all
    rw [hcons, ih]
    constructor
    · rintro ⟨hlonger, hone⟩ block rest hne h
      obtain ⟨v, block, rfl⟩ := List.exists_cons_of_ne_nil hne
      obtain ⟨rfl, rfl⟩ := List.cons.inj h
      by_cases hblock : block = []
      · subst hblock
        exact hone
      · exact hlonger block rest hblock rfl
    · intro h
      refine ⟨fun block rest hne heq => ?_, h [w] words (List.cons_ne_nil _ _) rfl⟩
      exact h (w :: block) rest (List.cons_ne_nil _ _) (by rw [heq, List.cons_append])

/-- The block that is taken lets the rest succeed, and no longer one does. -/
theorem exists_rest_of_longestBlock {block : List Text} {found : α}
    (h : longestBlock next words = some (block, found)) :
    ∃ rest, words = block ++ rest ∧ block ≠ [] ∧ next rest = some found ∧
      ∀ longer rest', words = longer ++ rest' → block.length < longer.length →
        next rest' = none := by
  induction words generalizing block with
  | nil => cases h
  | cons w words ih =>
    rw [longestBlock] at h
    cases hlonger : longestBlock next words with
    | some taken =>
      obtain ⟨tail, found'⟩ := taken
      rw [hlonger] at h
      cases h
      obtain ⟨rest, rfl, -, hnext, hmax⟩ := ih hlonger
      refine ⟨rest, rfl, List.cons_ne_nil _ _, hnext, fun longer rest' heq hlt => ?_⟩
      cases longer with
      | nil => exact absurd hlt (Nat.not_lt_zero _)
      | cons v longer => exact hmax longer rest' (List.cons.inj heq).2 (Nat.lt_of_succ_lt_succ hlt)
    | none =>
      rw [hlonger] at h
      obtain ⟨found', hnext, heq⟩ := Option.map_eq_some_iff.1 h
      cases heq
      refine ⟨words, rfl, List.cons_ne_nil _ _, hnext, fun longer rest' heq hlt => ?_⟩
      cases longer with
      | nil => exact absurd hlt (Nat.not_lt_zero _)
      | cons v longer =>
        have hne : longer ≠ [] := List.ne_nil_of_length_pos (Nat.lt_of_succ_lt_succ hlt)
        exact longestBlock_eq_none_iff.1 hlonger longer rest' hne (List.cons.inj heq).2

end LongestBlock

/-! ## Cuts -/

/-- The word of an input is the word of a pattern, character by character, where characters that
have one case folding count as the same if case is ignored. -/
def SameWord (ignoreCase : Bool) : Text → Text → Prop :=
  List.Forall₂ fun c d => if ignoreCase then foldChar c = foldChar d else c = d

theorem wordsAgree_iff {ignoreCase : Bool} {v w : Text} :
    wordsAgree ignoreCase v w = true ↔ SameWord ignoreCase v w := by
  cases ignoreCase with
  | true =>
    show (v.map foldChar == w.map foldChar) = true ↔
      List.Forall₂ (fun c d => foldChar c = foldChar d) v w
    rw [beq_iff_eq, ← List.forall₂_eq_eq_eq, List.forall₂_map_left_iff, List.forall₂_map_right_iff]
  | false =>
    show (v == w) = true ↔ List.Forall₂ (fun c d => c = d) v w
    rw [beq_iff_eq, List.forall₂_eq_eq_eq]

/-- The block is one that the token stands for: the word itself, or at least one word. -/
def PatternToken.Fits (ignoreCase : Bool) : PatternToken → List Text → Prop
  | .word v, block => ∃ w, SameWord ignoreCase v w ∧ block = [w]
  | .wildcard _, block => block ≠ []

/-- The blocks are the words in sequence, one block for each token that fits it. -/
structure IsCut (ignoreCase : Bool) (p : Pattern) (words : List Text) (blocks : List (List Text)) :
    Prop where
  flatten : blocks.flatten = words
  fits : List.Forall₂ (PatternToken.Fits ignoreCase) p blocks

def wildcardBlocks : Pattern → List (List Text) → List (List Text)
  | .wildcard _ :: p, block :: blocks => block :: wildcardBlocks p blocks
  | .word _ :: p, _ :: blocks => wildcardBlocks p blocks
  | _, _ => []

def widths (p : Pattern) (blocks : List (List Text)) : List Nat :=
  (wildcardBlocks p blocks).map List.length

/-- A cut in which the first wildcard takes as many words as it can, then the second, and so on:
no other one has lexicographically greater widths. -/
structure IsGreedyCut (ignoreCase : Bool) (p : Pattern) (words : List Text)
    (blocks : List (List Text)) : Prop extends IsCut ignoreCase p words blocks where
  greedy : ∀ other, IsCut ignoreCase p words other →
    ¬ List.Lex (· < ·) (widths p blocks) (widths p other)

section Cut

variable {ignoreCase : Bool} {token : PatternToken} {p : Pattern} {words : List Text}
  {blocks : List (List Text)}

theorem isCut_nil_iff : IsCut ignoreCase [] words blocks ↔ words = [] ∧ blocks = [] := by
  constructor
  · rintro ⟨rfl, hfits⟩
    cases hfits
    exact ⟨rfl, rfl⟩
  · rintro ⟨rfl, rfl⟩
    exact ⟨rfl, .nil⟩

/-- A cut is a block that fits the first token and a cut of the words behind it. -/
theorem isCut_cons_iff : IsCut ignoreCase (token :: p) words blocks ↔
    ∃ block rest later, words = block ++ rest ∧ blocks = block :: later ∧
      token.Fits ignoreCase block ∧ IsCut ignoreCase p rest later := by
  constructor
  · rintro ⟨rfl, hfits⟩
    cases hfits with
    | @cons _ block _ later hblock hlater =>
      exact ⟨block, later.flatten, later, rfl, rfl, hblock, rfl, hlater⟩
  · rintro ⟨block, rest, later, rfl, rfl, hblock, hflatten, hlater⟩
    exact ⟨by rw [List.flatten_cons, hflatten], .cons hblock hlater⟩

theorem isCut_word_iff {v w : Text} : IsCut ignoreCase (.word v :: p) (w :: words) blocks ↔
    wordsAgree ignoreCase v w = true ∧ ∃ later, blocks = [w] :: later ∧
      IsCut ignoreCase p words later := by
  rw [isCut_cons_iff, wordsAgree_iff]
  constructor
  · rintro ⟨block, rest, later, hwords, hblocks, ⟨w', hsame, rfl⟩, hlater⟩
    obtain ⟨rfl, rfl⟩ := List.cons.inj hwords
    exact ⟨hsame, later, hblocks, hlater⟩
  · rintro ⟨hsame, later, hblocks, hlater⟩
    exact ⟨[w], words, later, rfl, hblocks, ⟨w, hsame, rfl⟩, hlater⟩

theorem not_isCut_word_nil {v : Text} : ¬ IsCut ignoreCase (.word v :: p) [] blocks := by
  intro h
  obtain ⟨block, rest, later, hwords, -, ⟨w, -, rfl⟩, -⟩ := isCut_cons_iff.1 h
  cases hwords

theorem length_wildcardBlocks (h : List.Forall₂ (PatternToken.Fits ignoreCase) p blocks) :
    (wildcardBlocks p blocks).length = p.wildcardCount := by
  induction h with
  | nil => rfl
  | @cons token _ p _ _ _ ih =>
    cases token with
    | wildcard spelling =>
      rw [wildcardBlocks, List.length_cons, ih]
      exact (List.countP_cons_of_pos rfl).symm
    | word v =>
      rw [wildcardBlocks, ih]
      exact (List.countP_cons_of_neg Bool.false_ne_true).symm

/-- A cut is determined by the widths of its wildcards. -/
theorem IsCut.eq_of_widths_eq {other : List (List Text)} (h : IsCut ignoreCase p words blocks)
    (hother : IsCut ignoreCase p words other) (hwidths : widths p blocks = widths p other) :
    blocks = other := by
  induction p generalizing words blocks other with
  | nil =>
    obtain ⟨-, rfl⟩ := isCut_nil_iff.1 h
    exact (isCut_nil_iff.1 hother).2.symm
  | cons token p ih =>
    obtain ⟨block, rest, later, hwords, rfl, hfits, hlater⟩ := isCut_cons_iff.1 h
    obtain ⟨block', rest', later', hwords', rfl, hfits', hlater'⟩ := isCut_cons_iff.1 hother
    have hlength : block.length = block'.length ∧ widths p later = widths p later' := by
      cases token with
      | wildcard spelling => exact List.cons.inj hwidths
      | word v =>
        obtain ⟨w, -, rfl⟩ := hfits
        obtain ⟨w', -, rfl⟩ := hfits'
        exact ⟨rfl, hwidths⟩
    obtain ⟨rfl, rfl⟩ := List.append_inj (hwords.symm.trans hwords') hlength.1
    rw [ih hlater hlater' hlength.2]

theorem IsGreedyCut.eq {other : List (List Text)} (h : IsGreedyCut ignoreCase p words blocks)
    (hother : IsGreedyCut ignoreCase p words other) : blocks = other := by
  have hwidths : widths p blocks = widths p other :=
    List.le_antisymm (hother.greedy blocks h.toIsCut) (h.greedy other hother.toIsCut)
  exact h.toIsCut.eq_of_widths_eq hother.toIsCut hwidths

end Cut

/-! ## The matcher -/

namespace Pattern

variable {ignoreCase : Bool} {p : Pattern} {words : List Text}

/-- **The matcher finds no cut only if there is none.** -/
theorem blocks?_eq_none_iff :
    blocks? ignoreCase p words = none ↔ ∀ blocks, ¬ IsCut ignoreCase p words blocks := by
  induction p generalizing words with
  | nil =>
    cases words with
    | nil => exact iff_of_false nofun fun h => h [] (isCut_nil_iff.2 ⟨rfl, rfl⟩)
    | cons w words => exact iff_of_true rfl fun blocks h => nomatch (isCut_nil_iff.1 h).1
  | cons token p ih =>
    cases token with
    | word v =>
      cases words with
      | nil => exact iff_of_true rfl fun blocks => not_isCut_word_nil
      | cons w words =>
        rw [blocks?]
        by_cases hagree : wordsAgree ignoreCase v w = true
        · rw [if_pos hagree, ih]
          constructor
          · intro h blocks hcut
            obtain ⟨-, later, -, hlater⟩ := isCut_word_iff.1 hcut
            exact h later hlater
          · intro h later hlater
            exact h ([w] :: later) (isCut_word_iff.2 ⟨hagree, later, rfl, hlater⟩)
        · rw [if_neg hagree]
          exact iff_of_true rfl fun blocks hcut => hagree (isCut_word_iff.1 hcut).1
    | wildcard spelling =>
      rw [blocks?, Option.map_eq_none_iff, longestBlock_eq_none_iff]
      constructor
      · intro h blocks hcut
        obtain ⟨block, rest, later, hwords, -, hne, hlater⟩ := isCut_cons_iff.1 hcut
        exact ih.1 (h block rest hne hwords) later hlater
      · intro h block rest hne hwords
        refine ih.2 fun later hlater => ?_
        exact h (block :: later) (isCut_cons_iff.2 ⟨block, rest, later, hwords, rfl, hne, hlater⟩)

/-- What the matcher finds are the blocks that wildcards have in a greedy cut. -/
theorem exists_isGreedyCut {found : List (List Text)}
    (h : blocks? ignoreCase p words = some found) :
    ∃ blocks, IsGreedyCut ignoreCase p words blocks ∧ wildcardBlocks p blocks = found := by
  induction p generalizing words found with
  | nil =>
    cases words with
    | cons w words => cases h
    | nil =>
      cases h
      exact ⟨[], ⟨isCut_nil_iff.2 ⟨rfl, rfl⟩, fun _ _ => nofun⟩, rfl⟩
  | cons token p ih =>
    cases token with
    | word v =>
      cases words with
      | nil => cases h
      | cons w words =>
        rw [blocks?] at h
        split at h
        · rename_i hagree
          obtain ⟨later, hlater, hfound⟩ := ih h
          have hcut := isCut_word_iff.2 ⟨hagree, later, rfl, hlater.toIsCut⟩
          refine ⟨[w] :: later, ⟨hcut, fun other hother => ?_⟩, hfound⟩
          obtain ⟨-, later', rfl, hlater'⟩ := isCut_word_iff.1 hother
          exact hlater.greedy later' hlater'
        · cases h
    | wildcard spelling =>
      rw [blocks?] at h
      obtain ⟨⟨block, found'⟩, hlongest, rfl⟩ := Option.map_eq_some_iff.1 h
      obtain ⟨rest, hwords, hne, hnext, hmax⟩ := exists_rest_of_longestBlock hlongest
      obtain ⟨later, hlater, rfl⟩ := ih hnext
      have hcut : IsCut ignoreCase (.wildcard spelling :: p) words (block :: later) :=
        isCut_cons_iff.2 ⟨block, rest, later, hwords, rfl, hne, hlater.toIsCut⟩
      refine ⟨block :: later, ⟨hcut, fun other hother hlex => ?_⟩, rfl⟩
      obtain ⟨block', rest', later', hwords', rfl, -, hlater'⟩ := isCut_cons_iff.1 hother
      -- a longer first block leaves words that have no cut, one as long leaves the same words
      rcases List.cons_lex_cons_iff.1 hlex with hlt | ⟨hlength, hbehind⟩
      · exact blocks?_eq_none_iff.1 (hmax block' rest' hwords' hlt) later' hlater'
      · obtain ⟨rfl, rfl⟩ := List.append_inj (hwords.symm.trans hwords') hlength
        exact hlater.greedy later' hlater' hbehind

/-- **The matcher finds the greedy cut.** -/
theorem blocks?_eq_some_iff {found : List (List Text)} :
    blocks? ignoreCase p words = some found ↔
      ∃ blocks, IsGreedyCut ignoreCase p words blocks ∧ wildcardBlocks p blocks = found := by
  refine ⟨exists_isGreedyCut, ?_⟩
  rintro ⟨blocks, hgreedy, rfl⟩
  cases hfound : blocks? ignoreCase p words with
  | none => exact absurd hgreedy.toIsCut (blocks?_eq_none_iff.1 hfound blocks)
  | some found =>
    obtain ⟨other, hother, rfl⟩ := exists_isGreedyCut hfound
    rw [hgreedy.eq hother]

end Pattern

end Dialogue
