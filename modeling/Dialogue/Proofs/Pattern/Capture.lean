import Dialogue.Proofs.Pattern.Cut
import Dialogue.Proofs.Pattern.Expression
import Dialogue.Proofs.Pattern.Written
import Dialogue.Proofs.Unicode

/-!
# Patterns as regular expressions

A pattern is an expression that has to read the whole of an input: a word stands for its characters,
a wildcard for a group whose text is captured, and one space stands between two tokens. The matcher
works on words and finds what the search for this expression finds on characters
(`Pattern.captures?_eq_capture`). With the cut that it makes of the words this says in full what a
pattern matches and what it captures (`Pattern.captures?_greedy`).
-/

namespace Dialogue

open Unicode

/-- A part of an expression: its text is captured or not. -/
inductive Part where
  | plain (e : Expression)
  | group (e : Expression)

def Part.expression : Part → Expression
  | .plain e => e
  | .group e => e

/-- What the groups take when the parts read the whole of the text, one after the other. -/
def capture : List Part → Text → Option (List Text)
  | [], t => if t.isEmpty then some [] else none
  | .plain e :: parts, t => e.search t fun _ rest => capture parts rest
  | .group e :: parts, t => e.search t fun taken rest => (capture parts rest).map (taken :: ·)

/-- Some way of the parts, one after the other, reads the whole of the text. -/
def accepts : List Part → Text → Bool
  | [], t => t.isEmpty
  | part :: parts, t => (part.expression.ways t).any fun way => accepts parts way.2

theorem isSome_capture (parts : List Part) (t : Text) :
    (capture parts t).isSome = accepts parts t := by
  induction parts generalizing t with
  | nil =>
    rw [capture, accepts]
    cases t <;> rfl
  | cons part parts ih =>
    cases part with
    | plain e =>
      rw [capture, accepts, Expression.search, List.isSome_findSome?]
      simp only [Part.expression, ih]
    | group e =>
      rw [capture, accepts, Expression.search, List.isSome_findSome?]
      simp only [Part.expression, Option.isSome_map, ih]

/-! ## Tokens -/

def sameChar (ignoreCase : Bool) (c d : Char) : Bool := if ignoreCase then sameFold c d else c == d

def PatternToken.parts (ignoreCase : Bool) : PatternToken → List Part
  | .wildcard _ => [.group .wildcard]
  | .word v => v.map fun c => .plain (.one (sameChar ignoreCase c))

/-- The parts of a pattern: those of its tokens, with a space between any two. -/
def Pattern.parts (ignoreCase : Bool) (p : Pattern) : List Part :=
  List.intercalate [.plain .space] (p.map (PatternToken.parts ignoreCase))

def spacedParts (ignoreCase : Bool) (p : Pattern) : List Part :=
  p.flatMap fun token => .plain .space :: token.parts ignoreCase

section Tokens

variable {ignoreCase : Bool} {p : Pattern} {ws : List Text}

theorem parts_cons (token : PatternToken) (p : Pattern) :
    Pattern.parts ignoreCase (token :: p) = token.parts ignoreCase ++ spacedParts ignoreCase p := by
  induction p generalizing token with
  | nil => simp [Pattern.parts, spacedParts]
  | cons next p ih =>
    have hrest := ih next
    rw [Pattern.parts, List.map_cons] at hrest ⊢
    rw [List.map_cons, List.intercalate_cons_cons, hrest]
    simp [spacedParts]

theorem wordsAgree_cons (c d : Char) (v w : Text) : wordsAgree ignoreCase (c :: v) (d :: w) =
    (sameChar ignoreCase c d && wordsAgree ignoreCase v w) := by
  cases ignoreCase <;> rfl

theorem sameChar_space {c : Char} (h : isPatternWordChar c = true) :
    sameChar ignoreCase c ' ' = false := by
  have hspace : isPatternWordChar ' ' = false := by decide +kernel
  have hfold : foldChar ' ' = ' ' := by decide +kernel
  rw [Bool.eq_false_iff]
  intro hsame
  have hc : c = ' ' := by
    cases ignoreCase with
    | false => exact beq_iff_eq.1 hsame
    | true =>
      have hfoldEq : foldChar c = foldChar ' ' := beq_iff_eq.1 hsame
      exact eq_of_foldChar_eq (by decide) (by decide) (hfoldEq.trans hfold)
  rw [hc, hspace] at h
  cases h

/-- The characters of a word are read one by one. -/
theorem capture_word {v : Text} (hv : ∀ c ∈ v, isPatternWordChar c = true) {w : Text}
    (hw : ' ' ∉ w) {parts : List Part} (hparts : Expression.FailsInWord (capture parts)) :
    capture (PatternToken.parts ignoreCase (.word v) ++ parts) (w ++ Expression.spaced ws) =
      if wordsAgree ignoreCase v w then capture parts (Expression.spaced ws) else none := by
  induction v generalizing w with
  | nil =>
    cases w with
    | nil => cases ignoreCase <;> rfl
    | cons d w =>
      have hd : d ≠ ' ' := fun h => hw (h ▸ List.mem_cons_self)
      have hagree : wordsAgree ignoreCase [] (d :: w) = false := by cases ignoreCase <;> rfl
      rw [hagree]
      exact hparts d _ hd
  | cons c v ih =>
    obtain ⟨hc, hv⟩ := List.forall_mem_cons.1 hv
    have hparts : PatternToken.parts ignoreCase (.word (c :: v)) =
        .plain (.one (sameChar ignoreCase c)) :: PatternToken.parts ignoreCase (.word v) := rfl
    rw [hparts, List.cons_append, capture]
    cases w with
    | nil =>
      have hagree : wordsAgree ignoreCase (c :: v) [] = false := by cases ignoreCase <;> rfl
      rw [hagree, List.nil_append]
      cases ws with
      | nil => rfl
      | cons u ws =>
        show Expression.search _ (' ' :: _) _ = _
        rw [Expression.search_one_cons, sameChar_space hc]
        rfl
    | cons d w =>
      rw [List.cons_append, Expression.search_one_cons, ih hv (mt (List.mem_cons_of_mem d) hw),
        wordsAgree_cons]
      cases sameChar ignoreCase c d <;> rfl

theorem failsInWord_spacedParts : Expression.FailsInWord (capture (spacedParts ignoreCase p)) := by
  intro c rest hc
  cases p with
  | nil => rfl
  | cons token p =>
    show Expression.space.search (c :: rest) _ = none
    rw [Expression.space, Expression.search_one_cons, if_neg (by simpa using hc)]

end Tokens

/-! ## Patterns -/

namespace Pattern

variable {ignoreCase : Bool} {token : PatternToken} {p : Pattern} {w : Text} {ws : List Text}

def captured (ignoreCase : Bool) (p : Pattern) (words : List Text) : Option (List Text) :=
  (blocks? ignoreCase p words).map (List.map (Text.join [' ']))

theorem captured_word (v : Text) : captured ignoreCase (.word v :: p) (w :: ws) =
    if wordsAgree ignoreCase v w then captured ignoreCase p ws else none := by
  rw [captured, blocks?]
  split <;> rfl

/-- One token, where what is behind it is known on words. -/
theorem capture_token (htoken : token.IsValid) (hw : ' ' ∉ w) (hws : ∀ v ∈ ws, ' ' ∉ v)
    (hrest : Expression.OnWords (captured ignoreCase p) (capture (spacedParts ignoreCase p))) :
    capture (token.parts ignoreCase ++ spacedParts ignoreCase p) (w ++ Expression.spaced ws) =
      if (w :: ws).any List.isEmpty then none else captured ignoreCase (token :: p) (w :: ws) := by
  cases token with
  | word v =>
    rw [capture_word htoken.2 hw failsInWord_spacedParts, hrest ws hws, captured_word]
    by_cases hagree : wordsAgree ignoreCase v w = true
    · have hnonempty : w.isEmpty = false := by
        cases w with
        | nil => cases ignoreCase <;> cases v <;> simp_all [wordsAgree, PatternToken.IsValid]
        | cons c w => rfl
      rw [if_pos hagree, if_pos hagree, List.any_cons, hnonempty, Bool.false_or]
    · rw [if_neg hagree, if_neg hagree, ite_self]
  | wildcard spelling =>
    have hsearch := Expression.search_wildcard failsInWord_spacedParts hrest hw hws
    have hgroup : capture (PatternToken.parts ignoreCase (.wildcard spelling) ++
        spacedParts ignoreCase p) (w ++ Expression.spaced ws) =
          (Expression.wildcard.search (w ++ Expression.spaced ws) fun taken rest =>
            (capture (spacedParts ignoreCase p) rest).map fun found => (taken, found)).map
              fun (taken, found) => taken :: found := by
      rw [← Expression.search_map]
      simp only [Option.map_map]
      rfl
    have hlongest : longestBlock (captured ignoreCase p) (w :: ws) =
        (longestBlock (blocks? ignoreCase p) (w :: ws)).map
          (Prod.map id (List.map (Text.join [' ']))) := Expression.longestBlock_map _ _ _
    rw [hgroup, hsearch, hlongest, captured, blocks?]
    split
    · rfl
    · simp only [Option.map_map]
      rfl

theorem onWords_spacedParts (hp : ∀ token ∈ p, token.IsValid) :
    Expression.OnWords (captured ignoreCase p) (capture (spacedParts ignoreCase p)) := by
  induction p with
  | nil =>
    intro ws hws
    cases ws with
    | nil => rfl
    | cons w ws => exact (ite_self none).symm
  | cons token p ih =>
    obtain ⟨htoken, hp⟩ := List.forall_mem_cons.1 hp
    intro ws hws
    cases ws with
    | nil => cases token <;> rfl
    | cons w ws =>
      obtain ⟨hw, hws⟩ := List.forall_mem_cons.1 hws
      have hspaced : capture (spacedParts ignoreCase (token :: p)) (Expression.spaced (w :: ws)) =
          capture (token.parts ignoreCase ++ spacedParts ignoreCase p)
            (w ++ Expression.spaced ws) := Expression.search_space _ _
      rw [hspaced]
      exact capture_token htoken hw hws (ih hp)

/-- **The matcher finds what the expression captures.** -/
theorem captures?_eq_capture (hne : p ≠ []) (hp : ∀ token ∈ p, token.IsValid) (input : Text) :
    p.captures? ignoreCase input = capture (p.parts ignoreCase) input := by
  obtain ⟨token, p, rfl⟩ := List.exists_cons_of_ne_nil hne
  obtain ⟨htoken, hp⟩ := List.forall_mem_cons.1 hp
  have hsplit : Text.splitWhen (· == ' ') input ≠ [] := by
    rw [Text.splitWhen_eq_splitOnP]
    exact List.splitOnP_ne_nil _ input
  obtain ⟨w, ws, hwords⟩ := List.exists_cons_of_ne_nil hsplit
  have hspace : ∀ v ∈ w :: ws, ' ' ∉ v :=
    fun v hv => Text.space_not_mem_splitWhen (hwords ▸ hv)
  obtain ⟨hw, hws⟩ := List.forall_mem_cons.1 hspace
  have hinput : input = w ++ Expression.spaced ws := by
    rw [← Expression.join_cons_eq, ← hwords, Text.join_splitWhen_space]
  rw [captures?, hwords, parts_cons]
  conv_rhs => rw [hinput]
  exact (capture_token htoken hw hws (onWords_spacedParts hp)).symm

/-- The words of an input are what is between its spaces, and none of them may be empty. -/
theorem captures?_eq_some_iff {input : Text} {found : List Text} :
    p.captures? ignoreCase input = some found ↔
      (∀ w ∈ Text.splitWhen (· == ' ') input, w ≠ []) ∧
        ∃ blocks, IsGreedyCut ignoreCase p (Text.splitWhen (· == ' ') input) blocks ∧
          found = (wildcardBlocks p blocks).map (Text.join [' ']) := by
  have hany : (Text.splitWhen (· == ' ') input).any List.isEmpty = true ↔
      ¬ ∀ w ∈ Text.splitWhen (· == ' ') input, w ≠ [] := by simp
  rw [captures?]
  split
  · rename_i hempty
    exact iff_of_false nofun fun h => hany.1 hempty h.1
  · rename_i hnonempty
    have hwords := not_not.1 (mt hany.2 hnonempty)
    rw [Option.map_eq_some_iff]
    constructor
    · rintro ⟨blocks, hblocks, rfl⟩
      obtain ⟨cut, hcut, rfl⟩ := blocks?_eq_some_iff.1 hblocks
      exact ⟨hwords, cut, hcut, rfl⟩
    · rintro ⟨-, cut, hcut, rfl⟩
      exact ⟨wildcardBlocks p cut, blocks?_eq_some_iff.2 ⟨cut, hcut, rfl⟩, rfl⟩

theorem isSome_captures?_iff {input : Text} : (p.captures? ignoreCase input).isSome ↔
    (∀ w ∈ Text.splitWhen (· == ' ') input, w ≠ []) ∧
      ∃ blocks, IsCut ignoreCase p (Text.splitWhen (· == ' ') input) blocks := by
  rw [Option.isSome_iff_exists]
  constructor
  · rintro ⟨found, hfound⟩
    obtain ⟨hwords, cut, hcut, -⟩ := captures?_eq_some_iff.1 hfound
    exact ⟨hwords, cut, hcut.toIsCut⟩
  · rintro ⟨hwords, cut, hcut⟩
    cases hblocks : blocks? ignoreCase p (Text.splitWhen (· == ' ') input) with
    | none => exact absurd hcut (blocks?_eq_none_iff.1 hblocks cut)
    | some blocks =>
      obtain ⟨greedy, hgreedy, -⟩ := blocks?_eq_some_iff.1 hblocks
      exact ⟨_, captures?_eq_some_iff.2 ⟨hwords, greedy, hgreedy, rfl⟩⟩

/-- **What a pattern matches, and what it captures.** The texts that are read as patterns are the
written forms of those with valid tokens. Such a pattern, as a matcher and as an anchored expression
alike, matches an input if there is a cut of its words into one block for each token, and captures
the blocks that the wildcards have in the greedy one. -/
theorem captures?_greedy :
    (∀ text p, parse? text = .ok p ↔ p ≠ [] ∧ (∀ token ∈ p, token.IsValid) ∧ p.text = text) ∧
    ∀ text p, parse? text = .ok p → ∀ ignoreCase input,
      let words := Text.splitWhen (· == ' ') input
      p.captures? ignoreCase input = capture (p.parts ignoreCase) input ∧
      p.isMatch ignoreCase input = accepts (p.parts ignoreCase) input ∧
      p.isMatch ignoreCase input = (p.captures? ignoreCase input).isSome ∧
      ((p.captures? ignoreCase input).isSome ↔
        (∀ w ∈ words, w ≠ []) ∧ ∃ blocks, IsCut ignoreCase p words blocks) ∧
      (∀ found, p.captures? ignoreCase input = some found ↔
        (∀ w ∈ words, w ≠ []) ∧ ∃ blocks, IsGreedyCut ignoreCase p words blocks ∧
          found = (wildcardBlocks p blocks).map (Text.join [' '])) ∧
      ∀ found, p.captures? ignoreCase input = some found → found.length = p.wildcardCount := by
  refine ⟨fun text p => parse?_eq_ok_iff, fun text p hparse ignoreCase input => ?_⟩
  obtain ⟨hne, hvalid, -⟩ := parse?_eq_ok_iff.1 hparse
  have hcapture : p.captures? ignoreCase input = capture (p.parts ignoreCase) input :=
    captures?_eq_capture hne hvalid input
  refine ⟨hcapture, ?_, rfl, isSome_captures?_iff, fun found => captures?_eq_some_iff, ?_⟩
  · rw [isMatch, hcapture, isSome_capture]
  · intro found hfound
    obtain ⟨-, cut, hcut, rfl⟩ := captures?_eq_some_iff.1 hfound
    rw [List.length_map, length_wildcardBlocks hcut.fits]

/-- Of the two cuts of these four words the greedy one gives the first wildcard two of them. -/
theorem captures?_greedy_likes :
    ∃ p, parse? "* LIKES _".toList = .ok p ∧
      p.captures? true "who likes likes fish".toList =
        capture (p.parts true) "who likes likes fish".toList ∧
      ∃ blocks,
        IsGreedyCut true p (Text.splitWhen (· == ' ') "who likes likes fish".toList) blocks ∧
          ["who likes".toList, "fish".toList] =
            (wildcardBlocks p blocks).map (Text.join [' ']) := by
  have hparse : parse? "* LIKES _".toList =
      .ok [.wildcard .star, .word "LIKES".toList, .wildcard .underscore] := by decide +kernel
  obtain ⟨hcapture, -, -, -, hfound, -⟩ :=
    captures?_greedy.2 "* LIKES _".toList _ hparse true "who likes likes fish".toList
  exact ⟨_, hparse, hcapture, ((hfound _).1 (by decide +kernel)).2⟩

end Pattern

end Dialogue
