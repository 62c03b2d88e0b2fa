import Dialogue.Proofs.Markup.Walk
import Mathlib.Data.List.Forall2

/-!
# What serializing changes

The markup of a parsed document is the source again, lexeme by lexeme, but for its layout: runs
of white space in text have become one space, instructions are gone, and so is the white space
around the names of end tags (`render_parse`).
-/

namespace Dialogue.Markup

open Unicode

/-- What becomes of a lexeme when the document is written again. -/
inductive Lexeme.Tidied : Lexeme → Text → Prop
  | text {t u : Text} : Text.Collapses t u → Tidied (.text t) u
  | instruction (content : Text) : Tidied (.construct .instruction content) []
  | endTag {before name after : Text} : (∀ c ∈ before, isWhiteSpace c = true) →
      (∀ c ∈ after, isWhiteSpace c = true) → Text.Trimmed name →
      Tidied (.construct .endTag (before ++ name ++ after)) ("</".toList ++ name ++ ['>'])
  | verbatim {k : Construct} (content : Text) : k ∈ [.comment, .literalBlock, .openTag] →
      Tidied (.construct k content) (Lexeme.construct k content).source

theorem withoutSlash_eq_some_iff {content c : Text} :
    withoutSlash content = some c ↔ content = c ++ ['/'] := by
  unfold withoutSlash
  constructor
  · intro h
    split at h
    · next hlast =>
      obtain ⟨body, rfl⟩ := List.getLast?_eq_some_iff.1 hlast
      rw [List.dropLast_concat] at h
      rw [Option.some.inj h]
    · cases h
  · rintro rfl
    simp

theorem collapsed_ofTagContent (content : Text) :
    (Token.ofTagContent content).collapsed = Token.ofTagContent content := by
  rw [Token.ofTagContent]
  cases withoutSlash content <;> rfl

/-- The token of a tag is written as the tag is. -/
theorem lexeme_ofTagContent (content : Text) :
    (Token.ofTagContent content).lexeme = .construct .openTag content := by
  rw [Token.ofTagContent]
  cases hslash : withoutSlash content with
  | none => simp only [Token.lexeme, List.takeWhile_append_dropWhile]
  | some c =>
    obtain rfl := withoutSlash_eq_some_iff.1 hslash
    simp only [Token.lexeme, List.takeWhile_append_dropWhile]

def Lexeme.rewritten (x : Lexeme) : Text :=
  (x.token?.map fun token => token.collapsed.lexeme.source).getD []

/-- What a lexeme adds to the markup is the lexeme, but for its layout. -/
theorem Lexeme.tidied_rewritten (x : Lexeme) : x.Tidied x.rewritten := by
  cases x with
  | text t => exact .text (Text.collapses_iff.2 rfl)
  | construct k content =>
    cases k with
    | comment | literalBlock => exact .verbatim content (by decide)
    | instruction => exact .instruction content
    | openTag =>
      have hrewritten : (Lexeme.construct .openTag content).rewritten =
          (Lexeme.construct .openTag content).source := by
        show (Token.ofTagContent content).collapsed.lexeme.source = _
        rw [collapsed_ofTagContent, lexeme_ofTagContent]
      rw [hrewritten]
      exact .verbatim content (by decide)
    | endTag =>
      obtain ⟨before, after, hcontent, hbefore, hafter⟩ := Text.exists_eq_append_trim content
      have h := Tidied.endTag hbefore hafter (Text.trimmed_trim content)
      rwa [← hcontent] at h

/-- The markup of a document whose walk gives the tokens of lexemes. -/
theorem render_of_walkAll {d : Document} {xs : List Lexeme}
    (h : Node.walkAll d = (xs.filterMap Lexeme.token?).map Token.collapsed) :
    d.render = (xs.map Lexeme.rewritten).flatten := by
  rw [Document.render, Node.renderAll_eq, h]
  clear h
  induction xs with
  | nil => rfl
  | cons x xs ih =>
    rw [List.filterMap_cons, List.map_cons, List.flatten_cons, ← ih, Lexeme.rewritten]
    cases x.token? <;> rfl

/-- **Serializing a parsed document changes only the layout of the source.** The markup is that
of the lexemes one after the other, each tidied, and the walk through the document gives their
tokens, so they are in the same order and nest in the same way. -/
theorem render_parse {source : Text} {d : Document} (h : Document.parse? source = .ok d) :
    ∃ xs outs, IsLexing source xs ∧ List.Forall₂ Lexeme.Tidied xs outs ∧
      d.render = outs.flatten ∧
      Node.walkAll d = (xs.filterMap Lexeme.token?).map Token.collapsed := by
  obtain ⟨xs, hxs, hwalk⟩ := exists_isLexing_of_parse? h
  refine ⟨xs, xs.map Lexeme.rewritten, hxs, ?_, render_of_walkAll hwalk, hwalk⟩
  rw [List.forall₂_map_right_iff, List.forall₂_same]
  intro x _
  exact x.tidied_rewritten

theorem render_parse_greeting :
    let source := "Hi  <?x?><b >you</ b >".toList
    let d : Document := [.text "Hi ".toList, .element ⟨"b".toList, " ".toList⟩ [.text "you".toList]]
    Document.parse? source = .ok d ∧
      ∃ xs outs, IsLexing source xs ∧ List.Forall₂ Lexeme.Tidied xs outs ∧
        "Hi <b >you</b>".toList = outs.flatten ∧
        Node.walkAll d = (xs.filterMap Lexeme.token?).map Token.collapsed := by
  intro source d
  have hparse : Document.parse? source = .ok d := by decide +kernel
  exact ⟨hparse, render_parse hparse⟩

end Dialogue.Markup
