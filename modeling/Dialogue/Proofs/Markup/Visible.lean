import Dialogue.Proofs.Markup.RoundTrip
import Dialogue.Proofs.Text.Markup

/-!
# What is left of markup without its tags

Tags are taken away from a text without regard to quotes: a tag ends at the next `>`, also where
that stands in a quoted value and the tag goes on for the parser. What is left of the markup of a
document is its texts and what its tags leak (`removeMarkup_render`). A tag without a `>` inside
leaks nothing.
-/

namespace Dialogue.Markup

open Unicode Lexeme

/-! ## The texts of a document -/

namespace Node

mutual

def texts : Node → Text
  | .element _ children => textsAll children
  | .text t => t
  | .selfClosing _ | .literalBlock _ | .comment _ => []

def textsAll : List Node → Text
  | [] => []
  | n :: rest => n.texts ++ textsAll rest

end

mutual

/-- Neither a comment nor a literal block stands in the node. -/
def tagsOnly : Node → Bool
  | .element _ children => tagsOnlyAll children
  | .selfClosing _ | .text _ => true
  | .literalBlock _ | .comment _ => false

def tagsOnlyAll : List Node → Bool
  | [] => true
  | n :: rest => n.tagsOnly && tagsOnlyAll rest

end

end Node

namespace Token

def isTextOrTag : Token → Bool
  | .literalBlock _ | .comment _ => false
  | .text _ | .startTag .. | .emptyTag .. | .endTag _ => true

def spoken : Token → Text
  | .text t => t
  | _ => []

/-- What stands in a tag, without its slash. -/
def inside : Token → Text
  | .startTag name attributes | .emptyTag name attributes => name ++ attributes
  | .endTag name => name
  | _ => []

/-- What is left of the markup of a token that is no text. -/
def leak : Token → Text
  | .text _ => []
  | token => Text.withoutTagsFrom false token.lexeme.source

def visible (token : Token) : Text := token.spoken ++ token.leak

end Token

open Node

mutual

theorem texts_eq (n : Node) : n.texts = n.walk.flatMap Token.spoken := by
  cases n with
  | element tag children =>
    rw [texts, walk, textsAll_eq children, List.flatMap_cons, List.flatMap_append]
    exact (List.append_nil _).symm
  | text t => exact (List.append_nil t).symm
  | selfClosing tag | literalBlock t | comment t => rfl

theorem textsAll_eq (ns : List Node) : textsAll ns = (walkAll ns).flatMap Token.spoken := by
  cases ns with
  | nil => rfl
  | cons n rest => rw [textsAll, walkAll, texts_eq n, textsAll_eq rest, List.flatMap_append]

end

mutual

theorem tagsOnly_eq (n : Node) : n.tagsOnly = n.walk.all Token.isTextOrTag := by
  cases n with
  | element tag children =>
    rw [tagsOnly, walk, tagsOnlyAll_eq children, List.all_cons, List.all_append]
    exact (Bool.and_true _).symm
  | text t | selfClosing tag | literalBlock t | comment t => rfl

theorem tagsOnlyAll_eq (ns : List Node) :
    tagsOnlyAll ns = (walkAll ns).all Token.isTextOrTag := by
  cases ns with
  | nil => rfl
  | cons n rest => rw [tagsOnlyAll, walkAll, tagsOnly_eq n, tagsOnlyAll_eq rest, List.all_append]

end

/-! ## Tokens without tags -/

/-- Behind a construct the text goes on outside of tags. -/
theorem withoutTagsFrom_construct_append (k : Construct) (content rest : Text) :
    Text.withoutTagsFrom false ((Lexeme.construct k content).source ++ rest) =
      Text.withoutTagsFrom false (Lexeme.construct k content).source ++
        Text.withoutTagsFrom false rest := by
  obtain ⟨p, hclosing, -⟩ := k.closing_eq
  have hsource : (Lexeme.construct k content).source = k.opening ++ content ++ p ++ ['>'] := by
    rw [Lexeme.source, hclosing, List.append_assoc _ p]
  rw [hsource, List.append_assoc _ ['>'], List.singleton_append]
  exact Text.withoutTagsFrom_append_gt false _ rest

theorem Token.withoutTagsFrom_append {token : Token} (h : ∀ t, token = .text t → '<' ∉ t)
    (rest : Text) :
    Text.withoutTagsFrom false (token.lexeme.source ++ rest) =
      token.visible ++ Text.withoutTagsFrom false rest := by
  cases token with
  | text t =>
    rw [visible, leak, List.append_nil]
    exact Text.withoutTagsFrom_append (h t rfl) rest
  | startTag name attributes | emptyTag name attributes | endTag name | literalBlock t
  | comment t => exact withoutTagsFrom_construct_append _ _ rest

/-- What is left of the markup of tokens is what is left of each. -/
theorem withoutTagsFrom_sources {tokens : List Token} (h : ∀ t, .text t ∈ tokens → '<' ∉ t) :
    Text.withoutTagsFrom false (sources (tokens.map Token.lexeme)) =
      tokens.flatMap Token.visible := by
  induction tokens with
  | nil => rfl
  | cons token rest ih =>
    have htoken : ∀ t, token = .text t → '<' ∉ t := fun t ht => h t (ht ▸ List.mem_cons_self)
    rw [List.map_cons, sources_cons, Token.withoutTagsFrom_append htoken,
      ih fun t ht => h t (List.mem_cons_of_mem token ht), List.flatMap_cons]

theorem Token.leak_eq_nil {token : Token} (htoken : token.isTextOrTag = true)
    (h : '>' ∉ token.inside) : token.leak = [] := by
  cases token with
  | text t => rfl
  | literalBlock t | comment t => cases htoken
  | startTag name attributes => exact Text.withoutTagsFrom_true_of_gt_not_mem h
  | emptyTag name attributes =>
    have hslash : '>' ∉ name ++ attributes ++ ['/'] := fun hmem =>
      (List.mem_append.1 hmem).elim h (by decide)
    exact Text.withoutTagsFrom_true_of_gt_not_mem hslash
  | endTag name =>
    have hslash : '>' ∉ '/' :: name := fun hmem =>
      (List.mem_cons.1 hmem).elim (by decide) h
    exact Text.withoutTagsFrom_true_of_gt_not_mem hslash

/-! ## Documents -/

section Document

variable {source : Text} {d : Document}

/-- No `<` stands in the texts of a parsed document. -/
theorem lt_not_mem_of_parse? (h : Document.parse? source = .ok d) {t : Text}
    (ht : .text t ∈ walkAll d) : '<' ∉ t := by
  obtain ⟨xs, hxs, hwalk⟩ := exists_isLexing_of_parse? h
  rw [hwalk] at ht
  obtain ⟨token, htoken, hcollapsed⟩ := List.mem_map.1 ht
  obtain ⟨x, hx, hxtoken⟩ := List.mem_filterMap.1 htoken
  have hcanonical := (hxs.valid x hx).canonical hxtoken
  rw [hcollapsed] at hcanonical
  exact hcanonical.valid.closed.2

theorem removeMarkup_render_eq (h : Document.parse? source = .ok d) :
    Text.removeMarkup d.render = Text.trim ((walkAll d).flatMap Token.visible) := by
  rw [Text.removeMarkup, Document.render, renderAll_eq,
    withoutTagsFrom_sources fun t ht => lt_not_mem_of_parse? h ht]

/-- The characters that are not white space are those of the texts and those that leak. -/
theorem countP_visible (p : Char → Bool) (tokens : List Token) :
    (tokens.flatMap Token.visible).countP p =
      (tokens.flatMap Token.spoken).countP p + (tokens.flatMap Token.leak).countP p := by
  induction tokens with
  | nil => rfl
  | cons token rest ih =>
    simp only [List.flatMap_cons, List.countP_append, Token.visible, ih]
    omega

/-- **The markup of a parsed document without its tags** is its texts and what its tags leak. In a
document of texts and tags these are the texts if no `>` stands inside a tag, and only if no more
than white space leaks. -/
theorem removeMarkup_render (h : Document.parse? source = .ok d) :
    Text.removeMarkup d.render = Text.trim ((walkAll d).flatMap Token.visible) ∧
    (tagsOnlyAll d = true →
      ((∀ token ∈ walkAll d, '>' ∉ token.inside) →
        Text.removeMarkup d.render = Text.trim (textsAll d)) ∧
      (Text.removeMarkup d.render = Text.trim (textsAll d) →
        ∀ token ∈ walkAll d, ∀ c ∈ token.leak, isWhiteSpace c = true)) := by
  refine ⟨removeMarkup_render_eq h, fun htags => ⟨fun hinside => ?_, fun heq => ?_⟩⟩
  · rw [tagsOnlyAll_eq, List.all_eq_true] at htags
    have hvisible : ∀ token ∈ walkAll d, token.visible = token.spoken := by
      intro token htoken
      rw [Token.visible, Token.leak_eq_nil (htags token htoken) (hinside token htoken),
        List.append_nil]
    rw [removeMarkup_render_eq h, textsAll_eq, List.flatMap_congr hvisible]
  · rw [removeMarkup_render_eq h, textsAll_eq] at heq
    have hcount := congrArg (List.countP (!isWhiteSpace ·)) heq
    rw [Text.countP_trim, Text.countP_trim, countP_visible] at hcount
    intro token htoken c hc
    have hleak := List.countP_eq_zero.1 (Nat.add_eq_left.1 hcount) c
      (List.mem_flatMap.2 ⟨token, htoken, hc⟩)
    simpa using hleak

end Document

/-- Quotes do not matter as long as no `>` stands in them. -/
theorem removeMarkup_render_greeting :
    let d : Document :=
      [.text " ".toList, .element ⟨"b".toList, " k='x'".toList⟩
        [.text "Hi ".toList, .selfClosing ⟨"br".toList, []⟩, .element ⟨"i".toList, []⟩
          [.text "you".toList]], .text " there ".toList]
    Document.parse? " <b k='x'>Hi <br/><i>you</i></b> there ".toList = .ok d ∧
      tagsOnlyAll d = true ∧ Text.removeMarkup d.render = Text.trim (textsAll d) ∧
      Text.trim (textsAll d) = "Hi you there".toList ∧
      ∀ token ∈ walkAll d, ∀ c ∈ token.leak, isWhiteSpace c = true := by
  intro d
  have hparse : Document.parse? " <b k='x'>Hi <br/><i>you</i></b> there ".toList = .ok d := by
    decide +kernel
  have htags : tagsOnlyAll d = true := by decide
  obtain ⟨hif, honlyIf⟩ := (removeMarkup_render hparse).2 htags
  have htexts := hif (by decide)
  exact ⟨hparse, htags, htexts, by decide, honlyIf htexts⟩

/-- A quoted `>` in an attribute is taken for the end of the tag. -/
theorem removeMarkup_quoted_gt :
    let d : Document := [.element ⟨"a".toList, " k=\"x>y\"".toList⟩ [.text "Hi".toList]]
    Document.parse? "<a k=\"x>y\">Hi</a>".toList = .ok d ∧ tagsOnlyAll d = true ∧
      Text.trim (textsAll d) = "Hi".toList ∧ Text.removeMarkup d.render = "y\">Hi".toList := by
  decide +kernel

end Dialogue.Markup
