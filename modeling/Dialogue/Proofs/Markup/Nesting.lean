import Dialogue.Proofs.Markup.Walk

/-!
# Tags that nest

A tree is built exactly from tokens whose tags nest, and any other tokens are reported by the first
end tag that cannot follow on the tokens before it, or else by the innermost element that is still
open (`ofTokens?_nesting`). What carries the proof is which elements are open behind tokens
(`Opens`): the stack of the builder holds their names and places (`Opens.exists_stack`), and either
some are open behind all of the tokens or one of the end tags fits none (`opens_or_misfit`).
-/

namespace Dialogue.Markup

open Node

variable {tokens before inside rest : List SpannedToken} {elements : List (Text × Span)}
  {name : Text} {span : Span}

def Token.isElementTag : Token → Bool
  | .startTag _ _ | .endTag _ => true
  | _ => false

/-- Each start tag has an end tag of its name, and the tokens between the two nest as well. -/
inductive Nested : List SpannedToken → Prop
  | nil : Nested []
  | other {t : SpannedToken} {rest : List SpannedToken} : t.token.isElementTag = false →
      Nested rest → Nested (t :: rest)
  | element {name attributes : Text} {first last : Span} {inside rest : List SpannedToken} :
      Nested inside → Nested rest →
      Nested (⟨.startTag name attributes, first⟩ :: (inside ++ ⟨.endTag name, last⟩ :: rest))

/-- The tokens are the beginning of some that nest. -/
def Nestable (tokens : List SpannedToken) : Prop := ∃ rest, Nested (tokens ++ rest)

/-- With this end tag, and not before it, the tokens stop to be the beginning of some that nest. -/
structure BreaksAt (tokens before : List SpannedToken) (name : Text) (span : Span) : Prop where
  exists_after : ∃ after, tokens = before ++ ⟨.endTag name, span⟩ :: after
  nestable : Nestable before
  not_nestable : ¬ Nestable (before ++ [⟨.endTag name, span⟩])

/-- The start tag of this element is the last one that has no end tag yet. -/
def Innermost (tokens : List SpannedToken) (name : Text) (span : Span) : Prop :=
  ∃ outer attributes inside,
    tokens = outer ++ ⟨.startTag name attributes, span⟩ :: inside ∧ Nested inside

theorem Nested.append (h : Nested tokens) (hrest : Nested rest) : Nested (tokens ++ rest) := by
  induction h with
  | nil => exact hrest
  | other ht _ ih => exact .other ht ih
  | element hinside _ _ ih =>
    rw [List.cons_append, List.append_assoc, List.cons_append]
    exact .element hinside ih

theorem Nestable.of_append (h : Nestable (tokens ++ rest)) : Nestable tokens := by
  obtain ⟨more, hmore⟩ := h
  exact ⟨rest ++ more, List.append_assoc tokens rest more ▸ hmore⟩

/-! ## Open elements -/

/-- The elements that are open behind tokens, the innermost first, each with its name and the place
of its start tag. -/
inductive Opens : List SpannedToken → List (Text × Span) → Prop
  | nested {tokens : List SpannedToken} : Nested tokens → Opens tokens []
  | element {outer inside : List SpannedToken} {elements : List (Text × Span)}
      {name attributes : Text} {span : Span} : Opens outer elements → Nested inside →
      Opens (outer ++ ⟨.startTag name attributes, span⟩ :: inside) ((name, span) :: elements)

theorem Opens.append (h : Opens tokens elements) (hrest : Nested rest) :
    Opens (tokens ++ rest) elements := by
  cases h with
  | nested htokens => exact .nested (htokens.append hrest)
  | element houter hinside =>
    rw [List.append_assoc, List.cons_append]
    exact .element houter (hinside.append hrest)

/-- The end tag of the innermost element closes it. -/
theorem Opens.close (h : Opens tokens ((name, span) :: elements)) (last : Span) :
    Opens (tokens ++ [⟨.endTag name, last⟩]) elements := by
  cases h with
  | element houter hinside =>
    rw [List.append_assoc, List.cons_append]
    exact houter.append (.element hinside .nil)

theorem Opens.innermost (h : Opens tokens ((name, span) :: elements)) :
    Innermost tokens name span := by
  cases h with
  | element _ hinside => exact ⟨_, _, _, rfl, hinside⟩

theorem Opens.nested_of_nil (h : Opens tokens []) : Nested tokens := by
  cases h with
  | nested htokens => exact htokens

/-- Tokens go on to some that nest if their open elements are closed one after the other. -/
theorem Opens.nestable (h : Opens tokens elements) : Nestable tokens := by
  induction elements generalizing tokens with
  | nil => exact ⟨[], (List.append_nil tokens).symm ▸ h.nested_of_nil⟩
  | cons element elements ih => exact (ih (h.close element.2)).of_append

def IsMisfit (elements : List (Text × Span)) (name : Text) : Prop :=
  ∀ element ∈ elements.head?, element.1 ≠ name

/-- Behind any tokens some elements are open, unless one of the end tags is a misfit. -/
theorem opens_or_misfit (tokens : List SpannedToken) :
    (∃ elements, Opens tokens elements) ∨
      ∃ before name span after elements, tokens = before ++ ⟨.endTag name, span⟩ :: after ∧
        Opens before elements ∧ IsMisfit elements name := by
  induction tokens using List.reverseRecOn with
  | nil => exact .inl ⟨[], .nested .nil⟩
  | append_singleton tokens t ih =>
    rcases ih with ⟨elements, hopens⟩ | ⟨before, name, span, after, elements, rfl, hopens, hmisfit⟩
    · obtain ⟨token, span⟩ := t
      cases token with
      | startTag name attributes => exact .inl ⟨_, .element hopens .nil⟩
      | endTag name =>
        by_cases hmisfit : IsMisfit elements name
        · exact .inr ⟨tokens, name, span, [], elements, rfl, hopens, hmisfit⟩
        · unfold IsMisfit at hmisfit
          push Not at hmisfit
          obtain ⟨⟨_, place⟩, hhead, rfl⟩ := hmisfit
          obtain ⟨outer, rfl⟩ := List.head?_eq_some_iff.1 hhead
          exact .inl ⟨outer, hopens.close span⟩
      | text t | emptyTag name attributes | literalBlock t | comment t =>
        exact .inl ⟨elements, hopens.append (.other rfl .nil)⟩
    · refine .inr ⟨before, name, span, after ++ [t], elements, ?_, hopens, hmisfit⟩
      rw [List.append_assoc, List.cons_append]

/-! ## Building -/

theorem Token.exists_leaf {token : Token} (h : token.isElementTag = false) :
    ∃ n, token.leaf? = some n := by
  cases token with
  | text t | emptyTag name attributes | literalBlock t | comment t => exact ⟨_, rfl⟩
  | startTag name attributes | endTag name => cases h

/-- Tokens that nest add their nodes, whatever elements are open. -/
theorem buildTree_nested (h : Nested inside) : ∃ ns, ∀ stack nodes rest,
    buildTree stack nodes (inside ++ rest) = buildTree stack (ns ++ nodes) rest := by
  induction h with
  | nil => exact ⟨[], fun _ _ _ => rfl⟩
  | @other t _ ht _ ih =>
    obtain ⟨n, hleaf⟩ := Token.exists_leaf ht
    obtain ⟨ns, hns⟩ := ih
    refine ⟨ns ++ [n], fun stack nodes rest => ?_⟩
    rw [List.cons_append, buildTree_leaf hleaf, hns, List.append_assoc, List.singleton_append]
  | @element name attributes first last _ _ _ _ ihinside ihrest =>
    obtain ⟨ms, hms⟩ := ihinside
    obtain ⟨ns, hns⟩ := ihrest
    refine ⟨ns ++ [.element ⟨name, attributes⟩ ms.reverse], fun stack nodes rest => ?_⟩
    rw [List.cons_append, buildTree_startTag, List.append_assoc, hms, List.cons_append,
      buildTree_endTag, if_pos rfl, hns, List.append_nil, List.append_assoc, List.singleton_append]

/-- **The stack of the builder holds the open elements.** -/
theorem Opens.exists_stack (h : Opens before elements) :
    ∃ stack nodes, stack.map (fun e => (e.tag.name, e.span)) = elements ∧
      ∀ rest, Document.ofTokens? (before ++ rest) = buildTree stack nodes rest := by
  induction h with
  | nested hbefore =>
    obtain ⟨ns, hns⟩ := buildTree_nested hbefore
    exact ⟨[], ns ++ [], rfl, fun rest => hns [] [] rest⟩
  | @element _ _ _ name attributes span _ hinside ih =>
    obtain ⟨stack, nodes, rfl, hstack⟩ := ih
    obtain ⟨ns, hns⟩ := buildTree_nested hinside
    refine ⟨⟨⟨name, attributes⟩, span, nodes⟩ :: stack, ns ++ [], rfl, fun rest => ?_⟩
    rw [List.append_assoc, hstack, List.cons_append, buildTree_startTag, hns]

theorem exists_ofTokens?_of_nested (h : Nested tokens) :
    ∃ d, Document.ofTokens? tokens = .ok d := by
  obtain ⟨ns, hns⟩ := buildTree_nested h
  have hbuild := hns [] [] []
  rw [List.append_nil, buildTree] at hbuild
  exact ⟨_, hbuild⟩

theorem ofTokens?_of_open (h : Opens tokens ((name, span) :: elements)) :
    Document.ofTokens? tokens = .error (.unclosedElement name span) := by
  obtain ⟨stack, nodes, hstack, hbuild⟩ := h.exists_stack
  obtain ⟨innermost, outer, rfl, he, -⟩ := List.map_eq_cons_iff.1 hstack
  obtain ⟨rfl, rfl⟩ := Prod.mk.inj he
  rw [← List.append_nil tokens, hbuild, buildTree]

theorem ofTokens?_stray (h : Opens before []) (rest : List SpannedToken) :
    Document.ofTokens? (before ++ ⟨.endTag name, span⟩ :: rest) =
      .error (.strayEndTag name span) := by
  obtain ⟨stack, nodes, hstack, hbuild⟩ := h.exists_stack
  rw [List.map_eq_nil_iff.1 hstack] at hbuild
  rw [hbuild, buildTree]

theorem ofTokens?_unmatched {opened : Text} {place : Span}
    (h : Opens before ((opened, place) :: elements)) (hne : opened ≠ name)
    (rest : List SpannedToken) :
    Document.ofTokens? (before ++ ⟨.endTag name, span⟩ :: rest) =
      .error (.unmatchedEndTag opened name span) := by
  obtain ⟨stack, nodes, hstack, hbuild⟩ := h.exists_stack
  obtain ⟨innermost, outer, rfl, he, -⟩ := List.map_eq_cons_iff.1 hstack
  obtain ⟨rfl, rfl⟩ := Prod.mk.inj he
  rw [hbuild, buildTree_endTag, if_neg hne]

/-- No tree is built where an end tag is a misfit. -/
theorem ofTokens?_misfit (h : Opens before elements) (hmisfit : IsMisfit elements name)
    (span : Span) (rest : List SpannedToken) :
    ∃ e, Document.ofTokens? (before ++ ⟨.endTag name, span⟩ :: rest) = .error e := by
  cases elements with
  | nil => exact ⟨_, ofTokens?_stray h rest⟩
  | cons element elements => exact ⟨_, ofTokens?_unmatched h (hmisfit element rfl) rest⟩

theorem not_nestable_of_misfit (h : Opens before elements) (hmisfit : IsMisfit elements name) :
    ¬ Nestable (before ++ [⟨.endTag name, span⟩]) := by
  rintro ⟨rest, hnested⟩
  obtain ⟨d, hd⟩ := exists_ofTokens?_of_nested hnested
  obtain ⟨e, he⟩ := ofTokens?_misfit h hmisfit span rest
  rw [List.append_assoc, List.singleton_append, he] at hd
  cases hd

/-! ## What is accepted, and what is reported -/

theorem Nestable.exists_opens (h : Nestable tokens) : ∃ elements, Opens tokens elements := by
  rcases opens_or_misfit tokens with
    hopens | ⟨before, name, span, after, elements, rfl, hopens, hmisfit⟩
  · exact hopens
  · rw [← List.singleton_append, ← List.append_assoc] at h
    exact absurd h.of_append (not_nestable_of_misfit hopens hmisfit)

theorem Innermost.exists_opens (h : Innermost tokens name span) (hnestable : Nestable tokens) :
    ∃ elements, Opens tokens ((name, span) :: elements) := by
  obtain ⟨outer, attributes, inside, rfl, hinside⟩ := h
  obtain ⟨elements, houter⟩ := hnestable.of_append.exists_opens
  exact ⟨elements, .element houter hinside⟩

/-- Where tokens begin some that nest, either they nest themselves or an element is open. -/
theorem Nestable.nested_or_innermost (h : Nestable tokens) :
    Nested tokens ∨ ∃ name span, Innermost tokens name span := by
  obtain ⟨elements, hopens⟩ := h.exists_opens
  cases elements with
  | nil => exact .inl hopens.nested_of_nil
  | cons element elements => exact .inr ⟨_, _, hopens.innermost⟩

/-- An end tag at which tokens stop to nest is reported, with the element that it does not close. -/
theorem BreaksAt.ofTokens?_eq (h : BreaksAt tokens before name span) :
    (Nested before → Document.ofTokens? tokens = .error (.strayEndTag name span)) ∧
      ∀ opened place, Innermost before opened place →
        Document.ofTokens? tokens = .error (.unmatchedEndTag opened name span) := by
  obtain ⟨⟨after, rfl⟩, hnestable, hnot⟩ := h
  refine ⟨fun hnested => ofTokens?_stray (.nested hnested) after, fun opened place hopened => ?_⟩
  obtain ⟨elements, hopens⟩ := hopened.exists_opens hnestable
  have hne : opened ≠ name := by
    rintro rfl
    exact hnot (hopens.close span).nestable
  exact ofTokens?_unmatched hopens hne after

theorem ofTokens?_eq_ok_iff_nested :
    (∃ d, Document.ofTokens? tokens = .ok d) ↔ Nested tokens := by
  refine ⟨fun ⟨d, hd⟩ => ?_, exists_ofTokens?_of_nested⟩
  rcases opens_or_misfit tokens with
    ⟨elements, hopens⟩ | ⟨before, name, span, after, elements, rfl, hopens, hmisfit⟩
  · cases elements with
    | nil => exact hopens.nested_of_nil
    | cons element elements =>
      rw [ofTokens?_of_open hopens] at hd
      cases hd
  · obtain ⟨e, he⟩ := ofTokens?_misfit hopens hmisfit span after
    rw [he] at hd
    cases hd

/-- Tokens at none of whose end tags they stop to nest are the beginning of some that nest. -/
theorem nestable_of_not_breaksAt (h : ∀ before name span, ¬ BreaksAt tokens before name span) :
    Nestable tokens := by
  rcases opens_or_misfit tokens with
    ⟨elements, hopens⟩ | ⟨before, name, span, after, elements, rfl, hopens, hmisfit⟩
  · exact hopens.nestable
  · exact absurd ⟨⟨after, rfl⟩, hopens.nestable, not_nestable_of_misfit hopens hmisfit⟩
      (h before name span)

/-- **A tree is built exactly from tokens that nest**, and the walk through it gives them back, with
the white space collapsed in text. Otherwise the first end tag is reported with which they stop to
be the beginning of tokens that nest: as a stray one if nothing is open there, and else with the
name of the innermost open element. If there is no such end tag, the innermost element is reported
that is open at the end. -/
theorem ofTokens?_nesting (tokens : List SpannedToken) :
    ((∃ d, Document.ofTokens? tokens = .ok d) ↔ Nested tokens) ∧
    (∀ d, Document.ofTokens? tokens = .ok d →
      walkAll d = tokens.map fun t => t.token.collapsed) ∧
    (∀ before name span, BreaksAt tokens before name span →
      (Nested before ∨ ∃ opened place, Innermost before opened place) ∧
      (Nested before → Document.ofTokens? tokens = .error (.strayEndTag name span)) ∧
      ∀ opened place, Innermost before opened place →
        Document.ofTokens? tokens = .error (.unmatchedEndTag opened name span)) ∧
    (¬ Nested tokens → (∀ before name span, ¬ BreaksAt tokens before name span) →
      (∃ name span, Innermost tokens name span) ∧
      ∀ name span, Innermost tokens name span →
        Document.ofTokens? tokens = .error (.unclosedElement name span)) := by
  refine ⟨ofTokens?_eq_ok_iff_nested, fun d hd => ?_, fun before name span hbreaks => ?_,
    fun hnot hbreaks => ?_⟩
  · exact walkAll_of_buildTree hd
  · exact ⟨hbreaks.nestable.nested_or_innermost, hbreaks.ofTokens?_eq⟩
  · have hnestable := nestable_of_not_breaksAt hbreaks
    refine ⟨hnestable.nested_or_innermost.resolve_left hnot, fun name span hopened => ?_⟩
    obtain ⟨elements, hopens⟩ := hopened.exists_opens hnestable
    exact ofTokens?_of_open hopens

/-- An end tag is held against the innermost element only, though an outer one has its name. -/
example (s : Span) :
    Document.ofTokens? [⟨.startTag ['a'] [], s⟩, ⟨.startTag ['b'] [], s⟩, ⟨.endTag ['a'], s⟩,
      ⟨.endTag ['b'], s⟩] = .error (.unmatchedEndTag ['b'] ['a'] s) :=
  rfl

end Dialogue.Markup
