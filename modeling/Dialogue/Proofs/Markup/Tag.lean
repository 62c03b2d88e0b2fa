import Dialogue.Proofs.Markup.Attribute
import Dialogue.Proofs.Markup.RoundTrip

/-!
# Tags are read as they are written

A tag that closes itself, with a name and attributes behind white space, is parsed to one node with
this name (`parse?_selfClosing`). All attributes of a tag that is made with attributes are read back
(`parse_withAttributes`). Of the attributes that an author writes, those are read that stand before
the first one that is separated by white space other than blanks (`parse_authored`); behind a
no-break space an attribute is lost (`parse_noBreakSpace`).
-/

namespace Dialogue.Markup

open Unicode Node

variable {name attributeText space : Text} {c : Char}

/-! ## What may stand in a tag -/

theorem IsTagContent.append {s t : Text} (hs : IsTagContent s) (ht : IsTagContent t) :
    IsTagContent (s ++ t) := by
  induction hs with
  | nil => exact ht
  | plain hc _ ih => exact .plain hc ih
  | quoted hquote hinside _ ih =>
    rw [List.cons_append, List.append_assoc, List.cons_append]
    exact .quoted hquote hinside ih

theorem isTagContent_of_forall {p : Char → Bool} (hp : ['<', '>', '"', '\''].any p = false)
    {t : Text} (h : ∀ c ∈ t, p c = true) : IsTagContent t := by
  induction t with
  | nil => exact .nil
  | cons c t ih =>
    obtain ⟨hc, ht⟩ := List.forall_mem_cons.1 h
    exact .plain (fun hmem => List.any_eq_false.1 hp c hmem hc) (ih ht)

theorem isTagContent_of_isKey (h : IsKey name) : IsTagContent name :=
  isTagContent_of_forall (by decide) (List.all_eq_true.1 h.2)

theorem isTagContent_of_isWhiteSpace (h : ∀ c ∈ space, isWhiteSpace c = true) :
    IsTagContent space :=
  isTagContent_of_forall (by decide) h

theorem WrittenAttribute.isTagContent_source (a : WrittenAttribute) : IsTagContent a.source := by
  have hfront := (isTagContent_of_isWhiteSpace a.isWhiteSpace_of_mem).append
    (isTagContent_of_isKey a.isKey)
  have hvalue : IsTagContent ('=' :: a.quote :: (a.value ++ [a.quote])) :=
    .plain (by decide) (.quoted a.isQuote a.quote_not_mem .nil)
  rw [source, List.append_assoc]
  exact hfront.append hvalue

theorem isTagContent_sources (attributes : List WrittenAttribute) :
    IsTagContent (attributes.flatMap WrittenAttribute.source) := by
  induction attributes with
  | nil => exact .nil
  | cons a attributes ih => exact a.isTagContent_source.append ih

/-- What follows the name of a tag begins with white space. -/
theorem isWhiteSpace_of_head?_sources (attributes : List WrittenAttribute)
    (hspace : ∀ c ∈ space, isWhiteSpace c = true) :
    ∀ c ∈ (attributes.flatMap WrittenAttribute.source ++ space).head?, isWhiteSpace c = true := by
  intro c hc
  cases attributes with
  | nil => exact hspace c (List.mem_of_mem_head? hc)
  | cons a attributes =>
    obtain ⟨d, ds, hseparator⟩ := List.exists_cons_of_ne_nil a.separator_ne_nil
    rw [List.flatMap_cons, WrittenAttribute.source, hseparator] at hc
    obtain rfl := Option.some.inj hc
    exact a.isWhiteSpace_of_mem d (hseparator ▸ List.mem_cons_self)

/-! ## Tags that close themselves -/

/-- No construct but an opening tag begins with a name behind its `<`. -/
theorem begins_openTag (hname : IsKey name) (rest : Text) :
    Construct.openTag.Begins (Construct.openTag.opening ++ (name ++ rest)) := by
  refine ⟨List.prefix_append _ _, fun _ m hm hopening => ?_⟩
  obtain ⟨c, cs, rfl⟩ := List.exists_cons_of_ne_nil hname.1
  have hc : isNameChar c = true := List.all_eq_true.1 hname.2 c List.mem_cons_self
  cases m with
  | openTag => exact absurd hm (by decide)
  | comment | instruction | literalBlock | endTag =>
    obtain ⟨rfl, -⟩ := List.cons_prefix_cons.1 (List.cons_prefix_cons.1 hopening).2
    exact absurd hc (by decide)

/-- A name ends where white space follows. -/
theorem span_name (hname : IsKey name)
    (hhead : ∀ c ∈ attributeText.head?, isWhiteSpace c = true) :
    (name ++ attributeText).takeWhile (!isWhiteSpace ·) = name ∧
      (name ++ attributeText).dropWhile (!isWhiteSpace ·) = attributeText := by
  have hchars : ∀ c ∈ name, (!isWhiteSpace c) = true := by
    intro c hc
    rw [Bool.not_eq_true', isWhiteSpace_of_isNameChar (List.all_eq_true.1 hname.2 c hc)]
  exact Text.span_append hchars fun c hc => by rw [hhead c hc, Bool.not_true]

theorem canonical_emptyTag (hname : IsKey name) (hcontent : IsTagContent attributeText)
    (hhead : ∀ c ∈ attributeText.head?, isWhiteSpace c = true) :
    (Token.emptyTag name attributeText).Canonical := by
  have hslash : IsTagContent ['/'] := .plain (by decide) .nil
  have hwithout : withoutSlash (name ++ attributeText ++ ['/']) = some (name ++ attributeText) :=
    withoutSlash_eq_some_iff.2 rfl
  obtain ⟨htake, hdrop⟩ := span_name hname hhead
  refine ⟨⟨⟨?_, ?_⟩, ?_⟩, ?_⟩
  · rw [List.append_assoc]
    exact begins_openTag hname _
  · exact ((isTagContent_of_isKey hname).append hcontent).append hslash
  · show tagName (name ++ attributeText ++ ['/']) ≠ []
    rw [tagName, hwithout, Option.getD_some, htake]
    exact hname.1
  · show some (Token.ofTagContent (name ++ attributeText ++ ['/'])) = _
    rw [Token.ofTagContent, hwithout]
    simp only [htake, hdrop]

/-- **A tag that closes itself is parsed to one node**, with the attribute text as it is written. -/
theorem parse?_selfClosing {tag : Tag} (hname : IsKey tag.name)
    (hcontent : IsTagContent tag.attributeText)
    (hhead : ∀ c ∈ tag.attributeText.head?, isWhiteSpace c = true) :
    Document.parse? tag.selfClosing = .ok [.selfClosing tag] := by
  have hcanonical : ∀ t ∈ walkAll [.selfClosing tag], t.Canonical :=
    List.forall_mem_singleton.2 (canonical_emptyTag hname hcontent hhead)
  have hparse := parse?_render hcanonical (joinTexts_walkAll [.selfClosing tag])
  have hrender : Document.render [.selfClosing tag] = tag.selfClosing := List.append_nil _
  rw [hrender] at hparse
  exact hparse

/-- A tag with written attributes is parsed. -/
theorem parse?_written (hname : IsKey name) (attributes : List WrittenAttribute)
    (hspace : ∀ c ∈ space, isWhiteSpace c = true) :
    let tag : Tag := ⟨name, attributes.flatMap WrittenAttribute.source ++ space⟩
    Document.parse? tag.selfClosing = .ok [.selfClosing tag] :=
  parse?_selfClosing hname
    ((isTagContent_sources attributes).append (isTagContent_of_isWhiteSpace hspace))
    (isWhiteSpace_of_head?_sources attributes hspace)

/-- **A tag that is made with attributes is read back**: its attributes are the given ones, in
order, and its markup is parsed to a document with just this tag. -/
theorem parse_withAttributes (name : Text) {attributes : Attributes}
    (h : ∀ a ∈ attributes, IsKey a.1) :
    readAttributes (Tag.withAttributes name attributes).attributeText = attributes ∧
      (IsKey name → Document.parse? (Node.selfClosing (Tag.withAttributes name attributes)).render =
        .ok [.selfClosing (Tag.withAttributes name attributes)]) := by
  refine ⟨readAttributes_writeAttributes h, fun hname => ?_⟩
  obtain ⟨written, hsource, -, -⟩ := exists_written h
  have hparse := @parse?_written name [] hname written nofun
  rw [List.append_nil, ← hsource] at hparse
  exact hparse

/-- A key may come twice, and a value may look like markup. -/
theorem parse_withAttributes_markup :
    let attributes : Attributes :=
      [("name".toList, "<b a=\"1\">'&lt;\n".toList), ("x-1:y.z_".toList, []),
        ("name".toList, "/>".toList)]
    let tag := Tag.withAttributes "set".toList attributes
    (∀ a ∈ attributes, IsKey a.1) ∧ IsKey "set".toList ∧
      readAttributes tag.attributeText = attributes ∧
      Document.parse? (Node.selfClosing tag).render = .ok [.selfClosing tag] := by
  intro attributes tag
  have hkeys : ∀ a ∈ attributes, IsKey a.1 := by decide
  have hname : IsKey "set".toList := by decide
  exact ⟨hkeys, hname, (parse_withAttributes "set".toList hkeys).1,
    (parse_withAttributes "set".toList hkeys).2 hname⟩

/-! ## Tags that are written by hand -/

/-- **Attributes are read in order** from a tag with a name of letters and digits, up to the first
one in front of which there is white space other than blanks. So all are read exactly if only blanks
stand in front of them. -/
theorem parse_authored (attributes : List WrittenAttribute) (hne : name ≠ [])
    (hname : ∀ c ∈ name, isAlphanumeric c = true) (hspace : ∀ c ∈ space, isWhiteSpace c = true) :
    ∃ tag : Tag,
      Document.parse? (['<'] ++ name ++ attributes.flatMap WrittenAttribute.source ++ space ++
        "/>".toList) = .ok [.selfClosing tag] ∧
      tag.name = name ∧
      tag.attributes =
        (attributes.takeWhile WrittenAttribute.isBehindBlanks).map WrittenAttribute.pair ∧
      (tag.attributes = attributes.map WrittenAttribute.pair ↔
        ∀ a ∈ attributes, ∀ c ∈ a.separator, isBlank c = true) := by
  have hkey : IsKey name :=
    ⟨hne, List.all_eq_true.2 fun c hc => isNameChar_of_isAlphanumeric (hname c hc)⟩
  have hread := readAttributes_sources attributes hspace
  refine ⟨⟨name, attributes.flatMap WrittenAttribute.source ++ space⟩, ?_, rfl, hread, ?_⟩
  · have hsource : ['<'] ++ name ++ attributes.flatMap WrittenAttribute.source ++ space ++
        "/>".toList =
        Tag.selfClosing ⟨name, attributes.flatMap WrittenAttribute.source ++ space⟩ := by
      simp only [Tag.selfClosing, List.append_assoc]
    rw [hsource]
    exact parse?_written hkey attributes hspace
  · show readAttributes _ = _ ↔ _
    rw [hread]
    have hall : (∀ a ∈ attributes, ∀ c ∈ a.separator, isBlank c = true) ↔
        attributes.takeWhile WrittenAttribute.isBehindBlanks = attributes := by
      rw [List.takeWhile_eq_self_iff]
      simp only [WrittenAttribute.isBehindBlanks, List.all_eq_true]
    rw [hall]
    constructor
    · intro h
      have hlength := congrArg List.length h
      rw [List.length_map, List.length_map] at hlength
      exact (List.takeWhile_prefix _).eq_of_length hlength
    · intro h
      rw [h]

/-- Blanks of every kind, quotes of both kinds, and values that look like markup. -/
theorem parse_authored_blanks :
    let attributes : List WrittenAttribute :=
      [⟨" \t".toList, "name".toList, '"', "it's &lt;b/&gt;".toList, by decide,
          List.all_eq_true.1 (by decide), by decide, by decide, by decide⟩,
        ⟨"\r\n".toList, "name".toList, '\'', "a \"quoted\" />".toList, by decide,
          List.all_eq_true.1 (by decide), by decide, by decide, by decide⟩]
    "set".toList ≠ [] ∧ (∀ c ∈ "set".toList, isAlphanumeric c = true) ∧
      (∀ c ∈ [' '], isWhiteSpace c = true) ∧
      ∃ tag : Tag,
        Document.parse? (['<'] ++ "set".toList ++ attributes.flatMap WrittenAttribute.source ++
          [' '] ++ "/>".toList) = .ok [.selfClosing tag] ∧
        tag.name = "set".toList ∧
        tag.attributes =
          [("name".toList, "it's <b/>".toList), ("name".toList, "a \"quoted\" />".toList)] := by
  intro attributes
  have hne : "set".toList ≠ [] := by decide
  have hname : ∀ c ∈ "set".toList, isAlphanumeric c = true := List.all_eq_true.1 (by decide)
  have hspace : ∀ c ∈ [' '], isWhiteSpace c = true := List.all_eq_true.1 (by decide)
  have hblank : ∀ a ∈ attributes, a.isBehindBlanks = true := List.all_eq_true.1 (by decide)
  have hpairs : attributes.map WrittenAttribute.pair =
      [("name".toList, "it's <b/>".toList), ("name".toList, "a \"quoted\" />".toList)] := by
    decide +kernel
  obtain ⟨tag, hparse, htag, -, hall⟩ := parse_authored attributes hne hname hspace
  have hread := hall.2 fun a ha => List.all_eq_true.1 (hblank a ha)
  exact ⟨hne, hname, hspace, tag, hparse, htag, hread.trans hpairs⟩

/-- A no-break space ends the name of a tag, but reading does not pass over it: the attribute behind
it is lost. -/
theorem parse_noBreakSpace :
    let a : WrittenAttribute :=
      ⟨['\u00a0'], ['k'], '"', ['v'], by decide, List.all_eq_true.1 (by decide), by decide,
        by decide, by decide⟩
    ¬ ∃ tag : Tag,
      Document.parse? (['<'] ++ ['a'] ++ [a].flatMap WrittenAttribute.source ++ [] ++
        "/>".toList) = .ok [.selfClosing tag] ∧
      tag.name = ['a'] ∧ tag.attributes = [a].map WrittenAttribute.pair := by
  rintro a ⟨tag, hparse, -, hattributes⟩
  have hspace : ∀ c ∈ ([] : Text), isWhiteSpace c = true := nofun
  have hread : Tag.attributes ⟨['a'], [a].flatMap WrittenAttribute.source ++ []⟩ = [] :=
    readAttributes_sources [a] hspace
  have hlost := parse?_written (by decide : IsKey ['a']) [a] hspace
  have htag : ⟨['a'], [a].flatMap WrittenAttribute.source ++ []⟩ = tag :=
    selfClosing.inj (List.head_eq_of_cons_eq (Except.ok.inj (hlost.symm.trans hparse)))
  rw [← htag, hread] at hattributes
  exact List.cons_ne_nil _ _ hattributes.symm

end Dialogue.Markup
