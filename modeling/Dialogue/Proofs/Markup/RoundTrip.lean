import Dialogue.Proofs.Markup.Layout

/-!
# Parsing what was written

The markup of a parsed document is parsed again (`parse_render`). An instruction leaves no trace
in a document, so where only instructions stood between two texts these are now one text. But
for this the document is the same.
-/

namespace Dialogue.Markup

open Unicode Node Lexeme

variable {source content : Text} {d : Document} {x : Lexeme} {token : Token}

/-! ## Joined texts -/

namespace Node

/-- The node in front of others. A text takes in the text that follows it. -/
def joined : Node → List Node → List Node
  | .text t, .text u :: rest => .text (t ++ u) :: rest
  | n, rest => n :: rest

mutual

def fused : Node → Node
  | .element tag children => .element tag (fusedAll children)
  | .selfClosing tag => .selfClosing tag
  | .text t => .text t
  | .literalBlock t => .literalBlock t
  | .comment t => .comment t

def fusedAll : List Node → List Node
  | [] => []
  | n :: rest => n.fused.joined (fusedAll rest)

end

end Node

/-- The document in which every run of texts is one text, at every level, with the white space
of the whole run collapsed. -/
def Document.fused (d : Document) : Document := collapsedAll (fusedAll d)

namespace Token

def isText : Token → Bool
  | .text _ => true
  | _ => false

def joined : Token → List Token → List Token
  | .text t, .text u :: rest => .text (t ++ u) :: rest
  | token, rest => token :: rest

/-- A token that is written as a lexeme of which it is the token. -/
structure Canonical (token : Token) : Prop where
  valid : token.lexeme.Valid
  token?_lexeme : token.lexeme.token? = some token

theorem isText_lexeme (token : Token) : token.lexeme.isText = token.isText := by
  cases token <;> rfl

theorem isText_collapsed (token : Token) : token.collapsed.isText = token.isText := by
  cases token <;> rfl

/-- Either two texts are joined or nothing is. -/
theorem joined_cases (token : Token) (rest : List Token) :
    (∃ t u rest', token = .text t ∧ rest = .text u :: rest' ∧
      token.joined rest = .text (t ++ u) :: rest') ∨
    ((token.isText = true → ∀ u ∈ rest.head?, u.isText = false) ∧
      token.joined rest = token :: rest) := by
  cases rest with
  | nil => exact .inr ⟨by simp, by cases token <;> rfl⟩
  | cons u rest =>
    cases token with
    | text t =>
      cases u with
      | text u => exact .inl ⟨t, u, rest, rfl, rfl, rfl⟩
      | _ => exact .inr ⟨by simp [isText], rfl⟩
    | _ => exact .inr ⟨nofun, rfl⟩

theorem joined_eq_cons {rest : List Token}
    (h : token.isText = true → ∀ u ∈ rest.head?, u.isText = false) :
    token.joined rest = token :: rest := by
  obtain ⟨t, u, rest', rfl, rfl, -⟩ | ⟨-, hjoined⟩ := token.joined_cases rest
  · cases h rfl (.text u) rfl
  · exact hjoined

theorem joined_append_cons (token : Token) (us : List Token) {mark : Token}
    (hmark : mark.isText = false) (rest : List Token) :
    token.joined (us ++ mark :: rest) = token.joined us ++ mark :: rest := by
  cases us with
  | nil =>
    rw [List.nil_append, joined_eq_cons, joined_eq_cons]
    · rfl
    · simp
    · simpa using fun _ => hmark
  | cons u us => cases token <;> cases u <;> rfl

end Token

def joinTexts (tokens : List Token) : List Token := tokens.foldr Token.joined []

theorem joinTexts_cons (token : Token) (rest : List Token) :
    joinTexts (token :: rest) = token.joined (joinTexts rest) := rfl

theorem joinTexts_cons_of_not_text (h : token.isText = false) (rest : List Token) :
    joinTexts (token :: rest) = token :: joinTexts rest :=
  Token.joined_eq_cons fun htext => absurd htext (by simp [h])

/-- No run of texts goes over a token that is not text. -/
theorem joinTexts_append_cons (us : List Token) (h : token.isText = false)
    (rest : List Token) :
    joinTexts (us ++ token :: rest) = joinTexts us ++ token :: joinTexts rest := by
  induction us with
  | nil => exact joinTexts_cons_of_not_text h rest
  | cons u us ih =>
    rw [List.cons_append, joinTexts_cons, ih, Token.joined_append_cons u _ h, joinTexts_cons]

mutual

theorem joinTexts_walk (n : Node) {tokens : List Token} {ns : List Node}
    (h : joinTexts tokens = walkAll ns) :
    joinTexts (n.walk ++ tokens) = walkAll (n.fused.joined ns) := by
  cases n with
  | element tag children =>
    rw [walk, List.cons_append, joinTexts_cons_of_not_text rfl, List.append_assoc,
      List.singleton_append, joinTexts_append_cons _ rfl, joinTexts_walkAll children, h]
    simp [fused, Node.joined, walkAll, walk]
  | text t =>
    show (Token.text t).joined (joinTexts tokens) = _
    rw [h]
    cases ns with
    | nil => rfl
    | cons m ns => cases m <;> rfl
  | selfClosing tag | literalBlock t | comment t =>
    rw [walk, List.singleton_append, joinTexts_cons_of_not_text rfl, h]
    rfl

/-- Joining the texts of nodes joins those of their tokens: no run of texts goes over a tag. -/
theorem joinTexts_walkAll (ns : List Node) : joinTexts (walkAll ns) = walkAll (fusedAll ns) := by
  cases ns with
  | nil => rfl
  | cons n rest => exact joinTexts_walk n (joinTexts_walkAll rest)

end

def TextsApart (tokens : List Token) : Prop :=
  tokens.IsChain fun t u => t.isText = true → u.isText = false

theorem textsApart_joinTexts (tokens : List Token) : TextsApart (joinTexts tokens) := by
  induction tokens with
  | nil => exact .nil
  | cons token rest ih =>
    rw [joinTexts_cons]
    obtain ⟨t, u, rest', -, hrest, hjoined⟩ | ⟨happart, hjoined⟩ :=
      token.joined_cases (joinTexts rest)
    · rw [hjoined]
      rw [hrest] at ih
      obtain ⟨hhead, htail⟩ := List.isChain_cons.1 ih
      exact List.isChain_cons.2 ⟨fun v hv _ => hhead v hv rfl, htail⟩
    · rw [hjoined]
      exact List.isChain_cons.2 ⟨fun u hu htext => happart htext u hu, ih⟩

theorem joinTexts_of_textsApart {tokens : List Token} (h : TextsApart tokens) :
    joinTexts tokens = tokens := by
  induction tokens with
  | nil => rfl
  | cons token rest ih =>
    obtain ⟨hhead, htail⟩ := List.isChain_cons.1 h
    rw [joinTexts_cons, ih htail]
    exact Token.joined_eq_cons fun htext u hu => hhead u hu htext

/-- Joining texts does not change what is written. -/
theorem sources_joinTexts (tokens : List Token) :
    sources ((joinTexts tokens).map Token.lexeme) = sources (tokens.map Token.lexeme) := by
  induction tokens with
  | nil => rfl
  | cons token rest ih =>
    rw [List.map_cons, sources_cons, ← ih, joinTexts_cons]
    obtain ⟨t, u, rest', rfl, hjoin, hjoined⟩ | ⟨-, hjoined⟩ :=
      token.joined_cases (joinTexts rest)
    · rw [hjoined, hjoin]
      exact List.append_assoc t u _
    · rw [hjoined]
      rfl

/-! ## What is written is read again -/

theorem closed_text_append {t u : Text} (ht : (Lexeme.text t).Closed)
    (hu : (Lexeme.text u).Closed) : (Lexeme.text (t ++ u)).Closed :=
  ⟨List.append_ne_nil_of_left_ne_nil ht.1 u, fun h => (List.mem_append.1 h).elim ht.2 hu.2⟩

theorem canonical_joinTexts {tokens : List Token} (h : ∀ t ∈ tokens, t.Canonical) :
    ∀ t ∈ joinTexts tokens, t.Canonical := by
  induction tokens with
  | nil => exact h
  | cons token rest ih =>
    obtain ⟨htoken, hrest⟩ := List.forall_mem_cons.1 h
    have hcanonical := ih hrest
    rw [joinTexts_cons]
    obtain ⟨t, u, rest', rfl, hjoin, hjoined⟩ | ⟨-, hjoined⟩ :=
      token.joined_cases (joinTexts rest)
    · rw [hjoin] at hcanonical
      obtain ⟨hu, hrest'⟩ := List.forall_mem_cons.1 hcanonical
      have hboth := closed_text_append htoken.valid.closed hu.valid.closed
      rw [hjoined]
      exact List.forall_mem_cons.2 ⟨⟨⟨hboth, trivial⟩, rfl⟩, hrest'⟩
    · rw [hjoined]
      exact List.forall_mem_cons.2 ⟨htoken, hcanonical⟩

theorem isTagContent_of_append_left {before : Text}
    (hbefore : ∀ c ∈ before, isWhiteSpace c = true) (h : IsTagContent (before ++ content)) :
    IsTagContent content := by
  induction before with
  | nil => exact h
  | cons c before ih =>
    obtain ⟨hc, hbefore⟩ := List.forall_mem_cons.1 hbefore
    refine ih hbefore ?_
    rw [List.cons_append] at h
    generalize before ++ content = rest at h ⊢
    cases h with
    | plain _ hrest => exact hrest
    | quoted hquote _ _ => rcases hquote with rfl | rfl <;> exact absurd hc (by decide)

theorem isTagContent_of_append_right {after : Text}
    (hafter : ∀ c ∈ after, isWhiteSpace c = true) (h : IsTagContent (content ++ after)) :
    IsTagContent content := by
  generalize hwhole : content ++ after = whole at h
  induction h generalizing content with
  | nil =>
    obtain ⟨rfl, -⟩ := List.append_eq_nil_iff.1 hwhole
    exact .nil
  | @plain c rest hc _ ih =>
    cases content with
    | nil => exact .nil
    | cons d content =>
      obtain ⟨rfl, hrest⟩ := List.cons.inj hwhole
      exact .plain hc (ih hrest)
  | @quoted quote inside rest hquote hinside _ ih =>
    cases content with
    | nil => exact .nil
    | cons d content =>
      obtain ⟨rfl, hrest⟩ := List.cons.inj hwhole
      have hnot : d ∉ after := by
        intro hmem
        have hspace := hafter d hmem
        rcases hquote with rfl | rfl <;> exact absurd hspace (by decide)
      -- the quote is closed before the white space begins
      rcases List.append_eq_append_iff.1 hrest with ⟨a, rfl, hafter'⟩ | ⟨a, rfl, htail⟩
      · exact absurd (hafter' ▸ List.mem_append_right a List.mem_cons_self) hnot
      · cases a with
        | nil =>
          rw [List.nil_append] at htail
          exact absurd (htail ▸ List.mem_cons_self) hnot
        | cons e a =>
          obtain ⟨rfl, hrest'⟩ := List.cons.inj htail
          exact .quoted hquote hinside (ih hrest'.symm)

theorem isTagContent_trim (h : IsTagContent content) : IsTagContent (Text.trim content) := by
  obtain ⟨before, after, hcontent, hbefore, hafter⟩ := Text.exists_eq_append_trim content
  rw [hcontent] at h
  exact isTagContent_of_append_left hbefore (isTagContent_of_append_right hafter h)

/-- An end tag is one also without the white space around its name. -/
theorem canonical_endTag (h : (Lexeme.construct .endTag content).Valid) :
    (Token.endTag (Text.trim content)).Canonical where
  valid := by
    obtain ⟨⟨-, hcontent⟩, c, hc, hnot⟩ := h
    have hne : Text.trim content ≠ [] := by
      intro hnil
      exact absurd (Text.trim_eq_nil_iff.1 hnil c hc) (by simp [hnot])
    refine ⟨⟨⟨List.prefix_append _ _, nofun⟩, isTagContent_trim hcontent⟩, ?_⟩
    have hhead := List.head?_eq_some_head hne
    exact ⟨_, List.mem_of_mem_head? hhead, (Text.trimmed_trim content).head _ hhead⟩
  token?_lexeme := by
    have htrim := Text.trim_of_trimmed (Text.trimmed_trim content)
    exact congrArg (fun name => some (Token.endTag name)) htrim

/-- What is written for the token of a lexeme is a lexeme again, with the same token. -/
theorem Lexeme.Valid.canonical (h : x.Valid) (htoken : x.token? = some token) :
    token.collapsed.Canonical := by
  cases x with
  | text t =>
    cases htoken
    obtain ⟨⟨hne, hlt⟩, -⟩ := h
    have hclosed : (Lexeme.text (Text.collapse t)).Closed :=
      ⟨Text.collapse_ne_nil hne, fun hmem => hlt (Text.mem_of_mem_collapse (by decide) hmem)⟩
    exact ⟨⟨hclosed, trivial⟩, rfl⟩
  | construct k content =>
    cases k with
    | comment | literalBlock =>
      cases htoken
      exact ⟨h, rfl⟩
    | instruction => cases htoken
    | endTag =>
      cases htoken
      exact canonical_endTag h
    | openTag =>
      cases htoken
      rw [collapsed_ofTagContent]
      refine ⟨?_, ?_⟩
      · rwa [lexeme_ofTagContent]
      · rw [lexeme_ofTagContent]
        rfl

/-- The markup of a document is parsed to the document whose tokens are its own, but for the
texts that have been joined. -/
theorem parse?_render {u : Document} (hd : ∀ t ∈ walkAll d, t.Canonical)
    (hu : joinTexts (walkAll d) = walkAll u) :
    Document.parse? d.render = .ok (collapsedAll u) := by
  have hcanonical := canonical_joinTexts hd
  have hlexing : IsLexing d.render ((joinTexts (walkAll d)).map Token.lexeme) := by
    refine ⟨?_, ?_, ?_⟩
    · rw [sources_joinTexts, Document.render, Node.renderAll_eq]
    · intro x hx
      obtain ⟨t, ht, rfl⟩ := List.mem_map.1 hx
      exact (hcanonical t ht).valid
    · rw [List.isChain_map]
      simp only [Token.isText_lexeme]
      exact textsApart_joinTexts _
  refine parse?_of_walkAll hlexing ?_
  have htokens : ∀ t ∈ joinTexts (walkAll d), (token? ∘ Token.lexeme) t = some t :=
    fun t ht => (hcanonical t ht).token?_lexeme
  rw [List.filterMap_map, List.filterMap_congr htokens, List.filterMap_some, hu]

/-! ## Instructions between texts -/

/-- Somewhere instructions, at least one and nothing else, stand between two texts. -/
def InstructionsSeparateTexts (xs : List Lexeme) : Prop :=
  ∃ before t instructions u after,
    xs = before ++ .text t :: (instructions ++ .text u :: after) ∧ instructions ≠ [] ∧
      ∀ x ∈ instructions, ∃ content, x = .construct .instruction content

theorem InstructionsSeparateTexts.cons {xs : List Lexeme} (h : InstructionsSeparateTexts xs)
    (x : Lexeme) : InstructionsSeparateTexts (x :: xs) := by
  obtain ⟨before, t, instructions, u, after, rfl, hinstructions⟩ := h
  exact ⟨x :: before, t, instructions, u, after, rfl, hinstructions⟩

/-- Only text has a token that is text. -/
theorem exists_text_of_token? (h : x.token? = some token) (htext : token.isText = true) :
    ∃ t, x = .text t := by
  cases x with
  | text t => exact ⟨t, rfl⟩
  | construct k content =>
    cases k with
    | instruction => cases h
    | comment | literalBlock | endTag =>
      cases h
      cases htext
    | openTag =>
      cases h
      rw [Token.ofTagContent] at htext
      cases hslash : withoutSlash content <;> rw [hslash] at htext <;> cases htext

/-- Texts that follow on one another in the tokens have only instructions between them in the
source. -/
theorem textsApart_of_not_separate {xs : List Lexeme}
    (happart : xs.IsChain fun x y => x.isText = true → y.isText = false)
    (h : ¬ InstructionsSeparateTexts xs) : TextsApart (xs.filterMap token?) := by
  induction xs with
  | nil => exact .nil
  | cons x xs ih =>
    obtain ⟨hhead, htail⟩ := List.isChain_cons.1 happart
    have hrest := ih htail fun hxs => h (hxs.cons x)
    rw [List.filterMap_cons]
    cases htoken : x.token? with
    | none => exact hrest
    | some token =>
      refine List.isChain_cons.2 ⟨fun v hv htext => ?_, hrest⟩
      obtain ⟨t, rfl⟩ := exists_text_of_token? htoken htext
      obtain ⟨vs, hvs⟩ := List.head?_eq_some_iff.1 hv
      obtain ⟨instructions, y, after, rfl, hnone, hy, -⟩ := List.filterMap_eq_cons_iff.1 hvs
      by_contra hnot
      obtain ⟨u, rfl⟩ := exists_text_of_token? hy (by simpa using hnot)
      refine h ⟨[], t, instructions, u, after, rfl, ?_, fun z hz => ?_⟩
      · rintro rfl
        exact absurd (hhead (.text u) rfl rfl) (by simp [isText])
      · exact exists_instruction_of_token? (hnone z hz)

/-- In a source without a question mark no instructions stand between texts. -/
theorem IsLexing.not_separate {xs : List Lexeme} (h : IsLexing source xs)
    (hsource : '?' ∉ source) : ¬ InstructionsSeparateTexts xs := by
  rintro ⟨before, t, instructions, u, after, rfl, hne, hall⟩
  obtain ⟨x, hx⟩ := List.exists_mem_of_ne_nil instructions hne
  obtain ⟨content, rfl⟩ := hall x hx
  have hopening : '?' ∈ Construct.instruction.opening := by decide
  have hmem : '?' ∈ (Lexeme.construct .instruction content).source :=
    List.mem_append_left _ (List.mem_append_left _ hopening)
  apply hsource
  rw [← h.source_eq]
  refine List.mem_flatMap.2 ⟨_, ?_, hmem⟩
  exact List.mem_append_right _ (List.mem_cons_of_mem _ (List.mem_append_left _ hx))

/-! ## Parsing again -/

mutual

theorem Node.collapsed_eq_self (n : Node) (h : ∀ t ∈ n.walk, t.collapsed = t) :
    n.collapsed = n := by
  cases n with
  | element tag children =>
    have hchildren : ∀ t ∈ walkAll children, t.collapsed = t := by
      intro t ht
      exact h t (List.mem_cons_of_mem _ (List.mem_append_left _ ht))
    rw [collapsed, Node.collapsedAll_eq_self children hchildren]
  | text t =>
    rw [collapsed, Token.text.inj (h (.text t) List.mem_cons_self)]
  | selfClosing tag | literalBlock t | comment t => rfl

/-- Nodes stay as they are whose tokens have their white space collapsed. -/
theorem Node.collapsedAll_eq_self (ns : List Node) (h : ∀ t ∈ walkAll ns, t.collapsed = t) :
    collapsedAll ns = ns := by
  cases ns with
  | nil => rfl
  | cons n rest =>
    obtain ⟨hn, hrest⟩ := List.forall_mem_append.1 h
    rw [collapsedAll, Node.collapsed_eq_self n hn, Node.collapsedAll_eq_self rest hrest]

end

theorem Token.collapsed_collapsed (token : Token) :
    token.collapsed.collapsed = token.collapsed := by
  cases token with
  | text t => exact congrArg Token.text (Text.collapse_collapse t)
  | _ => rfl

/-- **The markup of a parsed document is parsed to the document**, with every run of texts made
one text. There is such a run only if instructions separate texts of the source. -/
theorem parse_render (h : Document.parse? source = .ok d) :
    Document.parse? d.render = .ok d.fused ∧
      ((∀ xs, IsLexing source xs → ¬ InstructionsSeparateTexts xs) → d.fused = d) := by
  obtain ⟨xs, hxs, hwalk⟩ := exists_isLexing_of_parse? h
  have hcanonical : ∀ t ∈ walkAll d, t.Canonical := by
    intro t ht
    rw [hwalk] at ht
    obtain ⟨token, htoken, rfl⟩ := List.mem_map.1 ht
    obtain ⟨x, hx, hx'⟩ := List.mem_filterMap.1 htoken
    exact (hxs.valid x hx).canonical hx'
  have hparse := parse?_render hcanonical (joinTexts_walkAll d)
  refine ⟨hparse, fun hnot => ?_⟩
  have happart : TextsApart (walkAll d) := by
    rw [hwalk, TextsApart, List.isChain_map]
    simp only [Token.isText_collapsed]
    exact textsApart_of_not_separate hxs.apart (hnot xs hxs)
  have hcollapsed : ∀ t ∈ walkAll d, t.collapsed = t := by
    intro t ht
    rw [hwalk] at ht
    obtain ⟨token, -, rfl⟩ := List.mem_map.1 ht
    exact token.collapsed_collapsed
  have hsame := parse?_render hcanonical (joinTexts_of_textsApart happart)
  rw [Node.collapsedAll_eq_self d hcollapsed] at hsame
  exact Except.ok.inj (hparse.symm.trans hsame)

theorem parse_render_joined :
    let source := "<b>Hi <?x?> you</b><c/>".toList
    let d : Document :=
      [.element ⟨"b".toList, []⟩ [.text "Hi ".toList, .text " you".toList],
        .selfClosing ⟨"c".toList, []⟩]
    let joined : Document :=
      [.element ⟨"b".toList, []⟩ [.text "Hi you".toList], .selfClosing ⟨"c".toList, []⟩]
    Document.parse? source = .ok d ∧ Document.parse? "<b>Hi  you</b><c/>".toList = .ok joined ∧
      joined.fused = joined := by
  intro source d joined
  have hd : Document.parse? source = .ok d := by decide +kernel
  have hjoined : Document.parse? "<b>Hi  you</b><c/>".toList = .ok joined := (parse_render hd).1
  have hplain : '?' ∉ "<b>Hi  you</b><c/>".toList := by decide
  exact ⟨hd, hjoined, (parse_render hjoined).2 fun xs hxs => hxs.not_separate hplain⟩

end Dialogue.Markup
