import Dialogue.Proofs.Category.Selection
import Dialogue.Proofs.Evaluation.Interpreter
import Dialogue.Proofs.Pattern.Capture
import Dialogue.Proofs.Text.Normal

/-!
# Captured words go to the matcher again

What a wildcard of an input pattern stands for is a part of a normal form, and a self-query brings
it into normal form once more. It is made of whole words of the normal form, so this deletes the
marks in them and does nothing else (`normalizeInput_again`). Only a letter whose uppercase form has
a mark in it makes a difference, such as `ǰ`.
-/

namespace Dialogue

open Markup Unicode

/-! ## Captures -/

theorem mem_of_mem_wildcardBlocks {p : Pattern} {blocks : List (List Text)} {block : List Text}
    (h : block ∈ wildcardBlocks p blocks) : block ∈ blocks := by
  induction p, blocks using wildcardBlocks.induct with
  | case1 spelling p b blocks ih =>
    rcases List.mem_cons.1 h with rfl | h
    · exact List.mem_cons_self
    · exact List.mem_cons_of_mem b (ih h)
  | case2 v p b blocks ih => exact List.mem_cons_of_mem b (ih h)
  | case3 p blocks hwildcard hword =>
    rw [wildcardBlocks] at h
    · cases h
    · exact hwildcard
    · exact hword

/-- What is captured of words in uppercase is made of some of them. -/
theorem exists_normalWords_of_captures? {ignoreCase : Bool} {p : Pattern} {ws : List Text}
    (hws : ∀ w ∈ ws, Text.IsNormalWord w) {found : List Text}
    (h : p.captures? ignoreCase (Text.join [' '] ws) = some found) {star : Text}
    (hstar : star ∈ found) :
    ∃ vs, star = Text.join [' '] vs ∧ ∀ v ∈ vs, v ∈ ws := by
  obtain ⟨hne, blocks, hcut, rfl⟩ := Pattern.captures?_eq_some_iff.1 h
  obtain ⟨block, hblock, rfl⟩ := List.mem_map.1 hstar
  refine ⟨block, rfl, fun v hv => ?_⟩
  have hmem : v ∈ Text.splitWhen (· == ' ') (Text.join [' '] ws) := by
    rw [← hcut.flatten]
    exact List.mem_flatten.2 ⟨block, mem_of_mem_wildcardBlocks hblock, hv⟩
  by_cases hnil : ws = []
  · subst hnil
    exact absurd rfl (hne [] List.mem_cons_self)
  · have hspace : ∀ w ∈ ws, ' ' ∉ w := by
      intro w hw hspace
      have hwhite := ((hws w hw).char ' ' hspace).1
      revert hwhite
      decide
    rwa [Text.splitWhen_join_space hnil hspace] at hmem

section Stars

variable {t that topic : Text} {categories : CategoryList} {selection : Selection} {star : Text}

/-- Every capture of a normal form is made of some of its words. -/
theorem exists_normalWords_of_select?
    (h : categories.select? (Text.normalizeInput t) that topic = some selection)
    (hstar : star ∈ selection.stars.input) :
    ∃ vs, star = Text.join [' '] vs ∧
      ∀ v ∈ vs, Text.IsNormalWord v ∧ ∀ d ∈ v, d ∈ Text.normalizeInput t := by
  obtain ⟨c, -, hgives⟩ := CategoryList.select?_eq_some_iff.1 h
  obtain ⟨ws, hinput, hws⟩ := Text.exists_normalWords t
  have hcaptures := hgives.input
  rw [hinput] at hcaptures
  obtain ⟨vs, rfl, hvs⟩ := exists_normalWords_of_captures? hws hcaptures hstar
  refine ⟨vs, rfl, fun v hv => ⟨hws v (hvs v hv), fun d hd => ?_⟩⟩
  rw [hinput]
  exact Text.mem_join_of_mem _ (hvs v hv) hd

theorem normalizeInput_capture
    (h : categories.select? (Text.normalizeInput t) that topic = some selection)
    (hstar : star ∈ selection.stars.input) : Text.normalizeInput star = Text.kept star := by
  obtain ⟨vs, rfl, hvs⟩ := exists_normalWords_of_select? h hstar
  exact Text.normalizeInput_join fun v hv => (hvs v hv).1

/-- A capture has no mark in it if the uppercase forms have none. -/
theorem kept_capture (h : categories.select? (Text.normalizeInput t) that topic = some selection)
    (hstar : star ∈ selection.stars.input) (ht : Text.HasPlainUppercase t) :
    Text.kept star = star := by
  obtain ⟨vs, rfl, hvs⟩ := exists_normalWords_of_select? h hstar
  have hinput := Text.kept_normalizeInput_eq_iff.2 ht
  rw [Text.kept, List.filter_eq_self] at hinput
  exact Text.kept_join_eq_self fun v hv =>
    List.filter_eq_self.2 fun d hd => hinput d ((hvs v hv).2 d hd)

end Stars

/-! ## Self-queries -/

namespace Evaluator

open Evaluation

def goOn (ev : Evaluator) (c : Context) : Option Selection → Evaluation Text
  | none => .done []
  | some selection =>
    match ev.settings.maxRecursionDepth - c.depth with
    | 0 => .fail (c.tooDeep ev.settings.maxRecursionDepth)
    | levels + 1 =>
      ev.nodes (c.deeper selection.stars) (ev.selfQuery levels (c.deeper selection.stars))
        selection.template

theorem query_eq (ev : Evaluator) (c : Context) (text : Text) :
    ev.query c text = findCategory ev.settings c.session text >>= ev.goOn c := by
  rw [query]
  cases hlevels : ev.settings.maxRecursionDepth - c.depth with
  | zero =>
    rw [selfQuery_zero]
    congr 1
    funext found
    cases found <;> simp [goOn, hlevels]
  | succ levels =>
    rw [selfQuery_succ]
    congr 1
    funext found
    cases found <;> simp [goOn, hlevels]

end Evaluator

open Evaluation

/-- A self-query of a star is one of what the star stands for. -/
theorem node_srai_star (s : Settings) (c : Context) (q : Text → Evaluation Text)
    (attributes starAttributes : Text) :
    let star : Tag := ⟨"star".toList, starAttributes⟩
    let text := Tags.elementAt c.stars.input (Tags.place (star.attribute? "index".toList))
    (Evaluator.standard s).node c q (.element ⟨"srai".toList, attributes⟩ [.selfClosing star]) =
      visit c >>= fun _ => visit c >>= fun _ => (q text).orIfTooDeep s.recursionFallback := by
  intro star text
  have hsrai : standardHandler? (.element ⟨"srai".toList, attributes⟩ [.selfClosing star]) =
    some Tags.srai := rfl
  have hstar : standardHandler? (.selfClosing star) = some Tags.star := rfl
  have hcontent : (Evaluation.concat (((Evaluator.standard s).children c q
      [.selfClosing star]).map Child.visit)) = visit c >>= fun _ => .done text := by
    rw [Evaluator.map_visit_children, List.map_singleton, node_of_handler hstar]
    dsimp only [Tags.star]
    simp only [Evaluation.concat, Evaluation.bind_assoc, pure_eq, done_bind, List.append_nil]
    rfl
  rw [node_of_handler hsrai, Node.children]
  dsimp only [Tags.srai, Invocation.content]
  rw [hcontent]
  rfl

theorem elementAt_eq_nil_or_mem (ts : List Text) (i : Nat) :
    Tags.elementAt ts i = [] ∨ Tags.elementAt ts i ∈ ts := by
  cases i with
  | zero => exact .inl rfl
  | succ i =>
    rw [Tags.elementAt]
    cases hfound : ts[i]? with
    | none => exact .inl rfl
    | some t => exact .inr (List.mem_of_getElem? hfound)

/-- **Normalizing again** deletes the marks that the uppercase forms of letters have in them, and
nothing else. -/
theorem normalizeInput_again (t : Text) :
    Text.normalizeInput (Text.normalizeInput t) = Text.kept (Text.normalizeInput t) ∧
    (Text.normalizeInput (Text.normalizeInput t) = Text.normalizeInput t ↔
      Text.HasPlainUppercase t) ∧
    ∀ (categories : CategoryList) (that topic : Text) (selection : Selection),
      categories.select? (Text.normalizeInput t) that topic = some selection →
      ∀ (s : Settings) (c : Context), c.stars = selection.stars →
      ∀ attributes starAttributes : Text,
        let ev := Evaluator.standard s
        let star : Tag := ⟨"star".toList, starAttributes⟩
        let text := Tags.elementAt c.stars.input (Tags.place (star.attribute? "index".toList))
        ev.node c (ev.query c) (.element ⟨"srai".toList, attributes⟩ [.selfClosing star]) =
            (visit c >>= fun _ => visit c >>= fun _ =>
              (thatContext s c.session >>= fun that => topicContext s c.session >>= fun topic =>
                call (.select (Text.kept text) that topic) >>= ev.goOn c).orIfTooDeep
                  s.recursionFallback) ∧
          (Text.HasPlainUppercase t → Text.kept text = text) := by
  obtain ⟨ws, hinput, hws⟩ := Text.exists_normalWords t
  have hagain :
      Text.normalizeInput (Text.normalizeInput t) = Text.kept (Text.normalizeInput t) := by
    rw [hinput]
    exact Text.normalizeInput_join hws
  refine ⟨hagain, ?_, ?_⟩
  · rw [hagain]
    exact Text.kept_normalizeInput_eq_iff
  intro categories that topic selection hselect s c hstars attributes starAttributes ev star text
  have htext : text = [] ∨ text ∈ selection.stars.input := by
    rw [← hstars]
    exact elementAt_eq_nil_or_mem _ _
  have hnormal : Text.normalizeInput text = Text.kept text := by
    rcases htext with hnil | hmem
    · rw [hnil]
      rfl
    · exact normalizeInput_capture hselect hmem
  constructor
  · have hquery : ev.query c text = _ := ev.query_eq c text
    rw [node_srai_star, hquery, findCategory_bind, hnormal]
    rfl
  · intro ht
    rcases htext with hnil | hmem
    · rw [hnil]
      rfl
    · exact kept_capture hselect hmem ht

def askBehind (word : Text) : Category :=
  ⟨[.word word, .wildcard .star], [.wildcard .star], [.wildcard .star],
    [.element ⟨"srai".toList, []⟩ [.selfClosing ⟨"star".toList, []⟩]]⟩

/-- The uppercase form of `ß` is longer than the letter, but it has no mark in it. -/
theorem normalizeInput_again_street :
    let t := "say: Hauptstraße!".toList
    let category := askBehind "SAY".toList
    let stars : Stars := ⟨["HAUPTSTRASSE".toList], ["*".toList], ["*".toList]⟩
    let ev := Evaluator.standard {}
    let c : Context := .top [] stars
    Text.normalizeInput t = "SAY HAUPTSTRASSE".toList ∧
      Text.normalizeInput (Text.normalizeInput t) = Text.normalizeInput t ∧
      CategoryList.select? [category] (Text.normalizeInput t) ['*'] ['*'] =
        some ⟨category.template, stars⟩ ∧
      category.template.map (ev.node c (ev.query c)) =
        [visit c >>= fun _ => visit c >>= fun _ =>
          (thatContext {} [] >>= fun that => topicContext {} [] >>= fun topic =>
            call (.select "HAUPTSTRASSE".toList that topic) >>= ev.goOn c).orIfTooDeep
              ({} : Settings).recursionFallback] := by
  intro t category stars ev c
  obtain ⟨-, hagain, hstar⟩ := normalizeInput_again t
  have hplain : Text.HasPlainUppercase t := by decide +kernel
  have hselect : CategoryList.select? [category] (Text.normalizeInput t) ['*'] ['*'] =
      some ⟨category.template, stars⟩ := by
    have hnormal : Text.normalizeInput t = "SAY HAUPTSTRASSE".toList := by decide +kernel
    rw [hnormal]
    rfl
  obtain ⟨hnode, hkept⟩ := hstar [category] ['*'] ['*'] _ hselect {} c rfl [] []
  have htext : Tags.elementAt stars.input
      (Tags.place ((⟨"star".toList, []⟩ : Tag).attribute? "index".toList)) =
      "HAUPTSTRASSE".toList := by decide +kernel
  refine ⟨by decide +kernel, hagain.2 hplain, hselect, ?_⟩
  rw [hkept hplain, show c.stars = stars from rfl, htext] at hnode
  exact congrArg (fun e => [e]) hnode

/-- The uppercase form of `ǰ` is `J` and a combining caron. Whoever says `ǰ` is answered by the
category for `SAY *`, but what the star stands for comes to the matcher without the caron. -/
theorem normalizeInput_caron :
    let t := "say ǰ".toList
    let category := askBehind "SAY".toList
    let star := ['J', '\u030C']
    Text.normalizeInput (Text.normalizeInput t) ≠ Text.normalizeInput t ∧
      (CategoryList.select? [category] (Text.normalizeInput t) ['*'] ['*']).map
        (fun selection => selection.stars.input) = some [star] ∧
      Text.normalizeInput star = ['J'] := by
  intro t category star
  have hnormal : Text.normalizeInput t = "SAY ".toList ++ star := by decide +kernel
  rw [hnormal]
  exact ⟨by decide +kernel, rfl, by decide +kernel⟩

end Dialogue
