import Dialogue.Proofs.Condition
import Dialogue.Proofs.Pattern.Capture
import Dialogue.Proofs.Text.Normal

/-!
# A predicate compared with its own text

Every pattern matches its own text (`Pattern.isMatch_text`), so a text without wildcards matches
itself if its form of a pattern is one. Bringing a text into this form keeps all its letters and
numbers and writes them in uppercase, but not everything that this gives may stand in a word of a
pattern: a letter of a script without case stays what it is, and some letters have an uppercase
form with other characters in it. A condition on the own text of a predicate holds if no such
letter is in it and never otherwise (`run_condition_ownText`).
-/

namespace Dialogue

open Evaluation Markup Unicode

variable {σ : Type}

/-! ## Patterns -/

namespace Pattern

theorem sameWord_refl (ignoreCase : Bool) (w : Text) : SameWord ignoreCase w w :=
  List.forall₂_same.2 fun c _ => by cases ignoreCase <;> rfl

/-- **Every pattern matches its own text.** -/
theorem isMatch_text {p : Pattern} (hne : p ≠ []) (hvalid : ∀ token ∈ p, token.IsValid)
    (ignoreCase : Bool) : p.isMatch ignoreCase p.text = true := by
  have hwords : Text.splitWhen (· == ' ') p.text = p.map PatternToken.text := by
    refine Text.splitWhen_join_space (mt List.map_eq_nil_iff.1 hne) fun w hw => ?_
    obtain ⟨token, htoken, rfl⟩ := List.mem_map.1 hw
    exact (hvalid token htoken).space_not_mem_text
  have hfits : ∀ token ∈ p, token.Fits ignoreCase [token.text] := by
    intro token _
    cases token with
    | word w => exact ⟨w, sameWord_refl ignoreCase w, rfl⟩
    | wildcard spelling => exact List.cons_ne_nil _ _
  refine isSome_captures?_iff.2 ⟨?_, p.map fun token => [token.text], ?_, ?_⟩
  · intro w hw
    rw [hwords] at hw
    obtain ⟨token, htoken, rfl⟩ := List.mem_map.1 hw
    exact (hvalid token htoken).text_ne_nil
  · rw [hwords]
    exact List.map_eq_flatMap.symm
  · exact List.forall₂_map_right_iff.2 (List.forall₂_same.2 hfits)

/-- A text in which no wildcard stands is a pattern if all its characters but the spaces between
its words may stand in one. -/
theorem exists_parse?_join_iff {ws : List Text} (hne : ws ≠ []) (hws : ∀ w ∈ ws, w ≠ [] ∧ ' ' ∉ w)
    (hstar : '*' ∉ Text.join [' '] ws) (hunderscore : '_' ∉ Text.join [' '] ws) :
    (∃ p, parse? (Text.join [' '] ws) = .ok p) ↔
      ∀ c ∈ Text.join [' '] ws, c ≠ ' ' → isPatternWordChar c = true := by
  constructor
  · rintro ⟨p, hp⟩ c hc hspace
    obtain ⟨-, hvalid, htext⟩ := parse?_eq_ok_iff.1 hp
    rw [← htext] at hc hstar hunderscore
    obtain ⟨w, hw, hcw⟩ := List.mem_flatten.1
      ((Text.mem_join hc).resolve_left (mt List.mem_singleton.1 hspace))
    have hmem : ∀ d ∈ w, d ∈ p.text := fun d hd => Text.mem_join_of_mem _ hw hd
    obtain ⟨token, htoken, rfl⟩ := List.mem_map.1 hw
    match token with
    | .word w => exact (hvalid _ htoken).2 c hcw
    | .wildcard .star => exact absurd (hmem '*' List.mem_cons_self) hstar
    | .wildcard .underscore => exact absurd (hmem '_' List.mem_cons_self) hunderscore
  · intro h
    refine ⟨ws.map .word, parse?_eq_ok_iff.2 ⟨mt List.map_eq_nil_iff.1 hne, ?_, ?_⟩⟩
    · intro token htoken
      obtain ⟨w, hw, rfl⟩ := List.mem_map.1 htoken
      obtain ⟨hword, hspace⟩ := hws w hw
      refine ⟨hword, fun c hc => h c (Text.mem_join_of_mem _ hw hc) ?_⟩
      rintro rfl
      exact hspace hc
    · rw [text, List.map_map]
      exact congrArg _ (List.map_id ws)

end Pattern

/-! ## Texts -/

/-- What the letters and numbers of the text become in uppercase may stand in a word of a
pattern. -/
def HasPatternLetters (t : Text) : Prop :=
  ∀ c ∈ t, isAlphanumeric c = true → ∀ d ∈ upperChar c, isPatternWordChar d = true

-- the test runs over the characters of the text, where the general one may try every character
instance (t : Text) : Decidable (HasPatternLetters t) :=
  decidable_of_iff
    (t.all (fun c => !isAlphanumeric c || (upperChar c).all isPatternWordChar) = true)
    (by simp [HasPatternLetters, imp_iff_not_or])

section OwnText

variable {v : Text}

theorem exists_parse?_fitPattern_iff (hne : Text.fitPattern v ≠ [])
    (hstar : '*' ∉ Text.fitPattern v) (hunderscore : '_' ∉ Text.fitPattern v) :
    (∃ p, Pattern.parse? (Text.fitPattern v) = .ok p) ↔
      HasPatternLetters (Text.removeMarkup v) := by
  have hparse : (∃ p, Pattern.parse? (Text.fitPattern v) = .ok p) ↔
      ∀ d ∈ Text.fitPattern v, d ≠ ' ' → isPatternWordChar d = true := by
    obtain ⟨ws, hjoin, hws⟩ := Text.exists_words_fitPattern v
    rw [hjoin] at hne hstar hunderscore ⊢
    refine Pattern.exists_parse?_join_iff ?_ hws hstar hunderscore
    rintro rfl
    exact hne rfl
  rw [hparse]
  constructor
  · intro h c hc halnum d hd
    have hpattern : Text.isPatternChar c = true := by
      rw [Text.isPatternChar, halnum]
      rfl
    have hspace : d ≠ ' ' := by
      rintro rfl
      cases not_isWhiteSpace_of_mem_upperChar (not_isWhiteSpace_of_isAlphanumeric halnum) hd
    exact h d ((Text.mem_fitPattern_iff hspace).2 ⟨c, hc, hpattern, hd⟩) hspace
  · intro h d hd hspace
    obtain ⟨c, hc, hpattern, hdc⟩ := (Text.mem_fitPattern_iff hspace).1 hd
    rw [Text.isPatternChar, Bool.or_eq_true, Bool.or_eq_true, beq_iff_eq, beq_iff_eq] at hpattern
    rcases hpattern with (halnum | rfl) | rfl
    · exact h c hc halnum d hdc
    · have hupper : upperChar '*' = ['*'] := by decide +kernel
      rw [hupper, List.mem_singleton] at hdc
      exact absurd (hdc ▸ hd) hstar
    · have hupper : upperChar '_' = ['_'] := by decide +kernel
      rw [hupper, List.mem_singleton] at hdc
      exact absurd (hdc ▸ hd) hunderscore

/-- **A text holds of itself** if and only if what its letters and numbers become in uppercase may
stand in a pattern. -/
theorem holds_self_iff (hne : Text.fitPattern v ≠ []) (hstar : '*' ∉ Text.fitPattern v)
    (hunderscore : '_' ∉ Text.fitPattern v) :
    Holds v v ↔ HasPatternLetters (Text.removeMarkup v) := by
  rw [← exists_parse?_fitPattern_iff hne hstar hunderscore]
  constructor
  · rintro ⟨p, hp, -⟩
    exact ⟨p, hp⟩
  · rintro ⟨p, hp⟩
    obtain ⟨hp', hvalid, htext⟩ := Pattern.parse?_eq_ok_iff.1 hp
    exact ⟨p, hp, htext ▸ Pattern.isMatch_text hp' hvalid true⟩

end OwnText

/-! ## Conditions -/

section Run

variable (s : Settings) (env : Environment σ) (budget : Budget) (chance : Chance)
  (c : Context) (q : Text → Evaluation Text) (turn : Turn σ)

/-- A condition with a predicate and a value is visited, reads the predicate and, if that matches
the value, is evaluated to what its content is. -/
theorem run_ifHolds {p v : Text} {answer : Option Text} {later : World σ}
    (hread : env.call (.predicate c.session p) turn.world = (.ok answer, later))
    (content : Evaluation Text) :
    (ifHolds s c.session p v content).run env budget chance turn =
      if Holds v (answer.getD s.defaultPredicateValue) then
        content.run env budget chance { turn with world := later }
      else (.ok [], { turn with world := later }) := by
  rw [ifHolds, predicateMatches_eq, Evaluation.bind_assoc, run_predicate_bind, hread]
  dsimp only
  rw [done_bind]
  by_cases h : Holds v (answer.getD s.defaultPredicateValue)
  · rw [if_pos h, if_pos (decide_eq_true h)]
  · rw [if_neg h, if_neg (by simpa using h)]
    rfl

/-- **A condition on the own text of a predicate** is its content if what the letters and numbers of
the text become in uppercase may stand in a pattern, and nothing otherwise. The text is one that has
a letter or number and no wildcard. -/
theorem run_condition_ownText {p v : Text} {answer : Option Text} {later : World σ}
    (hread : env.call (.predicate c.session p) turn.world = (.ok answer, later))
    (hv : answer.getD s.defaultPredicateValue = v) (hne : Text.fitPattern v ≠ [])
    (hstar : '*' ∉ Text.fitPattern v) (hunderscore : '_' ∉ Text.fitPattern v)
    (content : List Node) :
    let ev := Evaluator.standard s
    let condition : Node := .element (.withAttributes "condition".toList
      [("name".toList, p), ("value".toList, v)]) content
    let ready : Turn σ := { turn.later 1 with world := later }
    (ev.node c q condition).run env budget chance turn =
      match budget.excess? chance (turn.steps + 1) with
      | none =>
        if HasPatternLetters (Text.removeMarkup v) then
          (ev.nodes c q content).run env budget chance ready
        else (.ok [], ready)
      | some excess => (.error (.budget excess), turn.later 1) := by
  intro ev condition ready
  have hname : IsKey "name".toList := by decide
  have hvalue : IsKey "value".toList := by decide
  have hkeys : ∀ a ∈ [("name".toList, p), ("value".toList, v)], IsKey a.1 :=
    List.forall_mem_cons.2 ⟨hname, List.forall_mem_singleton.2 hvalue⟩
  have hform : condition.HasForm "condition".toList (some p) (some v) content :=
    Node.hasForm_withAttributes "condition".toList hkeys content
  have hholds := holds_self_iff hne hstar hunderscore
  refine (congrArg (Evaluation.run env budget chance · turn) (node_block s c q hform)).trans ?_
  refine (run_visit env budget chance turn c.depth _).trans ?_
  cases budget.excess? chance (turn.steps + 1) with
  | none =>
    refine (run_ifHolds s env budget chance c (turn.later 1) hread _).trans ?_
    rw [hv]
    simp only [hholds]
    rfl
  | some excess => rfl

end Run

/-- A bot that keeps its sessions in memory and knows no category. -/
def Environment.unlearned : Environment SessionStore := .inMemory []

def World.knowing (p v : Text) : World SessionStore :=
  .fresh ((SessionStore.empty 32).setPredicate [] p v)

def comparison (p v : Text) : Node :=
  .element (.withAttributes "condition".toList [("name".toList, p), ("value".toList, v)])
    [.text "yes".toList]

/-- The pattern of this address has one letter more than the address. -/
theorem run_condition_ownText_street :
    let home := "home".toList
    let v := "Hauptstraße-7".toList
    let turn : Turn SessionStore := .start (.knowing home v)
    let later : World SessionStore :=
      ⟨(World.knowing home v).state, [⟨.predicate [] home, none⟩], 1⟩
    Environment.unlearned.call (.predicate [] home) turn.world = (.ok (some v), later) ∧
      Text.fitPattern v = "HAUPTSTRASSE 7".toList ∧ HasPatternLetters (Text.removeMarkup v) ∧
      ((Evaluator.standard {}).node (.top [] .none) (fun _ => .done []) (comparison home v)).run
          .unlearned (Settings.budget {}) default turn =
        (.ok "yes".toList, ⟨2, [], 0, later⟩) := by
  intro home v turn later
  have hread : Environment.unlearned.call (.predicate [] home) turn.world =
      (.ok (some v), later) := rfl
  have hfit : Text.fitPattern v = "HAUPTSTRASSE 7".toList := by decide +kernel
  have hletters : HasPatternLetters (Text.removeMarkup v) := by decide +kernel
  have hv : Option.getD (some v) ({} : Settings).defaultPredicateValue = v := rfl
  have hne : Text.fitPattern v ≠ [] := by rw [hfit]; decide
  have hstar : '*' ∉ Text.fitPattern v := by rw [hfit]; decide
  have hunderscore : '_' ∉ Text.fitPattern v := by rw [hfit]; decide
  have hrun := run_condition_ownText {} .unlearned (Settings.budget {}) default (.top [] .none)
    (fun _ => .done []) turn hread hv hne hstar hunderscore [.text "yes".toList]
  have hwithin : (Settings.budget {}).excess? default (turn.steps + 1) = none := by decide
  refine ⟨hread, hfit, hletters, hrun.trans ?_⟩
  rw [hwithin, if_pos hletters]
  rfl

/-- The characters of this city have no case, so no condition finds it. -/
theorem run_condition_caseless :
    let city := "city".toList
    let v := "東京".toList
    let run (ns : List Node) :=
      ((Evaluator.standard {}).nodes (.top [] .none) (fun _ => .done []) ns).run .unlearned
        (Settings.budget {}) default (.start (.knowing city v))
    (Environment.unlearned.call (.predicate [] city) (.knowing city v)).1 = .ok (some v) ∧
      Text.fitPattern v ≠ [] ∧ '*' ∉ Text.fitPattern v ∧ '_' ∉ Text.fitPattern v ∧
      (run (comparison city v).children).1 = .ok "yes".toList ∧
      (run [comparison city v]).1 = .ok [] := by
  intro city v run
  have hfit : Text.fitPattern v = v := by decide +kernel
  rw [hfit]
  exact ⟨rfl, by decide, by decide, by decide, rfl, by decide +kernel⟩

end Dialogue
