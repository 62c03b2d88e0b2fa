import Dialogue.Evaluation.Query
import Dialogue.Proofs.Text.Markup
import Dialogue.Proofs.Text.Normal
import Dialogue.Session.Environment

/-!
# The last sentence that the user read

What was said is recalled by sentences. An entry of a history is cut into sentences with its
markup in it, and the sentence asked for loses its tags afterwards. As long as tags keep apart
from the ends of sentences, this gives what the user read (`run_thatContext_read`): the
sentences of the entry without markup, and with the last of them the context for the next input.
Where a tag is closed behind the last splitter it does not (`thatContext_closed_behind`).
-/

namespace Dialogue

open Evaluation Text

variable {σ : Type}

/-- What the user read at the given place of an entry, counted from 1 for the last sentence:
a sentence of the entry without its markup. Nothing was read if there is no entry. -/
def sentenceRead (splitters : List Text) (entry : Option Text) (sentence : Nat) : Text :=
  match entry with
  | some entry => ((sentences splitters (removeMarkup entry)).reverse[sentence - 1]?).getD []
  | none => []

theorem sentenceFromEnd_eq (s : Settings) (hsplitters : Unspaced s.sentenceSplitters)
    {entry : Text} (hentry : MarkupApart s.sentenceSplitters entry) {m : Nat} (hm : 1 ≤ m) :
    sentenceFromEnd s entry m = sentenceRead s.sentenceSplitters (some entry) m := by
  obtain ⟨i, rfl⟩ := Nat.exists_eq_add_of_le' hm
  rw [sentenceRead, sentences_removeMarkup hsplitters hentry, ← List.map_reverse,
    List.getElem?_map]
  rfl

def contextOf (that : Text) : Text :=
  if that.any Unicode.isAlphanumeric then normalizeInput that else anyContext

theorem contextOf_eq (that : Text) :
    (if (normalizeInput that).isEmpty then anyContext else normalizeInput that) =
      contextOf that := by
  rw [contextOf]
  cases h : that.any Unicode.isAlphanumeric with
  | false => rw [normalizeInput_eq_nil_iff.2 h]; rfl
  | true =>
    have hne : normalizeInput that ≠ [] := by
      rw [Ne, normalizeInput_eq_nil_iff, h]
      exact nofun
    simp [hne]

/-- The context matches everything only where nothing is left of the sentence. -/
theorem contextOf_eq_anyContext_iff {that : Text} :
    contextOf that = anyContext ↔ that.any Unicode.isAlphanumeric = false := by
  rw [contextOf]
  cases h : that.any Unicode.isAlphanumeric with
  | false => simp
  | true =>
    have hstar : normalizeInput that ≠ anyContext := by
      intro heq
      apply star_not_mem_normalizeInput that
      rw [heq]
      exact List.mem_singleton_self _
    simp [hstar]

section Run

variable (s : Settings) (env : Environment σ) (budget : Budget) (chance : Chance)
  (session : SessionId) (turn : Turn σ)

theorem run_historySentence (kind : HistoryKind) {n m : Nat} (hn : 1 ≤ n) (hm : 1 ≤ m) :
    (historySentence s session kind n m).run env budget chance turn =
      (((history? session kind n).run env budget chance turn).1.map fun entry =>
          (entry.map fun entry => sentenceFromEnd s entry m).getD [],
        ((history? session kind n).run env budget chance turn).2) := by
  have hplace : ¬ (n = 0 ∨ m = 0) := by omega
  have hsentence : historySentence s session kind n m = history? session kind n >>= fun entry =>
      .done ((entry.map fun entry => sentenceFromEnd s entry m).getD []) := by
    rw [historySentence, if_neg hplace]
    congr 1
    funext entry
    cases entry <;> rfl
  rw [hsentence, run_map]

theorem run_thatContext :
    (thatContext s session).run env budget chance turn =
      (((historySentence s session .that 1 1).run env budget chance turn).1.map contextOf,
        ((historySentence s session .that 1 1).run env budget chance turn).2) := by
  have hcontext : thatContext s session = historySentence s session .that 1 1 >>= fun that =>
      .done (contextOf that) := by
    rw [thatContext]
    congr 1
    funext that
    exact congrArg Evaluation.done (contextOf_eq that)
  rw [hcontext, run_map]

/-- **What is recalled is what the user read**, if in the entry the markup keeps apart from the
ends of sentences. A history gives the sentences of its entries without markup. The context for
the next input is the last of them in its normal form, and it matches everything only if the bot
said nothing yet or no letter or digit in its last sentence. -/
theorem run_thatContext_read (hsplitters : Unspaced s.sentenceSplitters) :
    let asked (kind : HistoryKind) (n : Nat) :=
      (history? session kind n).run env budget chance turn
    let apart (kind : HistoryKind) (n : Nat) : Prop :=
      ∀ entry, (asked kind n).1 = .ok (some entry) → MarkupApart s.sentenceSplitters entry
    let context := (thatContext s session).run env budget chance turn
    (∀ kind n m, 1 ≤ n → 1 ≤ m → apart kind n →
      (historySentence s session kind n m).run env budget chance turn =
        ((asked kind n).1.map fun entry => sentenceRead s.sentenceSplitters entry m,
          (asked kind n).2)) ∧
    (apart .that 1 →
      context = ((asked .that 1).1.map fun entry =>
        contextOf (sentenceRead s.sentenceSplitters entry 1), (asked .that 1).2) ∧
      ∀ entry, (asked .that 1).1 = .ok entry → (context.1 = .ok anyContext ↔
        entry = none ∨
          (sentenceRead s.sentenceSplitters entry 1).any Unicode.isAlphanumeric = false)) := by
  intro asked apart context
  have hread : ∀ kind n m, 1 ≤ n → 1 ≤ m → apart kind n →
      (historySentence s session kind n m).run env budget chance turn =
        ((asked kind n).1.map fun entry => sentenceRead s.sentenceSplitters entry m,
          (asked kind n).2) := by
    intro kind n m hn hm hapart
    rw [run_historySentence s env budget chance session turn kind hn hm]
    apply congrArg (·, (asked kind n).2)
    rcases h : (asked kind n).1 with error | _ | entry
    · rfl
    · rfl
    · exact congrArg Except.ok (sentenceFromEnd_eq s hsplitters (hapart entry h) hm)
  refine ⟨hread, fun hapart => ?_⟩
  have hcontext : context = ((asked .that 1).1.map fun entry =>
      contextOf (sentenceRead s.sentenceSplitters entry 1), (asked .that 1).2) := by
    dsimp only [context]
    rw [run_thatContext, hread .that 1 1 (Nat.le_refl 1) (Nat.le_refl 1) hapart]
    rcases (asked .that 1).1 with error | entry <;> rfl
  refine ⟨hcontext, fun entry hentry => ?_⟩
  have hvalue : context.1 = .ok (contextOf (sentenceRead s.sentenceSplitters entry 1)) := by
    rw [hcontext, hentry]
    rfl
  rw [hvalue, Except.ok.injEq, contextOf_eq_anyContext_iff]
  constructor
  · exact .inr
  · rintro (rfl | h)
    · rfl
    · exact h

end Run

def answered (entry : Text) : SessionStore := (SessionStore.empty 32).pushHistory [] .that entry

/-- Tags within the sentences do no harm. -/
theorem run_thatContext_read_tea :
    let env : Environment SessionStore := .inMemory []
    let entry : Text := "Hello, <b>Sam</b>. Do you like <i>green</i> tea?".toList
    let run (e : Evaluation Text) :=
      e.run env (Settings.budget {}) default (.start (.fresh (answered entry)))
    (run (historySentence {} [] .that 1 2)).1 = .ok "Hello, Sam.".toList ∧
      (run (thatContext {} [])).1 = .ok "DO YOU LIKE GREEN TEA".toList := by
  intro env entry run
  have hsplitters : Unspaced ({} : Settings).sentenceSplitters := by
    unfold Unspaced
    decide
  have hentry : MarkupApart ({} : Settings).sentenceSplitters entry :=
    { visible := visibleMarks_marks (by decide) false entry
      tags := by decide +kernel
      spoken := by decide +kernel }
  have hasked : ((history? [] .that 1).run env (Settings.budget {}) default
      (.start (.fresh (answered entry)))).1 = .ok (some entry) := rfl
  have hapart : ∀ e, ((history? [] .that 1).run env (Settings.budget {}) default
      (.start (.fresh (answered entry)))).1 = .ok (some e) →
        MarkupApart ({} : Settings).sentenceSplitters e := by
    intro e he
    cases hasked.symm.trans he
    exact hentry
  obtain ⟨hread, hcontext⟩ := run_thatContext_read {} env (Settings.budget {}) default []
    (.start (.fresh (answered entry))) hsplitters
  have hsentence := hread .that 1 2 (by decide) (by decide) hapart
  obtain ⟨hthat, -⟩ := hcontext hapart
  refine ⟨(congrArg Prod.fst hsentence).trans ?_, (congrArg Prod.fst hthat).trans ?_⟩
  · rw [hasked]
    decide +kernel
  · rw [hasked]
    decide +kernel

/-- The tag that is closed behind the last sentence is recalled in its place, and nothing is left
of that. So the bot seems to have said nothing. -/
theorem thatContext_closed_behind :
    let env : Environment SessionStore := .inMemory []
    let entry : Text := "<b>Hi there.</b>".toList
    let run (e : Evaluation Text) :=
      e.run env (Settings.budget {}) default (.start (.fresh (answered entry)))
    (answered entry).history? [] .that 1 = some entry ∧
      sentenceRead ({} : Settings).sentenceSplitters (some entry) 1 = "Hi there.".toList ∧
      contextOf "Hi there.".toList = "HI THERE".toList ∧
      (run (historySentence {} [] .that 1 1)).1 = .ok [] ∧
      (run (thatContext {} [])).1 = .ok anyContext := by
  decide +kernel

end Dialogue
