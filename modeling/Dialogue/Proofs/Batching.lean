import Dialogue.Conversation
import Dialogue.Proofs.Text.Sentence
import Dialogue.Session.Environment
import Dialogue.Tags.Standard

/-!
# What is said in one turn or in two

A bot may be told two things at once, with a space between them, or one after the other. If
the first ends with its sentence, this makes no difference (`respond_append`): every sentence
is answered in a turn of its own, and what was said before it is known from the session only.
-/

namespace Dialogue

open Evaluation Text

variable {σ : Type}

/-! ## Replies are trimmed -/

theorem trimmed_of_render {ev : Evaluator} {session : SessionId} {stars : Stars}
    {template : Markup.Document} {env : Environment σ} {budget : Budget} {chance : Chance}
    {turn : Turn σ} {t : Text}
    (h : ((ev.render session stars template).run env budget chance turn).1 = .ok t) :
    Trimmed t := by
  obtain ⟨whole, later, -, hwhole⟩ := exists_run_of_bind h
  obtain rfl : trim whole = t := Except.ok.inj hwhole
  exact trimmed_trim whole

theorem trimmed_of_answer {ev : Evaluator} {session : SessionId} {sentence : Text}
    {env : Environment σ} {budget : Budget} {chance : Chance} {turn : Turn σ} {t : Text}
    (h : ((ev.answer session sentence).run env budget chance turn).1 = .ok (some t)) :
    Trimmed t := by
  obtain ⟨found, later, -, hfound⟩ := exists_run_of_bind h
  cases found with
  | none => cases hfound
  | some selection =>
    obtain ⟨rendered, latest, hrender, hrendered⟩ := exists_run_of_bind hfound
    obtain rfl : rendered = t := Option.some.inj (Except.ok.inj hrendered)
    exact trimmed_of_render (congrArg Prod.fst hrender)

namespace Bot

variable (bot : Bot σ) (session : SessionId)

theorem trimmed_respondToSentence
    (hfallback : Trimmed bot.evaluator.settings.fallbackResponse) (sentence : Text)
    (world : World σ) : Trimmed (bot.respondToSentence session sentence world).1 := by
  have hreply : ∀ outcome : Except EvalError (Option Text),
      (∀ t, outcome = .ok (some t) → Trimmed t) → Trimmed (bot.reply outcome) := by
    intro outcome h
    rcases outcome with error | _ | t
    · exact hfallback
    · exact hfallback
    · exact h t rfl
  exact hreply _ fun t ht => trimmed_of_answer ht

theorem trimmed_respondToSentences
    (hfallback : Trimmed bot.evaluator.settings.fallbackResponse) (sentences : List Text)
    (world : World σ) :
    ∀ reply ∈ (bot.respondToSentences session sentences world).1, Trimmed reply := by
  induction sentences generalizing world with
  | nil => exact fun reply hreply => absurd hreply List.not_mem_nil
  | cons sentence rest ih =>
    intro reply hreply
    rcases List.mem_cons.1 hreply with rfl | hrest
    · exact bot.trimmed_respondToSentence session hfallback sentence world
    · exact ih _ reply hrest

/-- Trimmed replies are joined as they are. -/
theorem joinReplies_of_trimmed {replies : List Text} (h : ∀ reply ∈ replies, Trimmed reply) :
    joinReplies replies = join [' '] (nonempty replies) := by
  apply trim_of_trimmed
  apply trimmed_join
  intro reply hreply
  obtain ⟨hmem, hne⟩ := mem_nonempty.1 hreply
  exact ⟨hne, h reply hmem⟩

/-! ## Sentences in sequence -/

theorem respondToSentences_append (xs ys : List Text) (world : World σ) :
    bot.respondToSentences session (xs ++ ys) world =
      ((bot.respondToSentences session xs world).1 ++
          (bot.respondToSentences session ys (bot.respondToSentences session xs world).2).1,
        (bot.respondToSentences session ys (bot.respondToSentences session xs world).2).2) := by
  induction xs generalizing world with
  | nil => rfl
  | cons x xs ih =>
    rw [List.cons_append, respondToSentences_cons, respondToSentences_cons, ih]
    rfl

theorem sentencesOf_of_no_substitutions {s : Settings} (h : s.substitutions.input = [])
    (input : Text) : sentencesOf s input = sentences s.sentenceSplitters input := by
  have hnone : substituteIgnoreCase [] input = input := List.append_nil input
  rw [sentencesOf, h, hnone]

/-- **What is said in one turn may be said in two.** Where the first part ends with its
sentence, the two turns leave the same world behind as the one, and the reply is that of the
first turn and that of the second, as far as they say something. -/
theorem respond_append (hsubstitutions : bot.evaluator.settings.substitutions.input = [])
    (hsplitters : Unspaced bot.evaluator.settings.sentenceSplitters)
    (hfallback : trim bot.evaluator.settings.fallbackResponse =
      bot.evaluator.settings.fallbackResponse)
    {a : Text} (ha : EndsInSplitter bot.evaluator.settings.sentenceSplitters a) (b : Text)
    (world : World σ) :
    let first := bot.respond session a world
    let second := bot.respond session b first.2
    bot.respond session (a ++ ' ' :: b) world =
      (join [' '] (nonempty [first.1, second.1]), second.2) := by
  intro first second
  have htrimmed : Trimmed bot.evaluator.settings.fallbackResponse := by
    rw [← hfallback]
    exact trimmed_trim _
  have hspace : Unicode.isWhiteSpace ' ' = true := by decide
  have hsentences : sentencesOf bot.evaluator.settings (a ++ ' ' :: b) =
      sentencesOf bot.evaluator.settings a ++ sentencesOf bot.evaluator.settings b := by
    simp only [sentencesOf_of_no_substitutions hsubstitutions]
    exact sentences_append hsplitters hspace ha b
  have hjoin : ∀ (input : Text) (w : World σ), (bot.respond session input w).1 =
      join [' '] (nonempty (bot.respondToSentences session
        (sentencesOf bot.evaluator.settings input) w).1) := by
    intro input w
    have hreplies := joinReplies_of_trimmed
      (bot.trimmed_respondToSentences session htrimmed (sentencesOf bot.evaluator.settings input) w)
    rw [respond_eq, hreplies]
  have hreply : (bot.respond session (a ++ ' ' :: b) world).1 =
      join [' '] (nonempty [first.1, second.1]) := by
    rw [hjoin, hsentences, respondToSentences_append, join_nonempty_append, ← hjoin]
    dsimp only [first, second]
    rw [hjoin b, respond_eq]
  have hworld : (bot.respond session (a ++ ' ' :: b) world).2 = second.2 := by
    rw [respond_eq, hsentences, respondToSentences_append]
    dsimp only [second, first]
    rw [respond_eq, respond_eq]
  rw [← hreply, ← hworld]

end Bot

def consenting : Bot SessionStore where
  evaluator := ⟨{}, .standard⟩
  environment := .inMemory
    [⟨[.wildcard .star], [.wildcard .star], [.wildcard .star], [.text "Yes.".toList]⟩]
  fortune := default

theorem respond_append_consenting :
    let first := consenting.respond [] "Hello there!".toList (.fresh (.empty 32))
    let second := consenting.respond [] "How are you?".toList first.2
    consenting.respond [] ("Hello there!".toList ++ ' ' :: "How are you?".toList)
        (.fresh (.empty 32)) =
      (join [' '] (nonempty [first.1, second.1]), second.2) := by
  have hsplitters : Unspaced consenting.evaluator.settings.sentenceSplitters := by
    unfold Unspaced
    decide
  have hends : EndsInSplitter consenting.evaluator.settings.sentenceSplitters
      "Hello there!".toList := by
    unfold EndsInSplitter
    decide
  exact consenting.respond_append [] rfl hsplitters rfl hends _ _

end Dialogue
