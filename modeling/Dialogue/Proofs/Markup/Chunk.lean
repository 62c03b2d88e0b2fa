import Dialogue.Proofs.Markup.Lexing

/-!
# Tokenizing in chunks

A source may be tokenized chunk by chunk, each from the position behind the one before it. Where a
chunk ends with a text and the next one does not begin with a `<`, the two are parts of one lexeme
of the whole. Otherwise no lexeme reaches over the seam, and the chunks give the tokens, the errors
and the position that the whole gives (`tokenize_chunks`).
-/

namespace Dialogue.Markup

open Lexeme

variable {first second : Text} {p : Position} {tokens : List SpannedToken}

/-- The source is made of lexemes of which the last one is a text. -/
def EndsInText (source : Text) : Prop :=
  ∃ (xs : List Lexeme) (t : Text), IsLexing source (xs ++ [Lexeme.text t])

/-- No lexeme reaches over the seam between two chunks if the first one does not end in a text, or
if one of them is empty, or if the second one begins with a `<`. -/
theorem stopAt_of_seam {xs : List Lexeme} (h : IsLexing first xs)
    (hseam : ¬ EndsInText first ∨ first = [] ∨ second = [] ∨ second.head? = some '<') :
    StopAt xs second := by
  rcases hseam with hend | rfl | rfl | hlt
  · intro x hx htext
    obtain ⟨ys, rfl⟩ := List.getLast?_eq_some_iff.1 hx
    cases x with
    | text t => exact absurd ⟨ys, t, h⟩ hend
    | construct k content => cases htext
  · have hnil : IsLexing [] [] := ⟨rfl, by simp, .nil⟩
    rw [h.unique hnil]
    exact stopAt_nil second
  · exact stopAt_end xs
  · intro x _ _ c hc
    exact Option.some.inj (hc.symm.trans hlt)

/-- A chunk that is accepted is read to its end. -/
theorem position_of_tokenize (h : (tokenize p first).1 = .ok tokens) :
    (tokenize p first).2 = p.advance first := by
  obtain ⟨xs, hxs, -⟩ := tokenize_eq_ok_iff.1 h
  have happend := tokenize_append p hxs (stopAt_end xs)
  rw [List.append_nil, tokenize_nil] at happend
  rw [happend]

/-- **Two chunks give what the whole gives**, unless a text goes on over the seam: the same tokens
with the same spans, or the same error, and the same position behind all that was read. -/
theorem tokenize_chunks (h : (tokenize p first).1 = .ok tokens)
    (hseam : ¬ EndsInText first ∨ first = [] ∨ second = [] ∨ second.head? = some '<') :
    tokenize p (first ++ second) =
      ((tokenize (tokenize p first).2 second).1.map (tokens ++ ·),
        (tokenize (tokenize p first).2 second).2) := by
  obtain ⟨xs, hxs, rfl⟩ := tokenize_eq_ok_iff.1 h
  rw [position_of_tokenize h]
  exact tokenize_append p hxs (stopAt_of_seam hxs hseam)

/-- The second chunk fails at its end, on the line where the first one stopped. -/
theorem tokenize_chunks_unterminated :
    let first := "Hi,\nBob ".toList
    let second := "<b>there</b> <i".toList
    let whole := tokenize .start (first ++ second)
    (tokenize .start first).1 = .ok [⟨.text first, ⟨.start, 8⟩⟩] ∧ second.head? = some '<' ∧
      whole = ((tokenize ⟨8, 2, 5⟩ second).1.map ([⟨.text first, ⟨.start, 8⟩⟩] ++ ·),
        (tokenize ⟨8, 2, 5⟩ second).2) ∧
      whole = (.error (.unterminated .openTag "<i".toList ⟨⟨21, 2, 18⟩, 22⟩), ⟨21, 2, 18⟩) := by
  intro first second whole
  have hfirst : tokenize .start first = (.ok [⟨.text first, ⟨.start, 8⟩⟩], ⟨8, 2, 5⟩) := by
    decide +kernel
  have hsecond : tokenize ⟨8, 2, 5⟩ second =
      (.error (.unterminated .openTag "<i".toList ⟨⟨21, 2, 18⟩, 22⟩), ⟨21, 2, 18⟩) := by
    decide +kernel
  have hlt : second.head? = some '<' := rfl
  have hwhole := tokenize_chunks (congrArg Prod.fst hfirst) (.inr (.inr (.inr hlt)))
  rw [hfirst] at hwhole
  exact ⟨congrArg Prod.fst hfirst, hlt, hwhole, hwhole.trans (by rw [hsecond]; rfl)⟩

end Dialogue.Markup
