import Dialogue.Pattern.Basic
import Dialogue.Proofs.Text.Words

/-!
# The written form of a pattern

A text is read as a pattern exactly if it is the written form of one whose words are not empty and
have only characters in them that may stand in a pattern (`Pattern.parse?_eq_ok_iff`). Such a text
says its pattern unambiguously, since no wildcard and no space is a character of this kind.
-/

namespace Dialogue

open Unicode

/-- A word of a pattern is not empty and has only characters that may stand in one. -/
def PatternToken.IsValid : PatternToken → Prop
  | .wildcard _ => True
  | .word w => w ≠ [] ∧ ∀ c ∈ w, isPatternWordChar c = true

namespace PatternToken

variable {token : PatternToken}

theorem IsValid.text_ne_nil (h : token.IsValid) : token.text ≠ [] := by
  cases token with
  | wildcard spelling => cases spelling <;> exact List.cons_ne_nil _ _
  | word w => exact h.1

theorem IsValid.space_not_mem_text (h : token.IsValid) : ' ' ∉ token.text := by
  cases token with
  | wildcard spelling => cases spelling <;> decide
  | word w =>
    intro hspace
    have hchar : isPatternWordChar ' ' = false := by decide +kernel
    rw [h.2 _ hspace] at hchar
    cases hchar

theorem parse?_text (h : token.IsValid) (position : Nat) :
    parse? position token.text = .ok token := by
  cases token with
  | wildcard spelling => cases spelling <;> rfl
  | word w =>
    have hstar : w ≠ ['*'] := by
      rintro rfl
      have hchar : isPatternWordChar '*' = false := by decide +kernel
      rw [h.2 _ List.mem_cons_self] at hchar
      cases hchar
    have hunderscore : w ≠ ['_'] := by
      rintro rfl
      have hchar : isPatternWordChar '_' = false := by decide +kernel
      rw [h.2 _ List.mem_cons_self] at hchar
      cases hchar
    have hfind : w.find? (fun c => !isPatternWordChar c) = none := by
      rw [List.find?_eq_none]
      intro c hc
      simp [h.2 c hc]
    rw [text, parse?, if_neg h.1, if_neg hstar, if_neg hunderscore, hfind]

theorem isValid_of_parse? {position : Nat} {t : Text} (h : parse? position t = .ok token) :
    token.IsValid ∧ token.text = t := by
  rw [parse?] at h
  split at h
  · cases h
  split at h
  · cases h
    exact ⟨trivial, (by assumption : t = ['*']).symm⟩
  split at h
  · cases h
    exact ⟨trivial, (by assumption : t = ['_']).symm⟩
  split at h
  · cases h
  · cases h
    rename_i hne _ _ _ hfind
    refine ⟨⟨hne, fun c hc => ?_⟩, rfl⟩
    simpa using List.find?_eq_none.1 hfind c hc

end PatternToken

namespace Pattern

theorem parseTokens_eq_ok_iff {position : Nat} {ts : List Text} {p : Pattern} :
    parseTokens position ts = .ok p ↔
      (∀ token ∈ p, token.IsValid) ∧ p.map PatternToken.text = ts := by
  constructor
  · intro h
    induction ts generalizing position p with
    | nil =>
      cases h
      exact ⟨fun _ h => absurd h List.not_mem_nil, rfl⟩
    | cons t ts ih =>
      cases htoken : PatternToken.parse? position t with
      | error fault =>
        rw [parseTokens, htoken] at h
        cases h
      | ok token =>
        cases htokens : parseTokens (position + 1) ts with
        | error fault =>
          rw [parseTokens, htoken, htokens] at h
          cases h
        | ok tokens =>
          rw [parseTokens, htoken, htokens] at h
          cases h
          obtain ⟨hvalid, htext⟩ := PatternToken.isValid_of_parse? htoken
          obtain ⟨hvalids, htexts⟩ := ih htokens
          exact ⟨List.forall_mem_cons.2 ⟨hvalid, hvalids⟩, by rw [List.map_cons, htext, htexts]⟩
  · rintro ⟨hvalid, rfl⟩
    induction p generalizing position with
    | nil => rfl
    | cons token p ih =>
      obtain ⟨htoken, hp⟩ := List.forall_mem_cons.1 hvalid
      rw [List.map_cons, parseTokens, PatternToken.parse?_text htoken, ih hp]
      rfl

/-- **The written forms of patterns are the texts that are read as such.** -/
theorem parse?_eq_ok_iff {t : Text} {p : Pattern} :
    parse? t = .ok p ↔ p ≠ [] ∧ (∀ token ∈ p, token.IsValid) ∧ p.text = t := by
  have hparse : parse? t = .ok p ↔
      t ≠ [] ∧ parseTokens 1 (Text.splitWhen (· == ' ') t) = .ok p := by
    rw [parse?]
    split
    · simp_all
    · split <;> simp_all
  rw [hparse, parseTokens_eq_ok_iff]
  constructor
  · rintro ⟨-, hvalid, htexts⟩
    refine ⟨?_, hvalid, ?_⟩
    · rintro rfl
      rw [Text.splitWhen_eq_splitOnP] at htexts
      exact List.splitOnP_ne_nil _ t htexts.symm
    · rw [text, htexts, Text.join_splitWhen_space]
  · rintro ⟨hne, hvalid, rfl⟩
    have htexts : ∀ w ∈ p.map PatternToken.text, w ≠ [] ∧ ' ' ∉ w := by
      intro w hw
      obtain ⟨token, htoken, rfl⟩ := List.mem_map.1 hw
      exact ⟨(hvalid token htoken).text_ne_nil, (hvalid token htoken).space_not_mem_text⟩
    have hmap : p.map PatternToken.text ≠ [] := mt List.map_eq_nil_iff.1 hne
    refine ⟨Text.join_ne_nil hmap fun w hw => (htexts w hw).1, hvalid, ?_⟩
    rw [text, Text.splitWhen_join_space hmap fun w hw => (htexts w hw).2]

end Pattern

end Dialogue
