import Dialogue.Proofs.Text.Occurrence
import Dialogue.Text.Entity
import Mathlib.Data.List.Infix

/-!
# Entities are written and read at once

Writing and reading entities apply one rule after the other, each over what the ones before it
left. Writing comes to the same as writing each character on its own (`escape_eq`), and reading to
the same as one pass from the left that puts a character in the place of each entity and never
looks at it again (`unescape_eq`). For no entity begins inside another one, and what a rule puts
back completes no entity. What was written is read back (`unescape_escape`).
-/

namespace Dialogue.Text

def reserved : List Char := ['<', '>', '"', '\'', '&']

theorem forall_mem_reserved {P : Char → Prop} :
    (∀ c ∈ reserved, P c) ↔ P '<' ∧ P '>' ∧ P '"' ∧ P '\'' ∧ P '&' := by
  simp [reserved]

def entity (c : Char) : Text :=
  if c = '<' then "&lt;".toList
  else if c = '>' then "&gt;".toList
  else if c = '"' then "&quot;".toList
  else if c = '\'' then "&apos;".toList
  else if c = '&' then "&amp;".toList
  else [c]

theorem entity_of_not_reserved {c : Char} (h : c ∉ reserved) : entity c = [c] := by
  simp only [reserved, List.mem_cons, List.not_mem_nil, or_false, not_or] at h
  obtain ⟨hlt, hgt, hquot, hapos, hamp⟩ := h
  rw [entity, if_neg hlt, if_neg hgt, if_neg hquot, if_neg hapos, if_neg hamp]

/-- An entity begins with an ampersand, and no reserved character stands behind it. -/
theorem exists_entity {c : Char} (hc : c ∈ reserved) :
    ∃ name : Text, entity c = '&' :: name ∧ ∀ x ∈ name, x ∉ reserved := by
  have hshape : ∀ c ∈ reserved, (entity c).head? = some '&' ∧
      ((entity c).tail.all fun x => !reserved.contains x) = true :=
    forall_mem_reserved.2 (by decide)
  obtain ⟨hfirst, hname⟩ := hshape c hc
  obtain ⟨name, he⟩ := List.head?_eq_some_iff.1 hfirst
  refine ⟨name, he, fun x hx hreserved => ?_⟩
  rw [he] at hname
  have hnot := List.all_eq_true.1 hname x hx
  rw [List.contains_iff_mem.2 hreserved] at hnot
  cases hnot

/-! ## Writing -/

/-- **Each character is written on its own.** -/
theorem escape_eq (t : Text) : escape t = t.flatMap entity := by
  have hrules : escape t = replaceAll ['\''] (entity '\'') (replaceAll ['"'] (entity '"')
      (replaceAll ['>'] (entity '>') (replaceAll ['<'] (entity '<')
        (replaceAll ['&'] (entity '&') t)))) := by
    rw [escape, escapeTable, applyTable]
    simp only [List.foldl_cons, List.foldl_nil]
    rfl
  have hreserved : ∀ c ∈ reserved, ((((if c = '&' then entity '&' else [c]).flatMap
      fun c => if c = '<' then entity '<' else [c]).flatMap
      fun c => if c = '>' then entity '>' else [c]).flatMap
      fun c => if c = '"' then entity '"' else [c]).flatMap
      (fun c => if c = '\'' then entity '\'' else [c]) = entity c :=
    forall_mem_reserved.2 (by decide)
  rw [hrules]
  simp only [replaceAll_char, List.flatMap_assoc] at hreserved ⊢
  refine List.flatMap_congr fun c _ => ?_
  by_cases hc : c ∈ reserved
  · exact hreserved c hc
  · rw [entity_of_not_reserved hc]
    simp only [reserved, List.mem_cons, List.not_mem_nil, or_false, not_or] at hc
    simp [hc]

theorem escape_eq_self {t : Text} (h : ∀ c ∈ t, c ∉ reserved) : escape t = t := by
  have hplain : t.flatMap entity = t.flatMap fun c => [c] :=
    List.flatMap_congr fun c hc => entity_of_not_reserved (h c hc)
  rw [escape_eq, hplain, List.flatMap_singleton']

/-- What is written for a text has no reserved character but the ampersand. -/
theorem not_mem_escape {c : Char} (hc : c ∈ reserved) (hamp : c ≠ '&') (t : Text) :
    c ∉ escape t := by
  rw [escape_eq, List.mem_flatMap]
  rintro ⟨d, -, hd⟩
  by_cases hreserved : d ∈ reserved
  · obtain ⟨name, he, hname⟩ := exists_entity hreserved
    rw [he] at hd
    exact (List.mem_cons.1 hd).elim hamp fun h => hname c h hc
  · rw [entity_of_not_reserved hreserved] at hd
    exact hreserved (List.mem_singleton.1 hd ▸ hc)

/-! ## Reading -/

/-- The text with the given characters in the place of their entities, in one pass from the left.
What stands for an entity is not looked at again. -/
def decode (chars : List Char) : Text → Text
  | [] => []
  | c :: rest =>
    match chars.find? fun d => (entity d).isPrefixOf (c :: rest) with
    | some d => d :: decode chars (rest.drop ((entity d).length - 1))
    | none => c :: decode chars rest
termination_by t => t.length
decreasing_by
  · simp only [List.length_drop, List.length_cons]
    omega
  · exact Nat.lt_succ_self _

/-- No entity begins inside another one. -/
theorem not_begins_entity {c d : Char} (hc : c ∈ reserved) (hd : d ∈ reserved) (hne : c ≠ d)
    {z : Char} {tail : Text} (hsuffix : z :: tail <:+ entity c) (rest : Text) :
    ¬ entity d <+: z :: tail ++ rest := by
  have hall : (reserved.all fun c => reserved.all fun d => c == d || (entity c).tails.all fun x =>
      x.isEmpty || (!(entity d).isPrefixOf x && !x.isPrefixOf (entity d))) = true := by decide
  have hpair := List.all_eq_true.1 (List.all_eq_true.1 hall c hc) d hd
  rw [beq_false_of_ne hne, Bool.false_or] at hpair
  have hapart := List.all_eq_true.1 hpair _ ((List.mem_tails _ _).2 hsuffix)
  rw [List.isEmpty_cons, Bool.false_or, Bool.and_eq_true, Bool.not_eq_true', Bool.not_eq_true',
    Bool.eq_false_iff, Bool.eq_false_iff] at hapart
  intro hbegins
  rcases List.prefix_or_prefix_of_prefix hbegins (List.prefix_append _ rest) with h | h
  · exact hapart.1 (List.isPrefixOf_iff_prefix.2 h)
  · exact hapart.2 (List.isPrefixOf_iff_prefix.2 h)

theorem entity_ne_nil {c : Char} (hc : c ∈ reserved) : entity c ≠ [] := by
  obtain ⟨name, he, -⟩ := exists_entity hc
  rw [he]
  exact List.cons_ne_nil _ _

theorem not_begins_of_ne_amp {c d : Char} (hd : d ∈ reserved) (hc : c ≠ '&') (rest : Text) :
    ¬ entity d <+: c :: rest := by
  obtain ⟨name, he, -⟩ := exists_entity hd
  rw [he]
  exact fun hbegins => hc (List.cons_prefix_cons.1 hbegins).1.symm

section Decode

variable {chars : List Char} {c d : Char} {rest t : Text}

theorem decode_skip (h : ∀ d ∈ chars, ¬ entity d <+: c :: rest) :
    decode chars (c :: rest) = c :: decode chars rest := by
  have hnone : chars.find? (fun d => (entity d).isPrefixOf (c :: rest)) = none :=
    List.find?_eq_none.2 fun d hd => mt List.isPrefixOf_iff_prefix.1 (h d hd)
  rw [decode, hnone]

/-- Characters at which no entity begins stay. -/
theorem decode_skips {zs : Text}
    (h : ∀ z tail, z :: tail <:+ zs → ∀ d ∈ chars, ¬ entity d <+: z :: tail ++ t) :
    decode chars (zs ++ t) = zs ++ decode chars t := by
  induction zs with
  | nil => rfl
  | cons z zs ih =>
    have hrest := ih fun y tail hy => h y tail (hy.trans (List.suffix_cons z zs))
    rw [List.cons_append, List.cons_append, ← hrest]
    exact decode_skip (h z zs (List.suffix_refl _))

variable (hchars : chars ⊆ reserved)

include hchars

theorem decode_entity (hd : d ∈ chars) (t : Text) :
    decode chars (entity d ++ t) = d :: decode chars t := by
  obtain ⟨name, he, -⟩ := exists_entity (hchars hd)
  have hfind : chars.find? (fun e => (entity e).isPrefixOf (entity d ++ t)) = some d := by
    cases hfound : chars.find? (fun e => (entity e).isPrefixOf (entity d ++ t)) with
    | none =>
      exact absurd (List.isPrefixOf_iff_prefix.2 (List.prefix_append _ _))
        (List.find?_eq_none.1 hfound d hd)
    | some e =>
      have hfirst := List.find?_some hfound
      have hbegins : entity e <+: entity d ++ t := List.isPrefixOf_iff_prefix.1 hfirst
      by_contra hne
      have hwhole : '&' :: name <:+ entity d := he ▸ List.suffix_refl _
      have hapart := not_begins_entity (hchars hd) (hchars (List.mem_of_find?_eq_some hfound))
        (fun h => hne (congrArg some h.symm)) hwhole t
      rw [← he] at hapart
      exact hapart hbegins
  rw [he, List.cons_append] at hfind ⊢
  rw [decode, hfind]
  show d :: decode chars ((name ++ t).drop ((entity d).length - 1)) = _
  rw [he, List.length_cons, Nat.add_sub_cancel, List.drop_left]

/-- What the pass gives begins with something like the inside of an entity only where the text
itself does: each character that was put back is reserved. -/
theorem prefix_of_decode {name : Text} (hname : ∀ x ∈ name, x ∉ reserved)
    (h : name <+: decode chars t) : name <+: t := by
  induction name generalizing t with
  | nil => exact List.nil_prefix
  | cons x name ih =>
    obtain ⟨hx, hname⟩ := List.forall_mem_cons.1 hname
    cases t with
    | nil =>
      rw [decode] at h
      exact h
    | cons c rest =>
      rw [decode] at h
      split at h
      · next d hfound =>
        obtain ⟨rfl, -⟩ := List.cons_prefix_cons.1 h
        exact absurd (hchars (List.mem_of_find?_eq_some hfound)) hx
      · obtain ⟨rfl, hrest⟩ := List.cons_prefix_cons.1 h
        exact List.cons_prefix_cons.2 ⟨rfl, ih hname hrest⟩

/-- **One rule more is one entity more in the pass.** -/
theorem replaceAll_decode (hd : d ∈ reserved) (hnew : d ∉ chars) (hamp : '&' ∉ chars) (t : Text) :
    replaceAll (entity d) [d] (decode chars t) = decode (d :: chars) t := by
  symm
  apply Replaced.eq_replaceAll (entity_ne_nil hd)
  have hmore : d :: chars ⊆ reserved := List.cons_subset.2 ⟨hd, hchars⟩
  induction ht : t.length using Nat.strong_induction_on generalizing t with
  | _ n ih =>
    by_cases hbegins : ∃ e ∈ d :: chars, entity e <+: t
    · obtain ⟨e, he, rest, rfl⟩ := hbegins
      have hpos := List.length_pos_iff.2 (entity_ne_nil (hmore he))
      have hscan := ih rest.length (by rw [← ht, List.length_append]; omega) rest rfl
      rw [decode_entity hmore he]
      rcases List.mem_cons.1 he with rfl | hold
      · -- the earlier rules leave this entity as it is
        rw [decode_skips fun z tail hsuffix f hf =>
          not_begins_entity hd (hchars hf) (fun h => hnew (h ▸ hf)) hsuffix rest]
        exact .hit hscan
      · rw [decode_entity hchars hold]
        exact .skip (not_begins_of_ne_amp hd (fun h => hamp (h ▸ hold)) _) hscan
    · cases t with
      | nil =>
        rw [decode, decode]
        exact .nil
      | cons c rest =>
        have hscan := ih rest.length (by rw [← ht]; exact Nat.lt_succ_self _) rest rfl
        have hnot : ∀ e ∈ d :: chars, ¬ entity e <+: c :: rest :=
          fun e he h => hbegins ⟨e, he, h⟩
        rw [decode_skip hnot, decode_skip (List.forall_mem_cons.1 hnot).2]
        refine .skip (fun h => ?_) hscan
        obtain ⟨name, hentity, hname⟩ := exists_entity hd
        rw [hentity] at h
        obtain ⟨rfl, hinside⟩ := List.cons_prefix_cons.1 h
        refine hnot d List.mem_cons_self ?_
        rw [hentity]
        exact List.cons_prefix_cons.2 ⟨rfl, prefix_of_decode hchars hname hinside⟩

end Decode

theorem decode_nil (t : Text) : decode [] t = t := by
  have h : decode [] (t ++ []) = t ++ decode [] [] := decode_skips fun _ _ _ => nofun
  rwa [List.append_nil, decode, List.append_nil] at h

/-- **Entities are read in one pass.** -/
theorem unescape_eq (t : Text) : unescape t = decode reserved.reverse t := by
  have hrules : unescape t = replaceAll (entity '&') ['&'] (replaceAll (entity '\'') ['\'']
      (replaceAll (entity '"') ['"'] (replaceAll (entity '>') ['>']
        (replaceAll (entity '<') ['<'] (decode [] t))))) := by
    rw [unescape, unescapeTable, applyTable, decode_nil]
    simp only [List.foldl_cons, List.foldl_nil]
    rfl
  rw [hrules]
  iterate 5 rw [replaceAll_decode (by decide) (by decide) (by decide) (by decide)]
  rfl

/-- **What is written with entities is read back.** -/
theorem unescape_escape (t : Text) : unescape (escape t) = t := by
  have hall : reserved.reverse ⊆ reserved := fun c => List.mem_reverse.1
  rw [unescape_eq, escape_eq]
  induction t with
  | nil => rw [List.flatMap_nil, decode]
  | cons c t ih =>
    rw [List.flatMap_cons]
    by_cases hc : c ∈ reserved
    · rw [decode_entity hall (List.mem_reverse.2 hc), ih]
    · have hamp : c ≠ '&' := by
        rintro rfl
        exact hc (by decide)
      rw [entity_of_not_reserved hc, List.singleton_append,
        decode_skip fun d hd => not_begins_of_ne_amp (hall hd) hamp _, ih]

/-- **The rules act on all five characters at once.** Each character is written on its own, as its
entity if it has one, so of the five only the ampersand occurs in what is written; entities are
read in one pass that never looks at what it has put back; and what was written is read back. -/
theorem entities_at_once (t : Text) :
    escape t = t.flatMap entity ∧
    (∀ c ∈ ['<', '>', '"', '\''], c ∉ escape t) ∧
    unescape t = decode ['&', '\'', '"', '>', '<'] t ∧
    unescape (escape t) = t := by
  refine ⟨escape_eq t, fun c hc => ?_, unescape_eq t, unescape_escape t⟩
  have hplain : c ∈ reserved ∧ c ≠ '&' := by
    simp only [List.mem_cons, List.not_mem_nil, or_false] at hc
    rcases hc with rfl | rfl | rfl | rfl <;> decide
  exact not_mem_escape hplain.1 hplain.2 t

/-- An ampersand that is put back does not begin another entity. -/
example : unescape "&amp;lt;&lt;".toList = "&lt;<".toList := by decide

end Dialogue.Text
