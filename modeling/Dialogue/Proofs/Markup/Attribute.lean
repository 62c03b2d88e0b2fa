import Dialogue.Markup.Node
import Dialogue.Proofs.Text.Delimiter
import Dialogue.Proofs.Text.Entity
import Dialogue.Proofs.Unicode

/-!
# Attributes are read back

An attribute is written behind white space and with its value in quotes. Where reading passes over
this white space the attribute is read, up to the next quote of its kind (`readAttribute_source`);
in front of any other white space reading stops (`readAttribute_of_isWhiteSpace`). Attributes that
are made from pairs stand behind one space and have entities in their values, so they are all read
back (`attributes_withAttributes`).
-/

namespace Dialogue.Markup

open Text Unicode

variable {t space rest value : Text} {c : Char}

def IsKey (key : Text) : Prop := key ≠ [] ∧ key.all isNameChar = true

instance (key : Text) : Decidable (IsKey key) := inferInstanceAs (Decidable (_ ∧ _))

/-! ## Characters -/

theorem isBlank_of_isNameChar (h : isNameChar c = true) : isBlank c = false := by
  by_contra hblank
  simp only [Bool.not_eq_false, isBlank, Bool.or_eq_true, beq_iff_eq] at hblank
  rcases hblank with ((rfl | rfl) | rfl) | rfl
  all_goals exact absurd h (by decide)

theorem isNameChar_of_isAlphanumeric (h : isAlphanumeric c = true) : isNameChar c = true := by
  simp only [isNameChar, h, Bool.true_or]

theorem isWhiteSpace_of_isNameChar (h : isNameChar c = true) : isWhiteSpace c = false := by
  simp only [isNameChar, Bool.or_eq_true, beq_iff_eq] at h
  rcases h with (((h | rfl) | rfl) | rfl) | rfl
  · exact not_isWhiteSpace_of_isAlphanumeric h
  all_goals decide

/-! ## One attribute -/

/-- An attribute as it is written: white space, a key, and a value in quotes of one kind. -/
structure WrittenAttribute where
  separator : Text
  key : Text
  quote : Char
  value : Text
  separator_ne_nil : separator ≠ []
  isWhiteSpace_of_mem : ∀ c ∈ separator, isWhiteSpace c = true
  isKey : IsKey key
  isQuote : quote = '"' ∨ quote = '\''
  quote_not_mem : quote ∉ value

namespace WrittenAttribute

def source (a : WrittenAttribute) : Text :=
  a.separator ++ a.key ++ '=' :: a.quote :: a.value ++ [a.quote]

def pair (a : WrittenAttribute) : Text × Text := (a.key, unescape a.value)

/-- Reading passes over the white space in front of the attribute. -/
def isBehindBlanks (a : WrittenAttribute) : Bool := a.separator.all isBlank

end WrittenAttribute

theorem skipBlanks_of_head (h : ∀ c ∈ t.head?, isBlank c = false) : skipBlanks t = t :=
  (span_append (List.forall_mem_nil _) h).2

/-- A value ends at the next quote of its kind. -/
theorem readQuoted_append {quote : Char} (hquote : quote = '"' ∨ quote = '\'')
    (hvalue : quote ∉ value) (rest : Text) :
    readQuoted (quote :: value ++ quote :: rest) = some (value, rest) := by
  have hnot : ¬ [] ++ [quote] <:+: value := fun hinside =>
    hvalue (hinside.subset List.mem_cons_self)
  have hbreak :=
    breakOn_append (unbordered_concat List.not_mem_nil) (List.cons_ne_nil _ _) hnot rest
  rw [List.cons_append, readQuoted, if_pos hquote, ← hbreak, List.nil_append, List.append_assoc]
  rfl

/-- **An attribute is read** if reading passes over the white space in front of it, and what follows
it is left. -/
theorem readAttribute_source (a : WrittenAttribute) (h : a.isBehindBlanks = true) (rest : Text) :
    readAttribute (a.source ++ rest) = some (a.pair, rest) := by
  have hblanks : ∀ c ∈ a.separator, isBlank c = true := List.all_eq_true.1 h
  have hchars := List.all_eq_true.1 a.isKey.2
  obtain ⟨c, cs, hkey⟩ := List.exists_cons_of_ne_nil a.isKey.1
  generalize hquoted : a.quote :: a.value ++ a.quote :: rest = quoted
  have hsource : a.source ++ rest = a.separator ++ (a.key ++ '=' :: quoted) := by
    rw [← hquoted]
    simp [WrittenAttribute.source]
  have hskip : skipBlanks (a.source ++ rest) = a.key ++ '=' :: quoted := by
    rw [hsource, skipBlanks, List.dropWhile_append_of_pos hblanks]
    apply skipBlanks_of_head
    rintro d hd
    rw [hkey] at hd hchars
    obtain rfl := Option.some.inj hd
    exact isBlank_of_isNameChar (hchars c List.mem_cons_self)
  have hend : ∀ c ∈ ('=' :: quoted).head?, isNameChar c = false := by
    rintro c ⟨⟩
    decide
  obtain ⟨hname, hequals⟩ := span_append hchars hend
  have hparts : readAttribute (a.source ++ rest) =
      (readQuoted (skipBlanks quoted)).map fun x => ((a.key, unescape x.1), x.2) := by
    rw [readAttribute, hskip, hname, hequals, hkey]
    rfl
  have hquote : skipBlanks quoted = quoted := by
    apply skipBlanks_of_head
    rw [← hquoted]
    rintro d hd
    obtain rfl := Option.some.inj hd
    rcases a.isQuote with hq | hq <;> rw [hq] <;> decide
  rw [hparts, hquote, ← hquoted, readQuoted_append a.isQuote a.quote_not_mem]
  rfl

/-- Reading stops in front of white space that it does not pass over, and at the end. -/
theorem readAttribute_of_isWhiteSpace (hspace : ∀ c ∈ space, isWhiteSpace c = true)
    (h : rest = [] ∨ ∃ c ∈ space, isBlank c = false) : readAttribute (space ++ rest) = none := by
  have hhead : ∀ c ∈ (skipBlanks (space ++ rest)).head?, isNameChar c = false := by
    intro c hc
    by_contra hname
    rw [Bool.not_eq_false] at hname
    refine Bool.eq_false_iff.1 (isWhiteSpace_of_isNameChar hname) (hspace c ?_)
    by_cases hall : ∀ d ∈ space, isBlank d = true
    · -- nothing but blanks is left of the text
      rw [skipBlanks, List.dropWhile_append_of_pos hall] at hc
      rcases h with rfl | ⟨d, hd, hnot⟩
      · cases hc
      · rw [hall d hd] at hnot
        cases hnot
    · have hne : (space.dropWhile isBlank).isEmpty = false := by
        rw [List.isEmpty_eq_false_iff, ne_eq, List.dropWhile_eq_nil_iff]
        exact hall
      rw [skipBlanks, List.dropWhile_append, hne, if_neg Bool.false_ne_true,
        List.head?_append_of_ne_nil _ (List.isEmpty_eq_false_iff.1 hne)] at hc
      exact (List.dropWhile_suffix isBlank).mem (List.mem_of_mem_head? hc)
  have hname : (skipBlanks (space ++ rest)).takeWhile isNameChar = [] := by
    cases hskip : skipBlanks (space ++ rest) with
    | nil => rfl
    | cons c t =>
      rw [hskip] at hhead
      exact List.takeWhile_cons_of_neg (by rw [hhead c rfl]; decide)
  rw [readAttribute, hname]

/-! ## All attributes -/

theorem readAttributes_of_some {a : Text × Text} (h : readAttribute t = some (a, rest)) :
    readAttributes t = a :: readAttributes rest := by
  rw [readAttributes]
  split
  · rename_i heq
    cases heq.symm.trans h
    rfl
  · rename_i heq
    cases heq.symm.trans h

theorem readAttributes_of_none (h : readAttribute t = none) : readAttributes t = [] := by
  rw [readAttributes]
  split
  · rename_i heq
    cases heq.symm.trans h
  · rfl

/-- **Written attributes are read** up to the first one in front of which there is white space that
reading does not pass over. -/
theorem readAttributes_sources (attributes : List WrittenAttribute)
    (hspace : ∀ c ∈ space, isWhiteSpace c = true) :
    readAttributes (attributes.flatMap WrittenAttribute.source ++ space) =
      (attributes.takeWhile WrittenAttribute.isBehindBlanks).map WrittenAttribute.pair := by
  induction attributes with
  | nil =>
    have hnone := readAttribute_of_isWhiteSpace hspace (.inl rfl)
    rw [List.append_nil] at hnone
    exact readAttributes_of_none hnone
  | cons a attributes ih =>
    rw [List.flatMap_cons, List.append_assoc]
    by_cases h : a.isBehindBlanks = true
    · rw [List.takeWhile_cons_of_pos h, List.map_cons, ← ih]
      exact readAttributes_of_some (readAttribute_source a h _)
    · rw [List.takeWhile_cons_of_neg h]
      rw [Bool.not_eq_true, WrittenAttribute.isBehindBlanks, List.all_eq_false] at h
      obtain ⟨c, hc, hnot⟩ := h
      rw [Bool.not_eq_true] at hnot
      rw [WrittenAttribute.source, List.append_assoc, List.append_assoc, List.append_assoc]
      exact readAttributes_of_none
        (readAttribute_of_isWhiteSpace a.isWhiteSpace_of_mem (.inr ⟨c, hc, hnot⟩))

/-! ## Attributes that are made from pairs -/

def WrittenAttribute.ofPair {key : Text} (hkey : IsKey key) (value : Text) : WrittenAttribute where
  separator := [' ']
  key := key
  quote := '"'
  value := escape value
  separator_ne_nil := List.cons_ne_nil _ _
  isWhiteSpace_of_mem := List.forall_mem_singleton.2 (by decide)
  isKey := hkey
  isQuote := .inl rfl
  quote_not_mem := not_mem_escape (by decide) (by decide) value

/-- The attribute text of a tag that is made with attributes is one of written attributes. -/
theorem exists_written {attributes : Attributes} (h : ∀ a ∈ attributes, IsKey a.1) :
    ∃ written : List WrittenAttribute,
      writeAttributes attributes = written.flatMap WrittenAttribute.source ∧
        written.map WrittenAttribute.pair = attributes ∧
        ∀ a ∈ written, a.isBehindBlanks = true := by
  induction attributes with
  | nil => exact ⟨[], rfl, rfl, nofun⟩
  | cons a attributes ih =>
    obtain ⟨hkey, hkeys⟩ := List.forall_mem_cons.1 h
    obtain ⟨written, hsource, hpairs, hblank⟩ := ih hkeys
    have hspace : (WrittenAttribute.ofPair hkey a.2).isBehindBlanks = true :=
      show [' '].all isBlank = true by decide
    refine ⟨.ofPair hkey a.2 :: written, ?_, ?_, List.forall_mem_cons.2 ⟨hspace, hblank⟩⟩
    · rw [List.flatMap_cons, ← hsource]
      simp [writeAttributes, WrittenAttribute.source, WrittenAttribute.ofPair]
    · rw [List.map_cons, hpairs, WrittenAttribute.pair, WrittenAttribute.ofPair, unescape_escape]

/-- **Attributes that were written are read back**, all of them and in order. -/
theorem readAttributes_writeAttributes {attributes : Attributes}
    (h : ∀ a ∈ attributes, IsKey a.1) :
    readAttributes (writeAttributes attributes) = attributes := by
  obtain ⟨written, hsource, hpairs, hblank⟩ := exists_written h
  rw [hsource, ← List.append_nil (written.flatMap _), readAttributes_sources written (by simp),
    List.takeWhile_eq_self_iff.2 hblank, hpairs]

theorem Tag.attributes_withAttributes (name : Text) {attributes : Attributes}
    (h : ∀ a ∈ attributes, IsKey a.1) :
    (Tag.withAttributes name attributes).attributes = attributes :=
  readAttributes_writeAttributes h

theorem Tag.attributes_withAttribute (name : Text) {key : Text} (hkey : IsKey key) (value : Text) :
    (Tag.withAttributes name [(key, value)]).attributes = [(key, value)] :=
  attributes_withAttributes name fun a ha => by
    obtain rfl := List.mem_singleton.1 ha
    exact hkey

end Dialogue.Markup
