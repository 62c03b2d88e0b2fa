import Dialogue.Pattern.Match
import Dialogue.Proofs.Text.Words

/-!
# Regular expressions

Of the ways to read the beginning of a text as a regular expression a backtracking search takes the
first in order of preference with which it can go on, where a repetition would rather go on than
stop. A wildcard is the expression `[^ ]+(?: [^ ]+)*`: where nothing can follow inside a word, the
search never stops inside one, and what it takes is the longest block of words with which it can go
on (`Expression.search_wildcard`).
-/

namespace Dialogue

inductive Expression where
  /-- One character of a class. -/
  | one (accepts : Char → Bool)
  | seq (first second : Expression)
  /-- Any number of times, rather more than fewer. -/
  | many (e : Expression)

namespace Expression

/-! ## Ways to read a text -/

/-- The ways to take something as often as it goes, where what is taken must not be empty. -/
def repeatedly (ways : Text → List (Text × Text)) (t : Text) : List (Text × Text) :=
  (ways t).flatMap (fun (taken, rest) =>
    if _h : rest.length < t.length then
      (repeatedly ways rest).map fun (more, rest') => (taken ++ more, rest')
    else []) ++ [([], t)]
termination_by t.length

/-- What the expression can take from the beginning of a text, each with what is then left, in
order of preference. -/
def ways : Expression → Text → List (Text × Text)
  | .one _, [] => []
  | .one accepts, c :: rest => if accepts c then [([c], rest)] else []
  | .seq first second, t =>
    (ways first t).flatMap fun (taken, rest) =>
      (ways second rest).map fun (more, rest') => (taken ++ more, rest')
  | .many e, t => repeatedly (ways e) t

/-- What `next` finds after the first of the ways after which it finds anything. -/
def search {α : Type} (e : Expression) (t : Text) (next : Text → Text → Option α) : Option α :=
  (e.ways t).findSome? fun (taken, rest) => next taken rest

section Search

variable {α β : Type}

theorem search_one_nil (accepts : Char → Bool) (next : Text → Text → Option α) :
    (one accepts).search [] next = none := rfl

theorem search_one_cons (accepts : Char → Bool) (c : Char) (t : Text)
    (next : Text → Text → Option α) :
    (one accepts).search (c :: t) next = if accepts c then next [c] t else none := by
  rw [search, ways]
  split <;> simp

theorem findSome?_flatMap {γ δ : Type} (f : γ → List δ) (g : δ → Option α) (xs : List γ) :
    (xs.flatMap f).findSome? g = xs.findSome? fun x => (f x).findSome? g := by
  induction xs with
  | nil => rfl
  | cons x xs ih =>
    rw [List.flatMap_cons, List.findSome?_append, ih, List.findSome?_cons]
    cases (f x).findSome? g <;> rfl

theorem search_seq (e f : Expression) (t : Text) (next : Text → Text → Option α) :
    (seq e f).search t next = e.search t fun taken rest =>
      f.search rest fun more rest' => next (taken ++ more) rest' := by
  rw [search, ways, findSome?_flatMap]
  simp only [List.findSome?_map]
  rfl

theorem search_many (e : Expression) (t : Text) (next : Text → Text → Option α) :
    (many e).search t next = (e.search t fun taken rest =>
      if rest.length < t.length then
        (many e).search rest fun more rest' => next (taken ++ more) rest'
      else none).or (next [] t) := by
  have hstop : [(([] : Text), t)].findSome? (fun (taken, rest) => next taken rest) = next [] t := by
    simp
  rw [search, ways, repeatedly, List.findSome?_append, findSome?_flatMap, hstop]
  congr 2
  funext ⟨taken, rest⟩
  by_cases hshorter : rest.length < t.length
  · simp only [hshorter, dite_true, if_true, List.findSome?_map]
    rfl
  · simp only [hshorter, dite_false, if_false, List.findSome?_nil]

theorem search_map (e : Expression) (t : Text) (next : Text → Text → Option α) (f : α → β) :
    (e.search t fun taken rest => (next taken rest).map f) = (e.search t next).map f := by
  rw [search, search, List.map_findSome?]
  rfl

end Search

/-! ## Words and blocks of words -/

def letters : Expression := seq (one (· != ' ')) (many (one (· != ' ')))

def space : Expression := one (· == ' ')

/-- One or more words, one space apart. -/
def wildcard : Expression := seq letters (many (seq space letters))

def spaced (ws : List Text) : Text := ws.flatMap (' ' :: ·)

theorem join_cons_eq (w : Text) (ws : List Text) : Text.join [' '] (w :: ws) = w ++ spaced ws := by
  induction ws generalizing w with
  | nil => simp [Text.join, spaced]
  | cons v ws ih =>
    rw [Text.join_cons (List.cons_ne_nil v ws), ih, List.append_assoc]
    rfl

section Blocks

variable {α β : Type}

/-- Nothing is found in front of a character other than a space. -/
def FailsInWord (g : Text → Option α) : Prop := ∀ c rest, c ≠ ' ' → g (c :: rest) = none

theorem FailsInWord.map {g : Text → Option α} (h : FailsInWord g) (f : α → β) :
    FailsInWord fun rest => (g rest).map f := by
  intro c rest hc
  show (g (c :: rest)).map f = none
  rw [h c rest hc]
  rfl

theorem search_space (t : Text) (next : Text → Text → Option α) :
    space.search (' ' :: t) next = next [' '] t := search_one_cons _ _ _ _

theorem search_space_of_ne {c : Char} (hc : c ≠ ' ') (e : Expression) (t : Text)
    (next : Text → Text → Option α) : (seq space e).search (c :: t) next = none := by
  rw [search_seq, space, search_one_cons, if_neg (by simpa using hc)]

/-- Where nothing is found inside a word, the search takes the whole of it. -/
theorem search_many_letters {w : Text} (hw : ' ' ∉ w) (ws : List Text)
    {next : Text → Text → Option α} (hnext : ∀ taken, FailsInWord (next taken)) :
    (many (one (· != ' '))).search (w ++ spaced ws) next = next w (spaced ws) := by
  induction w generalizing next with
  | nil =>
    have hnone : ∀ k : Text → Text → Option α, (one (· != ' ')).search (spaced ws) k = none := by
      intro k
      cases ws with
      | nil => exact search_one_nil _ k
      | cons v ws => rfl
    rw [search_many, List.nil_append, hnone, Option.none_or]
  | cons c w ih =>
    obtain ⟨hc, hw⟩ := not_or.1 (mt List.mem_cons.2 hw)
    have hletter : (c != ' ') = true := bne_iff_ne.2 (Ne.symm hc)
    have hshorter : (w ++ spaced ws).length < (c :: (w ++ spaced ws)).length := Nat.lt_succ_self _
    rw [search_many, List.cons_append, search_one_cons, if_pos hletter, if_pos hshorter,
      ih hw fun taken => hnext _, hnext [] c _ (Ne.symm hc), Option.or_none]
    rfl

theorem search_letters {w : Text} (hw : ' ' ∉ w) (ws : List Text)
    {next : Text → Text → Option α} (hnext : ∀ taken, FailsInWord (next taken)) :
    letters.search (w ++ spaced ws) next = if w = [] then none else next w (spaced ws) := by
  rw [letters, search_seq]
  cases w with
  | nil =>
    cases ws with
    | nil => rfl
    | cons v ws => rfl
  | cons c w =>
    obtain ⟨hc, hw⟩ := not_or.1 (mt List.mem_cons.2 hw)
    have hletter : (c != ' ') = true := bne_iff_ne.2 (Ne.symm hc)
    rw [List.cons_append, search_one_cons, if_pos hletter,
      search_many_letters hw ws fun taken => hnext _, if_neg (List.cons_ne_nil c w)]
    rfl

theorem longestBlock_cons (next : List Text → Option α) (w : Text) (ws : List Text) :
    longestBlock next (w :: ws) =
      ((longestBlock next ws).or ((next ws).map fun found => ([], found))).map
        fun (block, found) => (w :: block, found) := by
  rw [longestBlock]
  cases longestBlock next ws with
  | some taken => rfl
  | none =>
    cases next ws <;> rfl

theorem longestBlock_map (next : List Text → Option α) (f : α → β) (ws : List Text) :
    longestBlock (fun rest => (next rest).map f) ws =
      (longestBlock next ws).map (Prod.map id f) := by
  induction ws with
  | nil => rfl
  | cons w ws ih =>
    rw [longestBlock_cons, longestBlock_cons, ih]
    cases longestBlock next ws with
    | some taken => rfl
    | none => cases next ws <;> rfl

/-- What is found behind words: nothing if one of them is empty, else what `next` finds. -/
def OnWords (next : List Text → Option α) (g : Text → Option α) : Prop :=
  ∀ ws, (∀ w ∈ ws, ' ' ∉ w) → g (spaced ws) = if ws.any List.isEmpty then none else next ws

variable {g : Text → Option α} {next : List Text → Option α}

theorem failsInWord_more_words {next : Text → Text → Option α}
    (hnext : ∀ taken, FailsInWord (next taken)) :
    FailsInWord fun rest => (many (seq space letters)).search rest next := by
  intro c rest hc
  show (many (seq space letters)).search (c :: rest) next = none
  rw [search_many, search_space_of_ne hc, hnext [] c rest hc, Option.none_or]

/-- **A search for more words takes them word by word**, and as many as it can. -/
theorem search_more_words (hfails : FailsInWord g) (hg : OnWords next g) {ws : List Text}
    (hws : ∀ w ∈ ws, ' ' ∉ w) :
    ((many (seq space letters)).search (spaced ws) fun taken rest =>
        (g rest).map fun found => (taken, found)) =
      if ws.any List.isEmpty then none else
        ((longestBlock next ws).or ((next ws).map fun found => ([], found))).map
          fun (block, found) => (spaced block, found) := by
  induction ws with
  | nil =>
    have hstop : g [] = next [] := hg [] hws
    rw [search_many, search_seq]
    show (g []).map _ = ((next []).map _).map _
    rw [hstop, Option.map_map]
    rfl
  | cons w ws ih =>
    obtain ⟨hw, hrest⟩ := List.forall_mem_cons.1 hws
    have hstop := hg (w :: ws) hws
    have hlonger : ((many (seq space letters)).search (spaced ws) fun more rest =>
        (g rest).map fun found => ([' '] ++ w ++ more, found)) =
          (if ws.any List.isEmpty then none else
            ((longestBlock next ws).or ((next ws).map fun found => ([], found))).map
              fun (block, found) => (spaced block, found)).map
            fun (taken, found) => ([' '] ++ w ++ taken, found) := by
      rw [← ih hrest, ← search_map]
      simp only [Option.map_map]
      rfl
    have hspaced : spaced (w :: ws) = ' ' :: (w ++ spaced ws) := rfl
    have hshorter : (spaced ws).length < (' ' :: (w ++ spaced ws)).length := by
      rw [List.length_cons, List.length_append]
      omega
    have hfailsMore : ∀ taken, FailsInWord fun rest =>
        if rest.length < (' ' :: (w ++ spaced ws)).length then
          (many (seq space letters)).search rest fun more rest' =>
            (g rest').map fun found => ([' '] ++ taken ++ more, found)
        else none := by
      intro taken c rest hc
      show (if _ then _ else none) = none
      split
      · exact failsInWord_more_words (fun more => hfails.map _) c rest hc
      · rfl
    rw [search_many, search_seq, hstop, hspaced, search_space, search_letters hw ws hfailsMore,
      if_pos hshorter, hlonger, longestBlock_cons]
    by_cases hempty : w = []
    · subst hempty
      rfl
    · have hw : w.isEmpty = false := by simpa using hempty
      rw [if_neg hempty, List.any_cons, hw, Bool.false_or]
      cases ws.any List.isEmpty with
      | true => rfl
      | false =>
        cases longestBlock next ws with
        | some taken => rfl
        | none => cases next ws <;> cases next (w :: ws) <;> rfl

/-- What is taken for a wildcard is the longest block of words with which the search goes on. -/
theorem search_wildcard (hfails : FailsInWord g) (hg : OnWords next g) {w : Text} {ws : List Text}
    (hw : ' ' ∉ w) (hws : ∀ v ∈ ws, ' ' ∉ v) :
    (wildcard.search (w ++ spaced ws) fun taken rest =>
        (g rest).map fun found => (taken, found)) =
      if (w :: ws).any List.isEmpty then none else
        (longestBlock next (w :: ws)).map fun (block, found) => (Text.join [' '] block, found) := by
  have hlonger : ((many (seq space letters)).search (spaced ws) fun more rest =>
      (g rest).map fun found => (w ++ more, found)) =
        (if ws.any List.isEmpty then none else
          ((longestBlock next ws).or ((next ws).map fun found => ([], found))).map
            fun (block, found) => (spaced block, found)).map
          fun (taken, found) => (w ++ taken, found) := by
    rw [← search_more_words hfails hg hws, ← search_map]
    simp only [Option.map_map]
    rfl
  have hfailsMore : ∀ taken, FailsInWord fun rest =>
      (many (seq space letters)).search rest fun more rest' =>
        (g rest').map fun found => (taken ++ more, found) :=
    fun taken => failsInWord_more_words fun more => hfails.map _
  rw [wildcard, search_seq, search_letters hw ws hfailsMore, hlonger, longestBlock_cons]
  by_cases hempty : w = []
  · subst hempty
    rfl
  · have hnonempty : w.isEmpty = false := by simpa using hempty
    rw [if_neg hempty, List.any_cons, hnonempty, Bool.false_or]
    cases ws.any List.isEmpty with
    | true => rfl
    | false =>
      simp only [Bool.false_eq_true, if_false, Option.map_map]
      congr 1
      funext ⟨block, found⟩
      exact congrArg (fun taken => (taken, found)) (join_cons_eq w block).symm

end Blocks

end Expression

end Dialogue
