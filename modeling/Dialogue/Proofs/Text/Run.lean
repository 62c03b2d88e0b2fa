import Dialogue.Proofs.Text.Normal
import Mathlib.Data.List.Sort

/-!
# Runs of letters and numbers

The normal form of a text is made of its maximal runs of letters and numbers, once everything but
these and white space is deleted. A run carries with it what stands before it and what stands behind
it, so that it can be told from another run of the same characters (`Run`), and a text has one list
of all its runs from the left (`exists_allInOrder`, `AllInOrder.unique`). A text is its own normal
form exactly if it is made of such words with one space between any two (`normalizeWords_normal`).
-/

namespace Dialogue.Text

open Unicode

/-! ## Maximal runs -/

/-- A maximal run of characters for which `p` holds, and what stands before and behind it. -/
@[ext]
structure Run (p : Char → Bool) (t : Text) where
  before : Text
  chars : Text
  after : Text
  eq_append : t = before ++ (chars ++ after)
  ne_nil : chars ≠ []
  holds : ∀ c ∈ chars, p c = true
  starts : ∀ c ∈ before.getLast?, p c = false
  ends : ∀ c ∈ after.head?, p c = false

namespace Run

variable {p : Char → Bool} {t w : Text} {c : Char}

/-- The list has all the runs of the text in it, from the left. -/
structure AllInOrder (runs : List (Run p t)) : Prop where
  mem : ∀ r, r ∈ runs
  ordered : runs.Pairwise fun r s => r.before.length < s.before.length

theorem AllInOrder.unique {runs runs' : List (Run p t)} (h : AllInOrder runs)
    (h' : AllInOrder runs') : runs = runs' := by
  have : Std.Irrefl fun r s : Run p t => r.before.length < s.before.length :=
    ⟨fun _ => Nat.lt_irrefl _⟩
  have : Std.Antisymm fun r s : Run p t => r.before.length < s.before.length :=
    ⟨fun _ _ hrs hsr => absurd hsr hrs.not_gt⟩
  exact h.ordered.eq_of_mem_iff h'.ordered fun r => iff_of_true (h.mem r) (h'.mem r)

def front (w after : Text) (hne : w ≠ []) (hw : ∀ c ∈ w, p c = true)
    (hafter : ∀ c ∈ after.head?, p c = false) : Run p (w ++ after) where
  before := []
  chars := w
  after := after
  eq_append := rfl
  ne_nil := hne
  holds := hw
  starts := nofun
  ends := hafter

theorem starts_behind_iff (hc : p c = false) {before : Text} :
    (∀ d ∈ (w ++ c :: before).getLast?, p d = false) ↔ ∀ d ∈ before.getLast?, p d = false := by
  rw [List.append_cons]
  by_cases hne : before = []
  · simp [hne, hc]
  · rw [List.getLast?_append_of_ne_nil _ hne]

def behind (w : Text) (hc : p c = false) (r : Run p t) : Run p (w ++ c :: t) where
  before := w ++ c :: r.before
  chars := r.chars
  after := r.after
  eq_append := by
    rw [List.append_assoc, List.cons_append, ← r.eq_append]
  ne_nil := r.ne_nil
  holds := r.holds
  starts := (starts_behind_iff hc).2 r.starts
  ends := r.ends

/-- A run that begins behind such a character is a run of the text behind it. -/
theorem exists_eq_behind (hc : p c = false) {r : Run p (w ++ c :: t)} {d : Char} {before : Text}
    (h : r.before = w ++ d :: before) : ∃ s, behind w hc s = r := by
  have hsplit := r.eq_append
  rw [h, List.append_assoc, List.cons_append] at hsplit
  obtain ⟨rfl, ht⟩ := List.cons.inj (List.append_cancel_left hsplit)
  have hstarts := r.starts
  rw [h, starts_behind_iff hc] at hstarts
  exact ⟨⟨before, r.chars, r.after, ht, r.ne_nil, r.holds, hstarts, r.ends⟩,
    Run.ext h.symm rfl rfl⟩

/-- Where the characters of `w` have the property and the next one has not, a run is `w` itself, or
it begins behind the character that ends `w`. -/
theorem front_or_behind {after : Text} (hw : ∀ c ∈ w, p c = true)
    (hafter : ∀ c ∈ after.head?, p c = false) (r : Run p (w ++ after)) :
    (r.before = [] ∧ r.chars = w ∧ r.after = after) ∨ ∃ d before, r.before = w ++ d :: before := by
  obtain ⟨x, xs, hchars⟩ := List.exists_cons_of_ne_nil r.ne_nil
  rcases List.append_eq_append_iff.1 r.eq_append with ⟨e, hbefore, hrest⟩ | ⟨e, hfront, hrest⟩
  · cases e with
    | nil =>
      have hx : p x = true := r.holds x (by rw [hchars]; exact List.mem_cons_self)
      rw [hrest, hchars] at hafter
      exact absurd hx (Bool.eq_false_iff.1 (hafter x rfl))
    | cons d before => exact .inr ⟨d, before, hbefore⟩
  · have hnil : r.before = [] := by
      by_contra hne
      have hlast := r.starts _ (List.getLast?_eq_some_getLast hne)
      have hbegin : r.before <+: w := ⟨e, hfront.symm⟩
      exact absurd (hw _ (hbegin.subset (List.getLast_mem hne))) (Bool.eq_false_iff.1 hlast)
    have hsplit : w ++ after = r.chars ++ r.after := by
      have := r.eq_append
      rwa [hnil] at this
    have hwhole : r.chars = w := by
      rw [← (span_append r.holds r.ends).1, ← hsplit, (span_append hw hafter).1]
    rw [hwhole] at hsplit
    exact .inl ⟨hnil, hwhole, (List.append_cancel_left hsplit).symm⟩

/-- The run at the beginning of a text, if it has one, and the runs behind that are all its runs. -/
theorem exists_allInOrder_front {after : Text} (hw : ∀ c ∈ w, p c = true)
    (hafter : ∀ c ∈ after.head?, p c = false) {later : List (Run p (w ++ after))}
    (hmem : ∀ r, r ∈ later ↔ ∃ d before, r.before = w ++ d :: before)
    (hordered : later.Pairwise fun r s => r.before.length < s.before.length) :
    ∃ runs : List (Run p (w ++ after)), AllInOrder runs ∧
      runs.map chars = nonempty [w] ++ later.map chars := by
  by_cases hnil : w = []
  · have hnone : nonempty [w] = [] := hnil ▸ rfl
    refine ⟨later, ⟨fun r => (hmem r).2 ?_, hordered⟩, ?_⟩
    · exact (front_or_behind hw hafter r).resolve_left fun h => r.ne_nil (h.2.1.trans hnil)
    · rw [hnone, List.nil_append]
  · refine ⟨front w after hnil hw hafter :: later, ⟨fun r => ?_, ?_⟩, ?_⟩
    · rcases front_or_behind hw hafter r with ⟨hbefore, hchars, hrest⟩ | hbehind
      · exact List.mem_cons.2 (.inl (Run.ext hbefore hchars hrest))
      · exact List.mem_cons_of_mem _ ((hmem r).2 hbehind)
    · refine List.pairwise_cons.2 ⟨fun r hr => ?_, hordered⟩
      obtain ⟨d, before, hbefore⟩ := (hmem r).1 hr
      rw [hbefore, List.length_append]
      exact Nat.lt_of_lt_of_le (Nat.succ_pos _) (Nat.le_add_left _ _)
    · rw [nonempty_of_forall (List.forall_mem_singleton.2 hnil)]
      rfl

/-- A text that is a run, or empty, has no other run in it. -/
theorem exists_allInOrder_whole (hw : ∀ c ∈ w, p c = true) : ∃ runs : List (Run p (w ++ [])),
    AllInOrder runs ∧ runs.map chars = nonempty [w] := by
  have hend : ∀ c ∈ ([] : Text).head?, p c = false := nofun
  have hnone : ∀ r : Run p (w ++ []), r ∈ [] ↔ ∃ d before, r.before = w ++ d :: before := by
    refine fun r => iff_of_false List.not_mem_nil ?_
    rintro ⟨d, before, hbefore⟩
    have hlength := congrArg List.length r.eq_append
    rw [hbefore] at hlength
    simp only [List.length_append, List.length_cons, List.length_nil] at hlength
    omega
  obtain ⟨runs, hruns, hchars⟩ := exists_allInOrder_front hw hend hnone .nil
  exact ⟨runs, hruns, by rw [hchars, List.map_nil, List.append_nil]⟩

/-- A character that belongs to no run parts the runs before it from those behind it. -/
theorem AllInOrder.exists_behind (hw : ∀ c ∈ w, p c = true) (hc : p c = false)
    {later : List (Run p t)} (h : AllInOrder later) : ∃ runs : List (Run p (w ++ c :: t)),
      AllInOrder runs ∧ runs.map chars = nonempty [w] ++ later.map chars := by
  have hend : ∀ d ∈ (c :: t).head?, p d = false := by
    rintro d ⟨⟩
    exact hc
  have hmem : ∀ r : Run p (w ++ c :: t), r ∈ later.map (behind w hc) ↔
      ∃ d before, r.before = w ++ d :: before := by
    refine fun r => ⟨fun hr => ?_, fun ⟨d, before, hbefore⟩ => ?_⟩
    · obtain ⟨s, -, rfl⟩ := List.mem_map.1 hr
      exact ⟨c, s.before, rfl⟩
    · obtain ⟨s, rfl⟩ := exists_eq_behind hc hbefore
      exact List.mem_map_of_mem (h.mem s)
  have hordered : (later.map (behind w hc)).Pairwise fun r s =>
      r.before.length < s.before.length := by
    refine List.pairwise_map.2 (h.ordered.imp fun h => ?_)
    simp only [behind, List.length_append, List.length_cons]
    omega
  obtain ⟨runs, hruns, hchars⟩ := exists_allInOrder_front hw hend hmem hordered
  exact ⟨runs, hruns, by rw [hchars, List.map_map]; rfl⟩

/-- **A text has one list of its runs**, and it gives the pieces between the characters that belong
to none. -/
theorem exists_allInOrder (p : Char → Bool) (t : Text) : ∃ runs : List (Run p t),
    AllInOrder runs ∧ runs.map chars = nonempty (splitWhen (fun c => !p c) t) := by
  -- the induction goes on inside a run, of which `w` was seen
  suffices h : ∀ w : Text, (∀ c ∈ w, p c = true) → ∃ runs : List (Run p (w ++ t)),
      AllInOrder runs ∧ runs.map chars = nonempty (splitWhen (fun c => !p c) (w ++ t)) from
    h [] nofun
  have hpiece : ∀ w : Text, (∀ c ∈ w, p c = true) → splitWhen (fun c => !p c) w = [w] :=
    fun w hw => splitWhen_eq_singleton fun c hc => by rw [hw c hc, Bool.not_true]
  induction t with
  | nil =>
    intro w hw
    rw [congrArg (splitWhen _) (List.append_nil w), hpiece w hw]
    exact exists_allInOrder_whole hw
  | cons c t ih =>
    intro w hw
    cases hc : p c with
    | true =>
      have hmore := ih (w ++ [c]) (List.forall_mem_append.2 ⟨hw, List.forall_mem_singleton.2 hc⟩)
      rwa [List.append_assoc, List.singleton_append] at hmore
    | false =>
      obtain ⟨later, hlater, htail⟩ : ∃ later : List (Run p t), AllInOrder later ∧
        later.map chars = nonempty (splitWhen (fun c => !p c) t) := ih [] nofun
      rw [splitWhen_append_cons (by rw [hc, Bool.not_false]), hpiece w hw, nonempty_append, ← htail]
      exact hlater.exists_behind hw hc

end Run

/-! ## The normal form -/

/-- Words of letters and numbers with one space between any two. -/
def IsSpacedWords (t : Text) : Prop :=
  ∃ ws, t = join [' '] ws ∧ ∀ w ∈ ws, w ≠ [] ∧ ∀ c ∈ w, isAlphanumeric c = true

/-- The second text is the first one with punctuation put in anywhere: any characters that are
neither letters or numbers nor white space. -/
inductive Interspersed : Text → Text → Prop
  | nil : Interspersed [] []
  | keep {c : Char} {s t : Text} : Interspersed s t → Interspersed (c :: s) (c :: t)
  | insert {c : Char} {s t : Text} : isAlphanumeric c = false → isWhiteSpace c = false →
      Interspersed s t → Interspersed s (c :: t)

theorem Interspersed.kept_eq {s t : Text} (h : Interspersed s t) : kept t = kept s := by
  induction h with
  | nil => rfl
  | keep _ ih => rw [kept, kept, List.filter_cons, List.filter_cons, ← kept, ← kept, ih]
  | insert hletter hspace _ ih =>
    rw [kept, List.filter_cons_of_neg (by simp [hletter, hspace]), ← kept, ih]

theorem words_kept (t : Text) :
    words (kept t) = nonempty (splitWhen (fun c => !isAlphanumeric c) (kept t)) := by
  refine congrArg nonempty (splitWhen_congr fun c hc => ?_)
  cases hletter : isAlphanumeric c with
  | true => exact not_isWhiteSpace_of_isAlphanumeric hletter
  | false => simpa [hletter] using (List.mem_filter.1 hc).2

theorem isSpacedWords_normalizeWords (t : Text) : IsSpacedWords (normalizeWords t) :=
  ⟨_, rfl, fun _ => mem_words_kept⟩

theorem IsSpacedWords.normalizeWords_eq {t : Text} (h : IsSpacedWords t) :
    normalizeWords t = t := by
  obtain ⟨ws, rfl, hws⟩ := h
  have hkept : kept (join [' '] ws) = join [' '] ws := kept_join_eq_self fun w hw =>
    List.filter_eq_self.2 fun c hc => by rw [(hws w hw).2 c hc, Bool.true_or]
  have hwords : words (join [' '] ws) = ws := words_join fun w hw =>
    ⟨(hws w hw).1, fun c hc => not_isWhiteSpace_of_isAlphanumeric ((hws w hw).2 c hc)⟩
  rw [normalizeWords, ← kept, hkept, hwords]

/-- **Normalization brings a text into one normal form**: its runs of letters and numbers in order
and one space apart, once everything is deleted that is neither a letter or number nor white space.
A text stays as it is exactly if it is made of such words with one space between any two, so
normalizing twice is normalizing once. Punctuation makes no difference, wherever it is put in or
taken out. -/
theorem normalizeWords_normal (t : Text) :
    (∃ runs : List (Run isAlphanumeric (kept t)),
      (∀ runs', Run.AllInOrder runs' ↔ runs' = runs) ∧
      normalizeWords t = join [' '] (runs.map Run.chars)) ∧
    (normalizeWords t = t ↔ IsSpacedWords t) ∧
    normalizeWords (normalizeWords t) = normalizeWords t ∧
    ∀ s, Interspersed s t ∨ Interspersed t s → normalizeWords s = normalizeWords t := by
  have hspaced := isSpacedWords_normalizeWords t
  refine ⟨?_, ⟨fun h => h ▸ hspaced, IsSpacedWords.normalizeWords_eq⟩, hspaced.normalizeWords_eq,
    fun s h => ?_⟩
  · obtain ⟨runs, hruns, hchars⟩ := Run.exists_allInOrder isAlphanumeric (kept t)
    refine ⟨runs, fun runs' => ⟨fun h => h.unique hruns, fun h => h ▸ hruns⟩, ?_⟩
    rw [hchars, ← words_kept]
    rfl
  · have hkept : kept s = kept t := h.elim (fun h => h.kept_eq.symm) Interspersed.kept_eq
    rw [normalizeWords, normalizeWords, ← kept, ← kept, hkept]

/-- An apostrophe does not part a word, and an ideographic space parts two words like any other. -/
theorem normalizeWords_normal_apostrophe :
    let t := "O'K,\u3000go!".toList
    let s := "OK\u3000go".toList
    Interspersed s t ∧ normalizeWords s = normalizeWords t ∧ normalizeWords t = "OK go".toList ∧
      IsSpacedWords "OK go".toList := by
  intro t s
  obtain ⟨-, -, hagain, hinterspersed⟩ := normalizeWords_normal t
  have hput : Interspersed s t :=
    .keep (.insert (by decide +kernel) (by decide +kernel) (.keep (.insert (by decide +kernel)
      (by decide +kernel) (.keep (.keep (.keep (.insert (by decide +kernel) (by decide +kernel)
        .nil)))))))
  have hnormal : normalizeWords t = "OK go".toList := by decide +kernel
  refine ⟨hput, hinterspersed s (.inl hput), hnormal, ?_⟩
  rw [hnormal] at hagain
  exact (normalizeWords_normal "OK go".toList).2.1.1 hagain

end Dialogue.Text
