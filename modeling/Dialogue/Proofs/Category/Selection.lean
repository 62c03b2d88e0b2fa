import Dialogue.Category.Selection
import Mathlib.Data.List.Induction
import Mathlib.Data.Prod.Lex
import Mathlib.Order.OrderDual

/-!
# The category that is selected

What `compareSpecificity` compares is a rank in a linear order (`compareSpecificity_eq_lt_iff`).
Of the categories that match, the first one of the least rank is selected, and nothing is where
none matches (`select?_first_of_least`). The scan looks at ranks before it tries to match, but the
best category so far is after each step the first one of the least rank (`chosen_concat`).
-/

namespace Dialogue

/-! ## Ranks -/

/-- How specific a pattern is: the number of its wildcards, and among patterns with as many of
them the number of its words, where more words count as less. -/
abbrev PatternRank := ℕ ×ₗ ℕᵒᵈ

def Pattern.rank (p : Pattern) : PatternRank := toLex (p.wildcardCount, .toDual p.literalCount)

/-- The rank of a category: that of the pattern for the input, then that of the pattern for what
was said before, then that of the pattern for the topic. -/
def Category.rank (c : Category) : PatternRank ×ₗ PatternRank ×ₗ PatternRank :=
  toLex (c.pattern.rank, toLex (c.that.rank, c.topic.rank))

theorem Pattern.compareSpecificity_eq_lt_iff {p q : Pattern} :
    p.compareSpecificity q = .lt ↔ p.rank < q.rank := by
  rw [compareSpecificity, Ordering.then_eq_lt, Nat.compare_eq_lt, Nat.compare_eq_eq,
    Nat.compare_eq_lt, rank, rank, Prod.Lex.toLex_lt_toLex]
  rfl

theorem Pattern.compareSpecificity_eq_eq_iff {p q : Pattern} :
    p.compareSpecificity q = .eq ↔ p.rank = q.rank := by
  rw [compareSpecificity, Ordering.then_eq_eq, Nat.compare_eq_eq, Nat.compare_eq_eq, rank, rank,
    toLex_inj, Prod.mk.injEq]
  exact and_congr_right fun _ => eq_comm

/-- One category is more specific than another one exactly if its rank is smaller. -/
theorem Category.compareSpecificity_eq_lt_iff {a b : Category} :
    a.compareSpecificity b = .lt ↔ a.rank < b.rank := by
  simp only [compareSpecificity, Ordering.then_eq_lt, Ordering.then_eq_eq,
    Pattern.compareSpecificity_eq_lt_iff, Pattern.compareSpecificity_eq_eq_iff, rank,
    Prod.Lex.toLex_lt_toLex]
  tauto

/-! ## Matching -/

section Matching

variable {input that topic : Text} {c : Category} {selection : Selection}

def Category.isMatch (c : Category) (input that topic : Text) : Bool :=
  c.pattern.isMatch true input && c.that.isMatch true that && c.topic.isMatch true topic

/-- The selection is the template of the category, with what the wildcards of its three patterns
stand for. -/
structure Category.Gives (c : Category) (input that topic : Text) (selection : Selection) :
    Prop where
  template : selection.template = c.template
  input : c.pattern.captures? true input = some selection.stars.input
  that : c.that.captures? true that = some selection.stars.that
  topic : c.topic.captures? true topic = some selection.stars.topic

theorem Category.match?_eq_some_iff {stars : Stars} :
    c.match? input that topic = some stars ↔
      c.pattern.captures? true input = some stars.input ∧
        c.that.captures? true that = some stars.that ∧
          c.topic.captures? true topic = some stars.topic := by
  cases stars
  simp only [match?, Option.bind_eq_bind, Option.bind_eq_some_iff, Option.pure_def,
    Option.some.injEq, Stars.mk.injEq]
  constructor
  · rintro ⟨inputs, hinput, thats, hthat, topics, htopic, rfl, rfl, rfl⟩
    exact ⟨hinput, hthat, htopic⟩
  · rintro ⟨hinput, hthat, htopic⟩
    exact ⟨_, hinput, _, hthat, _, htopic, rfl, rfl, rfl⟩

theorem Category.gives_iff :
    c.Gives input that topic selection ↔
      selection.template = c.template ∧ c.match? input that topic = some selection.stars := by
  rw [match?_eq_some_iff]
  constructor
  · intro h
    exact ⟨h.template, h.input, h.that, h.topic⟩
  · rintro ⟨htemplate, hinput, hthat, htopic⟩
    exact ⟨htemplate, hinput, hthat, htopic⟩

theorem Category.isSome_match? :
    (c.match? input that topic).isSome = c.isMatch input that topic := by
  rw [match?, isMatch, Pattern.isMatch, Pattern.isMatch, Pattern.isMatch]
  cases c.pattern.captures? true input with
  | none => rfl
  | some inputs =>
    cases c.that.captures? true that with
    | none => rfl
    | some thats => cases c.topic.captures? true topic <;> rfl

theorem Category.isMatch_of_some {stars : Stars} (h : c.match? input that topic = some stars) :
    c.isMatch input that topic = true := by
  rw [← isSome_match?, h, Option.isSome_some]

theorem Category.isMatch_of_none (h : c.match? input that topic = none) :
    c.isMatch input that topic = false := by
  rw [← isSome_match?, h, Option.isSome_none]

theorem Category.Gives.isMatch (h : c.Gives input that topic selection) :
    c.isMatch input that topic = true :=
  isMatch_of_some (gives_iff.1 h).2

end Matching

/-! ## The first one of the least rank -/

namespace CategoryList

variable {input that topic : Text} {categories others : CategoryList} {c d : Category}
  {selection : Selection}

/-- The category is the first one of the least rank among those that match. -/
structure IsLeading (input that topic : Text) (categories : CategoryList) (c : Category) :
    Prop where
  isMatch : c.isMatch input that topic = true
  first : ∃ before after, categories = before ++ c :: after ∧
    (∀ b ∈ before, b.isMatch input that topic = true → c.rank < b.rank) ∧
    ∀ a ∈ after, a.isMatch input that topic = true → c.rank ≤ a.rank

def ofRank (input that topic : Text) (categories : CategoryList)
    (r : PatternRank ×ₗ PatternRank ×ₗ PatternRank) : CategoryList :=
  categories.filter fun d => d.isMatch input that topic && decide (d.rank = r)

/-- The categories that match and have no greater rank than `c`. -/
def rivals (input that topic : Text) (categories : CategoryList) (c : Category) : CategoryList :=
  categories.filter fun d => d.isMatch input that topic && decide (d.rank ≤ c.rank)

theorem mem_ofRank {r : PatternRank ×ₗ PatternRank ×ₗ PatternRank} :
    d ∈ ofRank input that topic categories r ↔
      d ∈ categories ∧ d.isMatch input that topic = true ∧ d.rank = r := by
  simp [ofRank]

theorem mem_rivals :
    d ∈ rivals input that topic categories c ↔
      d ∈ categories ∧ d.isMatch input that topic = true ∧ d.rank ≤ c.rank := by
  simp [rivals]

namespace IsLeading

theorem mem (h : IsLeading input that topic categories c) : c ∈ categories := by
  obtain ⟨before, after, rfl, -, -⟩ := h.first
  exact List.mem_append_right before List.mem_cons_self

theorem rank_le (h : IsLeading input that topic categories c) (hd : d ∈ categories)
    (hmatch : d.isMatch input that topic = true) : c.rank ≤ d.rank := by
  obtain ⟨before, after, rfl, hbefore, hafter⟩ := h.first
  rcases List.mem_append.1 hd with hd | hd
  · exact (hbefore d hd hmatch).le
  · rcases List.mem_cons.1 hd with rfl | hd
    · exact le_refl d.rank
    · exact hafter d hd hmatch

/-- The categories before it do not match or have a greater rank, so it is the first of those that
match and do not. -/
theorem head?_rivals (h : IsLeading input that topic categories c) :
    (rivals input that topic categories c).head? = some c := by
  obtain ⟨before, after, rfl, hbefore, -⟩ := h.first
  rw [rivals, List.head?_filter]
  refine List.find?_eq_some_iff_append.2 ⟨by simp [h.isMatch], before, after, rfl, ?_⟩
  intro b hb
  by_cases hmatch : b.isMatch input that topic = true
  · simpa [hmatch] using hbefore b hb hmatch
  · simp [hmatch]

/-- No other category leads. -/
theorem unique (hc : IsLeading input that topic categories c)
    (hd : IsLeading input that topic categories d) : c = d := by
  have hrank : c.rank = d.rank :=
    le_antisymm (hc.rank_le hd.mem hd.isMatch) (hd.rank_le hc.mem hc.isMatch)
  have hhead := hc.head?_rivals
  rw [rivals, hrank, ← rivals, hd.head?_rivals] at hhead
  exact (Option.some.inj hhead).symm

/-- A category behind the others leads in its place if it matches and has a smaller rank. -/
theorem concat_of_lt {seen : CategoryList} (hd : d.isMatch input that topic = true)
    (hlt : ∀ b ∈ seen, b.isMatch input that topic = true → d.rank < b.rank) :
    IsLeading input that topic (seen ++ [d]) d :=
  ⟨hd, seen, [], rfl, hlt, nofun⟩

/-- A category behind the others changes nothing if it does not match or has no smaller rank. -/
theorem concat (h : IsLeading input that topic categories c)
    (hd : d.isMatch input that topic = true → c.rank ≤ d.rank) :
    IsLeading input that topic (categories ++ [d]) c := by
  obtain ⟨before, after, rfl, hbefore, hafter⟩ := h.first
  refine ⟨h.isMatch, before, after ++ [d], by simp, hbefore, fun a ha hmatch => ?_⟩
  rcases List.mem_append.1 ha with ha | ha
  · exact hafter a ha hmatch
  · obtain rfl := List.mem_singleton.1 ha
    exact hd hmatch

end IsLeading

/-- What the scan keeps of the categories seen so far. -/
def Chosen (input that topic : Text) (seen : CategoryList) : Option (Category × Stars) → Prop
  | none => ∀ c ∈ seen, c.isMatch input that topic = false
  | some (c, stars) => IsLeading input that topic seen c ∧ c.match? input that topic = some stars

/-- **One more category** takes the place of the best one so far if it matches and has a smaller
rank. -/
theorem chosen_concat {seen : CategoryList} {best : Option (Category × Stars)}
    (h : Chosen input that topic seen best) (c : Category) :
    Chosen input that topic (seen ++ [c]) (improve input that topic best c) := by
  cases best with
  | none =>
    have hseen : ∀ b ∈ seen, b.isMatch input that topic = false := h
    dsimp only [improve]
    cases hc : c.match? input that topic with
    | none =>
      intro b hb
      rcases List.mem_append.1 hb with hb | hb
      · exact hseen b hb
      · obtain rfl := List.mem_singleton.1 hb
        exact Category.isMatch_of_none hc
    | some stars =>
      refine ⟨.concat_of_lt (Category.isMatch_of_some hc) fun b hb hb' => ?_, hc⟩
      rw [hseen b hb] at hb'
      cases hb'
  | some best =>
    obtain ⟨current, stars⟩ := best
    obtain ⟨hlead, hcurrent⟩ := h
    dsimp only [improve]
    split
    · next hlt =>
      rw [Category.compareSpecificity_eq_lt_iff] at hlt
      cases hc : c.match? input that topic with
      | none =>
        refine ⟨hlead.concat fun hmatch => ?_, hcurrent⟩
        rw [Category.isMatch_of_none hc] at hmatch
        cases hmatch
      | some stars' =>
        have hmatch := Category.isMatch_of_some hc
        exact ⟨.concat_of_lt hmatch fun b hb hb' => hlt.trans_le (hlead.rank_le hb hb'), hc⟩
    · next hnot =>
      rw [Category.compareSpecificity_eq_lt_iff, not_lt] at hnot
      exact ⟨hlead.concat fun _ => hnot, hcurrent⟩

/-- What the scan keeps at its end. -/
theorem chosen_foldl (categories : CategoryList) :
    Chosen input that topic categories (categories.foldl (improve input that topic) none) := by
  induction categories using List.reverseRecOn with
  | nil => exact fun c hc => absurd hc List.not_mem_nil
  | append_singleton seen c ih =>
    rw [List.foldl_append]
    exact chosen_concat ih c

/-! ## What is selected -/

theorem select?_eq_none_iff :
    categories.select? input that topic = none ↔
      ∀ c ∈ categories, c.isMatch input that topic = false := by
  have hchosen := @chosen_foldl input that topic categories
  rw [select?, Option.map_eq_none_iff]
  cases hbest : categories.foldl (improve input that topic) none with
  | none =>
    rw [hbest] at hchosen
    exact iff_of_true rfl hchosen
  | some best =>
    rw [hbest] at hchosen
    refine iff_of_false nofun fun hnone => ?_
    have hmatch := hchosen.1.isMatch
    rw [hnone best.1 hchosen.1.mem] at hmatch
    cases hmatch

/-- **The category that leads is selected.** -/
theorem select?_eq_some_iff :
    categories.select? input that topic = some selection ↔
      ∃ c, IsLeading input that topic categories c ∧ c.Gives input that topic selection := by
  have hchosen := @chosen_foldl input that topic categories
  rw [select?, Option.map_eq_some_iff]
  constructor
  · rintro ⟨⟨c, stars⟩, hbest, rfl⟩
    rw [hbest] at hchosen
    exact ⟨c, hchosen.1, Category.gives_iff.2 ⟨rfl, hchosen.2⟩⟩
  · rintro ⟨c, hlead, hgives⟩
    obtain ⟨htemplate, hstars⟩ := Category.gives_iff.1 hgives
    cases hbest : categories.foldl (improve input that topic) none with
    | none =>
      rw [hbest] at hchosen
      have hmatch := hlead.isMatch
      rw [hchosen c hlead.mem] at hmatch
      cases hmatch
    | some best =>
      obtain ⟨d, stars⟩ := best
      rw [hbest] at hchosen
      obtain rfl := hlead.unique hchosen.1
      obtain rfl := Option.some.inj (hstars.symm.trans hchosen.2)
      have hselection : (⟨c.template, selection.stars⟩ : Selection) = selection := by
        rw [← htemplate]
      exact ⟨_, rfl, hselection⟩

/-! ## Other categories -/

/-- A category leads wherever its rivals are the same, in the same order. -/
theorem IsLeading.of_rivals_eq (h : IsLeading input that topic categories c)
    (hsame : rivals input that topic others c = rivals input that topic categories c) :
    IsLeading input that topic others c := by
  have hhead := h.head?_rivals
  rw [← hsame, rivals, List.head?_filter] at hhead
  obtain ⟨-, before, after, rfl, hbefore⟩ := List.find?_eq_some_iff_append.1 hhead
  refine ⟨h.isMatch, before, after, rfl, fun b hb hmatch => ?_, fun a ha hmatch => ?_⟩
  · simpa [hmatch] using hbefore b hb
  · by_contra hlt
    have hrival : a ∈ rivals input that topic (before ++ c :: after) c :=
      mem_rivals.2 ⟨by simp [ha], hmatch, (not_le.1 hlt).le⟩
    rw [hsame, mem_rivals] at hrival
    exact hlt (h.rank_le hrival.1 hmatch)

/-- What is selected depends on the leading category only. -/
theorem select?_congr
    (hlead : ∀ c, IsLeading input that topic categories c → IsLeading input that topic others c)
    (hnone : (∀ c ∈ categories, c.isMatch input that topic = false) →
      ∀ c ∈ others, c.isMatch input that topic = false) :
    others.select? input that topic = categories.select? input that topic := by
  cases h : categories.select? input that topic with
  | none => exact select?_eq_none_iff.2 (hnone (select?_eq_none_iff.1 h))
  | some selection =>
    obtain ⟨c, hc, hgives⟩ := select?_eq_some_iff.1 h
    exact select?_eq_some_iff.2 ⟨c, hlead c hc, hgives⟩

/-- Whatever does not match, or matches with a greater rank than the leading category, may be left
out or put in. -/
theorem select?_eq_of_filter_eq {keep : Category → Bool}
    (hkeep : ∀ d, keep d = false → d.isMatch input that topic = false ∨
      ∃ c, IsLeading input that topic categories c ∧ c.rank < d.rank)
    (hsame : others.filter keep = categories.filter keep) :
    others.select? input that topic = categories.select? input that topic := by
  apply select?_congr
  · intro c hc
    have hrivals : ∀ xs : CategoryList, rivals input that topic xs c =
        rivals input that topic (xs.filter keep) c := by
      intro xs
      rw [rivals, rivals, List.filter_filter]
      refine List.filter_congr fun d _ => ?_
      cases hd : keep d with
      | true => rw [Bool.and_true]
      | false =>
        rcases hkeep d hd with hmatch | ⟨c', hc', hlt⟩
        · rw [hmatch, Bool.false_and, Bool.false_and]
        · obtain rfl := hc.unique hc'
          rw [decide_eq_false (not_le.2 hlt), Bool.and_false, Bool.false_and]
    apply hc.of_rivals_eq
    rw [hrivals others, hsame, ← hrivals]
  · intro hnone d hd
    cases hkept : keep d with
    | true =>
      have hmem : d ∈ categories.filter keep := hsame ▸ List.mem_filter.2 ⟨hd, hkept⟩
      exact hnone d (List.mem_filter.1 hmem).1
    | false =>
      rcases hkeep d hkept with hmatch | ⟨c, hc, -⟩
      · exact hmatch
      · have hmatch := hc.isMatch
        rw [hnone c hc.mem] at hmatch
        cases hmatch

/-- Categories may change places with those that match with another rank. -/
theorem select?_eq_of_ofRank_eq
    (hsame : ∀ r, ofRank input that topic others r = ofRank input that topic categories r) :
    others.select? input that topic = categories.select? input that topic := by
  have hmem : ∀ d ∈ others, d.isMatch input that topic = true → d ∈ categories := by
    intro d hd hmatch
    have hclass : d ∈ ofRank input that topic others d.rank := mem_ofRank.2 ⟨hd, hmatch, rfl⟩
    rw [hsame, mem_ofRank] at hclass
    exact hclass.1
  apply select?_congr
  · intro c hc
    -- where no rank is smaller, the rivals are those of the same rank
    have hrivals : ∀ xs : CategoryList,
        (∀ d ∈ xs, d.isMatch input that topic = true → d ∈ categories) →
        rivals input that topic xs c = ofRank input that topic xs c.rank := by
      intro xs hxs
      refine List.filter_congr fun d hd => ?_
      cases hmatch : d.isMatch input that topic with
      | false => rfl
      | true =>
        have hle := hc.rank_le (hxs d hd hmatch) hmatch
        have hiff : d.rank ≤ c.rank ↔ d.rank = c.rank := ⟨fun h => le_antisymm h hle, le_of_eq⟩
        simp only [hiff]
    apply hc.of_rivals_eq
    rw [hrivals others hmem, hrivals categories fun d hd _ => hd, hsame]
  · intro hnone d hd
    cases hmatch : d.isMatch input that topic with
    | false => rfl
    | true => exact (hmatch.symm.trans (hnone d (hmem d hd hmatch)))

/-- In another order a category of the same rank is selected. -/
theorem select?_rel_of_perm (hperm : others.Perm categories) :
    Option.Rel
      (fun x y => ∃ c ∈ categories, ∃ d ∈ categories, c.Gives input that topic x ∧
        d.Gives input that topic y ∧ c.rank = d.rank)
      (others.select? input that topic) (categories.select? input that topic) := by
  cases hx : others.select? input that topic with
  | none =>
    have hy : categories.select? input that topic = none := by
      rw [select?_eq_none_iff] at hx ⊢
      exact fun c hc => hx c (hperm.mem_iff.2 hc)
    rw [hy]
    exact .none
  | some x =>
    obtain ⟨c, hc, hgives⟩ := select?_eq_some_iff.1 hx
    have hmem : c ∈ categories := hperm.mem_iff.1 hc.mem
    cases hy : categories.select? input that topic with
    | none =>
      have hfalse := select?_eq_none_iff.1 hy c hmem
      rw [hc.isMatch] at hfalse
      cases hfalse
    | some y =>
      obtain ⟨d, hd, hgives'⟩ := select?_eq_some_iff.1 hy
      have hrank : c.rank = d.rank :=
        le_antisymm (hc.rank_le (hperm.mem_iff.2 hd.mem) hd.isMatch) (hd.rank_le hmem hc.isMatch)
      exact .some ⟨c, hmem, d, hd.mem, hgives, hgives', hrank⟩

/-- **Selection is optimal and stable.** Nothing is selected exactly where no category matches, and
otherwise the template and the stars are those of the first category of the least rank among those
that match. In another order a category of the same rank is selected, and the same one if the
matching categories of each rank keep their order. To leave out or to put in categories that do not
match, or match with a greater rank than the one selected, changes nothing. -/
theorem select?_first_of_least (categories : CategoryList) (input that topic : Text) :
    (categories.select? input that topic = none ↔
      ∀ c ∈ categories, c.isMatch input that topic = false) ∧
    (∀ selection, categories.select? input that topic = some selection ↔
      ∃ c, IsLeading input that topic categories c ∧ c.Gives input that topic selection) ∧
    (∀ others : CategoryList, others.Perm categories →
      Option.Rel
        (fun x y => ∃ c ∈ categories, ∃ d ∈ categories, c.Gives input that topic x ∧
          d.Gives input that topic y ∧ c.rank = d.rank)
        (others.select? input that topic) (categories.select? input that topic)) ∧
    (∀ others : CategoryList,
      (∀ r, ofRank input that topic others r = ofRank input that topic categories r) →
      others.select? input that topic = categories.select? input that topic) ∧
    ∀ (keep : Category → Bool) (others : CategoryList),
      (∀ d, keep d = false → d.isMatch input that topic = false ∨
        ∃ c, IsLeading input that topic categories c ∧ c.rank < d.rank) →
      others.filter keep = categories.filter keep →
      others.select? input that topic = categories.select? input that topic :=
  ⟨select?_eq_none_iff, fun _ => select?_eq_some_iff, fun _ => select?_rel_of_perm,
    fun _ => select?_eq_of_ofRank_eq, fun _ _ => select?_eq_of_filter_eq⟩

def replyTo (pattern : Pattern) (answer : Text) : Category :=
  ⟨pattern, [.wildcard .star], [.wildcard .star], [.text answer]⟩

/-- Two categories are equally specific, so the order decides between them; a less specific one and
one that does not match may be left out. -/
theorem select?_first_of_least_hello :
    let any := replyTo [.wildcard .star] "What?".toList
    let first := replyTo [.word "HELLO".toList, .wildcard .star] "Hi.".toList
    let second := replyTo [.word "HELLO".toList, .wildcard .underscore] "Hey.".toList
    let bye := replyTo [.word "BYE".toList] "Bye.".toList
    let categories : CategoryList := [any, first, second, bye]
    let select (categories : CategoryList) := categories.select? "HELLO BOB".toList ['*'] ['*']
    select categories =
        some ⟨first.template, ⟨["BOB".toList], ["*".toList], ["*".toList]⟩⟩ ∧
      ([second, bye, first, any].Perm categories ∧
        Option.Rel (fun x y => ∃ c ∈ categories, ∃ d ∈ categories,
            c.Gives "HELLO BOB".toList ['*'] ['*'] x ∧ d.Gives "HELLO BOB".toList ['*'] ['*'] y ∧
              c.rank = d.rank)
          (select [second, bye, first, any]) (select categories)) ∧
      select [first, any, second] = select categories ∧
      select [bye, bye, first, second] = select categories := by
  intro any first second bye categories select
  obtain ⟨-, hsome, hperm, hranks, hkeep⟩ :=
    select?_first_of_least categories "HELLO BOB".toList ['*'] ['*']
  have hlead : IsLeading "HELLO BOB".toList ['*'] ['*'] categories first :=
    ⟨by decide, [any], [second, bye], rfl, by decide, by decide⟩
  have hother : [second, bye, first, any].Perm categories :=
    (@List.perm_append_comm _ [second, bye] [first, any]).trans (.swap any first _)
  have hmoved : ∀ r, ofRank "HELLO BOB".toList ['*'] ['*'] [first, any, second] r =
      ofRank "HELLO BOB".toList ['*'] ['*'] categories r := by
    intro r
    by_cases hfirst : first.rank = r
    · subst hfirst
      rfl
    · by_cases hany : any.rank = r
      · subst hany
        rfl
      · have hsecond : second.rank ≠ r := hfirst
        have hbye : bye.isMatch "HELLO BOB".toList ['*'] ['*'] = false := by decide
        simp only [ofRank, categories, List.filter_cons, hbye, hfirst, hany, hsecond,
          decide_false, Bool.and_false, Bool.false_and, Bool.false_eq_true, if_false]
  have hdropped : ∀ d : Category, (d.isMatch "HELLO BOB".toList ['*'] ['*'] &&
      decide (d.rank ≤ first.rank)) = false → d.isMatch "HELLO BOB".toList ['*'] ['*'] = false ∨
        ∃ c, IsLeading "HELLO BOB".toList ['*'] ['*'] categories c ∧ c.rank < d.rank := by
    intro d hd
    rcases Bool.and_eq_false_iff.1 hd with hmatch | hrank
    · exact .inl hmatch
    · exact .inr ⟨first, hlead, not_le.1 (of_decide_eq_false hrank)⟩
  exact ⟨(hsome _).2 ⟨first, hlead, rfl, by decide, by decide, by decide⟩,
    ⟨hother, hperm _ hother⟩, hranks _ hmoved, hkeep _ [bye, bye, first, second] hdropped rfl⟩

end CategoryList

end Dialogue
