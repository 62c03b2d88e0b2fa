import Dialogue.Proofs.Text.Normal
import Dialogue.Proofs.Text.Occurrence
import Dialogue.Text.Pronoun

/-!
# Shifting pronouns word by word

A pronoun table works on one padded text in which a rule is searched for like any other text. It
comes to the same as working on a list of words (`shiftPronouns_eq`): a rule claims words that
stand side by side and that no rule has claimed before, so a word is rewritten at most once, and
what a rule puts in is not seen by the rules behind it. For this no rule may look for the guard
character, with which the padded text sets apart what was put in.
-/

namespace Dialogue.Text

open Unicode

/-! ## The reference -/

/-- A part of a text at which a table is at work: a word that no rule has claimed, or what a rule
has put in the place of the words that it claimed. -/
inductive Item where
  | word (text : Text)
  | claimed (replacement : Text)
deriving DecidableEq, Repr

def Item.text : Item → Text
  | .word t => t
  | .claimed t => t

/-- Claims the given items from the left, wherever they stand side by side. -/
def claim (find : List Item) (replacement : Text) : List Item → List Item
  | [] => []
  | item :: rest =>
    if find.isPrefixOf (item :: rest) then
      .claimed replacement :: claim find replacement (rest.drop (find.length - 1))
    else item :: claim find replacement rest
termination_by items => items.length
decreasing_by
  · simp only [List.length_drop, List.length_cons]
    omega
  · exact Nat.lt_succ_self _

/-- One rule at work on items: it claims words that no rule has claimed. A rule without a word to
find does nothing. -/
def claimRule (items : List Item) (rule : Text × Text) : List Item :=
  let find := words (upper rule.1)
  if find.isEmpty then items else claim (find.map .word) (trim rule.2) items

def unguard (c : Char) : Char := if c = guardChar then ' ' else c

/-- The text with its pronouns shifted by a table, word by word. -/
def shiftWords (table : SubstitutionTable) (t : Text) : Text :=
  match words t with
  | [] => []
  | ws =>
    let items := table.foldl claimRule (ws.map fun w => .word (upper w))
    prettify (lower ((join [' '] (items.map Item.text)).map unguard))

/-! ## Padding -/

def Item.padded : Item → Text
  | .word t => ' ' :: t ++ [' ']
  | .claimed t => [guardChar] ++ t.map (fun c => if c = ' ' then guardChar else c) ++ [guardChar]

def padItems (items : List Item) : Text := items.flatMap Item.padded

def Item.IsProper : Item → Prop
  | .word t => t ≠ [] ∧ ' ' ∉ t
  | .claimed _ => True

theorem padItems_cons (item : Item) (items : List Item) :
    padItems (item :: items) = item.padded ++ padItems items := rfl

theorem padItems_append (xs ys : List Item) : padItems (xs ++ ys) = padItems xs ++ padItems ys :=
  List.flatMap_append

theorem padWords_eq {ws : List Text} (h : ws ≠ []) : padWords ws = padItems (ws.map .word) := by
  induction ws with
  | nil => exact absurd rfl h
  | cons w ws ih =>
    by_cases hws : ws = []
    · subst hws
      simp [padWords, padItems, Item.padded, join]
    · have hrest := ih hws
      rw [padWords] at hrest
      rw [padWords, join_cons hws, List.map_cons, padItems_cons, ← hrest]
      simp [Item.padded]

theorem space_ne_guardChar : ' ' ≠ guardChar := by decide

theorem space_not_mem_claimed (t : Text) : ' ' ∉ (Item.claimed t).padded := by
  intro h
  simp only [Item.padded, List.mem_append, List.mem_singleton, List.mem_map] at h
  rcases h with (h | ⟨c, -, hc⟩) | h
  · exact space_ne_guardChar h
  · split at hc
    · exact space_ne_guardChar hc.symm
    · contradiction
  · exact space_ne_guardChar h

/-- Texts that end where the same character first follows are equal. -/
theorem eq_of_append_cons_prefix {a : Char} {s t x y : Text} (hs : a ∉ s) (ht : a ∉ t)
    (h : s ++ a :: x <+: t ++ a :: y) : s = t ∧ x <+: y := by
  induction s generalizing t with
  | nil =>
    cases t with
    | nil => exact ⟨rfl, (List.cons_prefix_cons.1 h).2⟩
    | cons d t =>
      obtain ⟨rfl, -⟩ := List.cons_prefix_cons.1 h
      exact absurd List.mem_cons_self ht
  | cons c s ih =>
    obtain ⟨hc, hs⟩ := not_or.1 (mt List.mem_cons.2 hs)
    cases t with
    | nil =>
      obtain ⟨rfl, -⟩ := List.cons_prefix_cons.1 h
      exact absurd rfl hc
    | cons d t =>
      obtain ⟨rfl, hrest⟩ := List.cons_prefix_cons.1 h
      obtain ⟨rfl, hxy⟩ := ih hs (mt (List.mem_cons_of_mem c) ht) hrest
      exact ⟨rfl, hxy⟩

/-- Padded words begin a padded text only where the words do. -/
theorem begins_of_padItems {ws : List Text} {items : List Item} (hws : ∀ w ∈ ws, ' ' ∉ w)
    (hitems : ∀ item ∈ items, item.IsProper) (h : padItems (ws.map .word) <+: padItems items) :
    ws.map .word <+: items := by
  induction ws generalizing items with
  | nil => exact List.nil_prefix
  | cons w ws ih =>
    obtain ⟨hw, hws⟩ := List.forall_mem_cons.1 hws
    rw [List.map_cons, padItems_cons] at h
    cases items with
    | nil => cases List.prefix_nil.1 h
    | cons item items =>
      obtain ⟨hitem, hbehind⟩ := List.forall_mem_cons.1 hitems
      rw [padItems_cons] at h
      cases item with
      | claimed t => exact absurd (List.cons_prefix_cons.1 h).1 space_ne_guardChar
      | word t =>
        have hrest : w ++ ' ' :: padItems (ws.map .word) <+: t ++ ' ' :: padItems items := by
          simpa [Item.padded] using h
        obtain ⟨rfl, hprefix⟩ := eq_of_append_cons_prefix hw hitem.2 hrest
        exact List.cons_prefix_cons.2 ⟨rfl, ih hws hbehind hprefix⟩

/-- Padded words do not begin inside an item. -/
theorem not_prefix_of_suffix {ws : List Text} {item : Item} {items : List Item}
    (hne : ws ≠ []) (hws : ∀ w ∈ ws, w ≠ [] ∧ ' ' ∉ w ∧ guardChar ∉ w)
    (hitems : ∀ i ∈ item :: items, i.IsProper) (hnot : ¬ ws.map Item.word <+: item :: items)
    {c : Char} {tail : Text} (hsuffix : c :: tail <:+ item.padded) :
    ¬ padItems (ws.map .word) <+: c :: tail ++ padItems items := by
  intro h
  obtain ⟨w, ws', rfl⟩ := List.exists_cons_of_ne_nil hne
  obtain ⟨hwne, hwspace, hwguard⟩ := hws w List.mem_cons_self
  -- what is found begins with a space, so the item is a word, and this is one of its two spaces
  obtain ⟨rfl, hrest⟩ := List.cons_prefix_cons.1 h
  cases item with
  | claimed t => exact space_not_mem_claimed t (hsuffix.subset List.mem_cons_self)
  | word t =>
    obtain ⟨before, hbefore⟩ := hsuffix
    cases before with
    | nil =>
      rw [List.nil_append] at hbefore
      rw [hbefore, ← padItems_cons] at h
      exact hnot (begins_of_padItems (fun w hw => (hws w hw).2.1) hitems h)
    | cons d before =>
      have ht : before ++ ' ' :: tail = t ++ [' '] := (List.cons.inj hbefore).2
      have htail : tail = [] := by
        by_contra htail
        have hlast : before ++ ' ' :: tail.dropLast = t := by
          have := congrArg List.dropLast ht
          rwa [List.dropLast_append_of_ne_nil (List.cons_ne_nil _ _), List.dropLast_cons_of_ne_nil
            htail, List.dropLast_concat] at this
        apply (hitems _ List.mem_cons_self).2
        rw [← hlast]
        exact List.mem_append_right _ List.mem_cons_self
      subst htail
      -- behind the second space of the word comes another item or nothing, and no word begins so
      obtain ⟨a, w, rfl⟩ := List.exists_cons_of_ne_nil hwne
      cases items with
      | nil => cases List.prefix_nil.1 hrest
      | cons next items =>
        cases next with
        | word u =>
          obtain ⟨rfl, -⟩ := List.cons_prefix_cons.1 hrest
          exact hwspace List.mem_cons_self
        | claimed u =>
          obtain ⟨rfl, -⟩ := List.cons_prefix_cons.1 hrest
          exact hwguard List.mem_cons_self

/-! ## One rule -/

theorem mem_claim {find : List Item} {replacement : Text} {item : Item} {items : List Item}
    (h : item ∈ claim find replacement items) : item = .claimed replacement ∨ item ∈ items := by
  induction items using claim.induct find with
  | case1 => rw [claim] at h; cases h
  | case2 first rest hbegins ih =>
    rw [claim, if_pos hbegins] at h
    rcases List.mem_cons.1 h with rfl | h
    · exact .inl rfl
    · exact (ih h).imp_right fun h => List.mem_cons_of_mem _ (List.mem_of_mem_drop h)
  | case3 first rest hbegins ih =>
    rw [claim, if_neg hbegins] at h
    rcases List.mem_cons.1 h with rfl | h
    · exact .inr List.mem_cons_self
    · exact (ih h).imp_right (List.mem_cons_of_mem _)

/-- **To replace padded words in a padded text is to claim the words among its items.** -/
theorem replaced_claim {ws : List Text} (hne : ws ≠ [])
    (hws : ∀ w ∈ ws, w ≠ [] ∧ ' ' ∉ w ∧ guardChar ∉ w) (replacement : Text)
    {items : List Item} (hitems : ∀ item ∈ items, item.IsProper) :
    Replaced (padItems (ws.map .word)) (Item.claimed replacement).padded (padItems items)
      (padItems (claim (ws.map .word) replacement items)) := by
  induction items using claim.induct (ws.map .word) with
  | case1 => rw [claim]; exact .nil
  | case2 first rest hbegins ih =>
    obtain ⟨behind, hbehind⟩ := List.isPrefixOf_iff_prefix.1 hbegins
    have hdrop : rest.drop ((ws.map Item.word).length - 1) = behind := by
      obtain ⟨w, ws, rfl⟩ := List.exists_cons_of_ne_nil hne
      have hrest : ws.map .word ++ behind = rest := (List.cons.inj hbehind).2
      rw [← hrest, List.map_cons, List.length_cons, Nat.add_sub_cancel]
      exact List.drop_left
    have hscan := ih fun item h => hitems item (List.mem_cons_of_mem _ (List.mem_of_mem_drop h))
    rw [hdrop] at hscan
    rw [claim, if_pos hbegins, hdrop, ← hbehind, padItems_append]
    exact .hit hscan
  | case3 first rest hbegins ih =>
    have hscan := ih fun item h => hitems item (List.mem_cons_of_mem _ h)
    rw [claim, if_neg hbegins, padItems_cons, padItems_cons]
    refine hscan.skips fun c tail hsuffix => ?_
    exact not_prefix_of_suffix hne hws hitems (mt List.isPrefixOf_iff_prefix.2 hbegins) hsuffix

theorem trim_padWords_eq_nil_iff (t : Text) : trim (padWords (words t)) = [] ↔ words t = [] := by
  constructor
  · intro h
    by_contra hne
    obtain ⟨w, ws, hw⟩ := List.exists_cons_of_ne_nil hne
    have hmem : w ∈ words t := hw ▸ List.mem_cons_self
    obtain ⟨hwne, hchars⟩ := mem_words hmem
    obtain ⟨c, rest, rfl⟩ := List.exists_cons_of_ne_nil hwne
    have hc : c ∈ padWords (words t) := by
      rw [padWords_eq hne]
      refine List.mem_flatMap.2 ⟨.word (c :: rest), List.mem_map_of_mem hmem, ?_⟩
      simp [Item.padded]
    have hspace := trim_eq_nil_iff.1 h c hc
    rw [(hchars c List.mem_cons_self).2] at hspace
    cases hspace
  · intro h
    rw [h]
    decide

theorem shiftRule_padItems {items : List Item} (hitems : ∀ item ∈ items, item.IsProper)
    {rule : Text × Text} (hrule : guardChar ∉ rule.1) :
    shiftRule (padItems items) rule = padItems (claimRule items rule) := by
  have hwords : ∀ w ∈ words (upper rule.1), w ≠ [] ∧ ' ' ∉ w ∧ guardChar ∉ w := by
    intro w hw
    obtain ⟨hne, hchars⟩ := mem_words hw
    refine ⟨hne, fun hspace => ?_, fun hguard => ?_⟩
    · exact absurd (hchars _ hspace).2 (by decide)
    · obtain ⟨c, hc, hmem⟩ := List.mem_flatMap.1 (hchars _ hguard).1
      obtain rfl := eq_of_mem_upperChar (by decide) (by decide) hmem
      exact hrule hc
  rw [shiftRule, claimRule]
  by_cases hfind : words (upper rule.1) = []
  · rw [if_pos (List.isEmpty_iff.2 ((trim_padWords_eq_nil_iff _).2 hfind)),
      if_pos (List.isEmpty_iff.2 hfind)]
  · have hpad : padItems ((words (upper rule.1)).map .word) ≠ [] := by
      obtain ⟨w, ws, hcons⟩ := List.exists_cons_of_ne_nil hfind
      rw [hcons]
      exact List.cons_ne_nil _ _
    have hscan := (replaced_claim hfind hwords (trim rule.2) hitems).eq_replaceAll hpad
    rw [if_neg (mt List.isEmpty_iff.1 (mt (trim_padWords_eq_nil_iff _).1 hfind)),
      if_neg (mt List.isEmpty_iff.1 hfind), hscan, padWords_eq hfind]
    rfl

theorem isProper_claimRule {items : List Item} (hitems : ∀ item ∈ items, item.IsProper)
    (rule : Text × Text) : ∀ item ∈ claimRule items rule, item.IsProper := by
  intro item h
  rw [claimRule] at h
  split at h
  · exact hitems item h
  · rcases mem_claim h with rfl | h
    · trivial
    · exact hitems item h

/-! ## The table -/

theorem foldl_shiftRule {table : SubstitutionTable} (htable : ∀ rule ∈ table, guardChar ∉ rule.1)
    {items : List Item} (hitems : ∀ item ∈ items, item.IsProper) :
    table.foldl shiftRule (padItems items) = padItems (table.foldl claimRule items) := by
  induction table generalizing items with
  | nil => rfl
  | cons rule table ih =>
    obtain ⟨hrule, htable⟩ := List.forall_mem_cons.1 htable
    rw [List.foldl_cons, List.foldl_cons, shiftRule_padItems hitems hrule]
    exact ih htable (isProper_claimRule hitems rule)

/-! ## The finish -/

/-- No letter behind a space is seen from before it. -/
theorem startsCased_append_space (s t : Text) : startsCased (s ++ ' ' :: t) = startsCased s := by
  induction s with
  | nil =>
    have hignorable : ¬ isCaseIgnorable ' ' = true := by decide +kernel
    have hcased : isCased ' ' = false := by decide +kernel
    rw [List.nil_append, startsCased, List.dropWhile_cons_of_neg hignorable]
    exact hcased
  | cons c s ih =>
    rw [startsCased] at ih
    rw [List.cons_append, startsCased, startsCased]
    by_cases h : isCaseIgnorable c = true
    · rw [List.dropWhile_cons_of_pos h, List.dropWhile_cons_of_pos h, ih]
      rfl
    · rw [List.dropWhile_cons_of_neg h, List.dropWhile_cons_of_neg h]

theorem lowerAfter_append_space (before earlier t : Text) :
    lowerAfter (before ++ ' ' :: earlier) t = lowerAfter before t := by
  induction t generalizing before with
  | nil => rfl
  | cons c t ih =>
    rw [lowerAfter, lowerAfter, startsCased_append_space, ← List.cons_append, ih]

/-- The texts on the two sides of a space are lowercased each on its own. -/
theorem lower_append_space (s t : Text) : lower (s ++ ' ' :: t) = lower s ++ ' ' :: lower t := by
  have hafter : ∀ before, lowerAfter before (s ++ ' ' :: t) =
      lowerAfter before s ++ ' ' :: lower t := by
    induction s with
    | nil =>
      intro before
      have hspace : lowerChar ' ' = [' '] := by decide +kernel
      have hsigma : ' ' ≠ 'Σ' := by decide
      have hrest := lowerAfter_append_space [] before t
      rw [List.nil_append] at hrest
      rw [List.nil_append, lowerAfter, lowerAfter, if_neg hsigma, hspace, hrest]
      rfl
    | cons c s ih =>
      intro before
      rw [List.cons_append, lowerAfter, lowerAfter, startsCased_append_space, ih,
        List.append_assoc]
  exact hafter []

theorem words_lower_append_space (s t : Text) :
    words (lower (s ++ ' ' :: t)) = words (lower s) ++ words (lower t) := by
  rw [lower_append_space, words_append_cons (by decide)]

theorem Item.map_unguard_padded (item : Item) :
    item.padded.map unguard = ' ' :: (item.text.map unguard ++ [' ']) := by
  cases item with
  | word t => simp [Item.padded, Item.text, unguard]
  | claimed t =>
    have hguarded : ∀ c, unguard (if c = ' ' then guardChar else c) = unguard c := by
      intro c
      split
      · subst c
        decide
      · rfl
    have hmap : (t.map fun c => if c = ' ' then guardChar else c).map unguard = t.map unguard := by
      rw [List.map_map]
      exact List.map_congr_left fun c _ => hguarded c
    rw [Item.padded, List.map_append, List.map_append, hmap]
    rfl

def finalWords (items : List Item) : List Text :=
  items.flatMap fun item => words (lower (item.text.map unguard))

theorem words_lower_padItems (items : List Item) :
    words (lower ((padItems items).map unguard)) = finalWords items := by
  induction items with
  | nil => rfl
  | cons item items ih =>
    have hpadded : (padItems (item :: items)).map unguard =
        [] ++ ' ' :: (item.text.map unguard ++ ' ' :: (padItems items).map unguard) := by
      rw [padItems_cons, List.map_append, item.map_unguard_padded]
      simp
    rw [hpadded, words_lower_append_space, words_lower_append_space, ih]
    rfl

theorem words_lower_join (items : List Item) :
    words (lower ((join [' '] (items.map Item.text)).map unguard)) = finalWords items := by
  induction items with
  | nil => rfl
  | cons item items ih =>
    by_cases hitems : items = []
    · subst hitems
      simp [finalWords, join]
    · have hjoin : (join [' '] ((item :: items).map Item.text)).map unguard =
          item.text.map unguard ++ ' ' :: (join [' '] (items.map Item.text)).map unguard := by
        rw [List.map_cons, join_cons (mt List.map_eq_nil_iff.1 hitems)]
        simp [unguard]
      rw [hjoin, words_lower_append_space, ih]
      rfl

/-- **A table shifts pronouns word by word.** If no rule looks for the guard character, the padded
text comes to what its words come to when every rule claims them from the left. -/
theorem shiftPronouns_eq {table : SubstitutionTable} (htable : ∀ rule ∈ table, guardChar ∉ rule.1)
    (t : Text) : shiftPronouns table t = shiftWords table t := by
  rw [shiftPronouns, shiftWords]
  cases hwords : words t with
  | nil => rfl
  | cons w ws =>
    have hitems : ∀ item ∈ (words t).map fun w => Item.word (upper w), item.IsProper := by
      intro item h
      obtain ⟨w, hw, rfl⟩ := List.mem_map.1 h
      obtain ⟨hne, hchars⟩ := mem_words hw
      refine ⟨mt upper_eq_nil_iff.1 hne, fun hspace => ?_⟩
      obtain ⟨c, hc, hmem⟩ := List.mem_flatMap.1 hspace
      obtain rfl := eq_of_mem_upperChar (by decide) (by decide) hmem
      exact absurd (hchars _ hc).2 (by decide)
    have hpad : padWords ((words t).map upper) =
        padItems ((words t).map fun w => .word (upper w)) := by
      rw [padWords_eq (by simp [hwords]), List.map_map]
      rfl
    have hunguard : (fun c => if c = guardChar then ' ' else c) = unguard := rfl
    rw [hwords] at hitems hpad
    simp only
    rw [hpad, foldl_shiftRule htable hitems, replaceAll_singleton, hunguard, prettify, prettify,
      words_lower_padItems, words_lower_join]

/-- A word that a rule has put in is not looked at by the rules behind it. -/
theorem shiftPronouns_small_dog :
    (∀ rule ∈ tableOf [("CAT", "small dog"), ("DOG", "cat")], guardChar ∉ rule.1) ∧
      shiftPronouns (tableOf [("CAT", "small dog"), ("DOG", "cat")]) "Cat and dog".toList =
        shiftWords (tableOf [("CAT", "small dog"), ("DOG", "cat")]) "Cat and dog".toList ∧
      shiftWords (tableOf [("CAT", "small dog"), ("DOG", "cat")]) "Cat and dog".toList =
        "small dog and cat".toList := by
  have htable : ∀ rule ∈ tableOf [("CAT", "small dog"), ("DOG", "cat")], guardChar ∉ rule.1 := by
    decide
  have hshift := shiftPronouns_eq htable "Cat and dog".toList
  refine ⟨htable, hshift, ?_⟩
  rw [← hshift]
  decide +kernel

end Dialogue.Text
