import Dialogue.Settings.Json

/-!
# Settings are read as they were written

What is written of a record is read again, whatever the order of its fields, and a field that was
taken out is read as its default (`ofJson?_without`). Each field is read by the inverse of what
writes it; the defaults with which missing fields are read are those of settings of which nothing is
given.
-/

namespace Dialogue

/-- The value of a field, or its default if the name of the field is among the given ones. -/
def keptOr {α : Type} (default : α) (names : List Text) (name : Text) (value : α) : α :=
  if names.contains name then default else value

namespace Json

variable {α β : Type}

/-! ## Values -/

theorem mapM_eq_some {f : α → Option β} {g : α → β} {xs : List α} (h : ∀ x ∈ xs, f x = some (g x)) :
    xs.mapM f = some (xs.map g) := by
  induction xs with
  | nil => rfl
  | cons x xs ih =>
    obtain ⟨hx, hxs⟩ := List.forall_mem_cons.1 h
    rw [List.mapM_cons, hx, ih hxs]
    rfl

theorem word?_natural {n : Nat} (h : n < UInt64.size) : word? (.natural n) = some n := if_pos h

/-- A list is read as it was written if its elements are. -/
theorem list?_map {read? : Json → Option α} {write : α → Json} (h : ∀ x, read? (write x) = some x)
    (xs : List α) : list? read? (.array (xs.map write)) = some xs := by
  rw [list?, List.mapM_map]
  exact (mapM_eq_some fun x _ => h x).trans (congrArg some (List.map_id xs))

theorem orNull?_ofNat? {n? : Option Nat} (h : ∀ n ∈ n?, n < UInt64.size) :
    orNull? word? (ofNat? n?) = some n? := by
  cases n? with
  | none => rfl
  | some n =>
    show (word? (.natural n)).map some = _
    rw [word?_natural (h n rfl)]
    rfl

/-! ## Records -/

/-- The second value is the first one, an object, without the fields of the given names and with
the others in any order. -/
def Without (names : List Text) (whole part : Json) : Prop :=
  ∃ fields rest, whole = .record fields ∧ rest.Perm (fields.filter fun f => !names.contains f.1) ∧
    part = .record rest

def withField (j : Json) (name : Text) (value : Json) : Json :=
  match j with
  | .object fields => .object (fields.map fun f => if f.1 = some name then (f.1, value) else f)
  | j => j

theorem record_injective {fields others : List (Text × Json)} (h : record fields = record others) :
    fields = others := by
  refine (List.map_inj_right fun f g hfg => ?_).1 (Json.object.inj h)
  obtain ⟨hname, hvalue⟩ := Prod.mk.inj hfg
  exact Prod.ext (Option.some.inj hname) hvalue

theorem without_nil (fields : List (Text × Json)) :
    (record fields).Without [] (record fields) := by
  have hfilter : (fields.filter fun f => !([] : List Text).contains f.1) = fields :=
    List.filter_eq_self.2 fun _ _ => rfl
  exact ⟨fields, fields, rfl, hfilter.symm ▸ List.Perm.refl fields, rfl⟩

theorem withField_last {names : List Text} {values : List Json} {name : Text}
    (hlength : names.length = values.length) (hname : name ∉ names) (old new : Json) :
    (record ((names ++ [name]).zip (values ++ [old]))).withField name new =
      record ((names ++ [name]).zip (values ++ [new])) := by
  have hothers : ∀ f ∈ names.zip values, ((fun f : Option Text × Json =>
      if f.1 = some name then (f.1, new) else f) ∘ fun f => (some f.1, f.2)) f =
        (some f.1, f.2) := by
    intro f hf
    refine if_neg fun heq => hname ?_
    exact Option.some.inj heq ▸ (List.of_mem_zip hf).1
  rw [List.zip_append hlength, List.zip_append hlength]
  simp only [record, withField, List.map_append, List.map_map]
  rw [List.map_congr_left hothers]
  simp

theorem fieldValue?_of_mem {fields : List (Text × Json)} (hnodup : (fields.map Prod.fst).Nodup)
    {name : Text} {value : Json} (h : (name, value) ∈ fields) :
    fieldValue? fields name = some (some value) := by
  have hfilter : fields.filter (fun f => f.1 == name) = [(name, value)] := by
    induction fields with
    | nil => cases h
    | cons f fields ih =>
      obtain ⟨hnot, hnodup⟩ := List.nodup_cons.1 hnodup
      rcases List.mem_cons.1 h with rfl | h
      · have hnone : fields.filter (fun f => f.1 == name) = [] := by
          refine List.filter_eq_nil_iff.2 fun g hg heq => hnot ?_
          exact List.mem_map.2 ⟨g, hg, beq_iff_eq.1 heq⟩
        rw [List.filter_cons, if_pos (beq_self_eq_true name), hnone]
      · have hne : ¬ (f.1 == name) = true := by
          rw [beq_iff_eq]
          rintro rfl
          exact hnot (List.mem_map.2 ⟨_, h, rfl⟩)
        rw [List.filter_cons, if_neg hne, ih hnodup h]
  rw [fieldValue?, hfilter]

theorem fieldValue?_of_not_mem {fields : List (Text × Json)} {name : Text}
    (h : name ∉ fields.map Prod.fst) : fieldValue? fields name = some none := by
  have hfilter : fields.filter (fun f => f.1 == name) = [] :=
    List.filter_eq_nil_iff.2 fun f hf heq => h (List.mem_map.2 ⟨f, hf, beq_iff_eq.1 heq⟩)
  rw [fieldValue?, hfilter]

theorem record?_record (names : List Text) (fields : List (Text × Json)) :
    (record fields).record? names = names.mapM (fieldValue? fields) := by
  have hfields : (fields.map fun f => (some f.1, f.2)).mapM
      (fun f : Option Text × Json => f.1.map (·, f.2)) = some fields := by
    rw [List.mapM_map]
    exact (mapM_eq_some fun f _ => rfl).trans (congrArg some (List.map_id fields))
  show (List.mapM _ (fields.map fun f => (some f.1, f.2)) >>= _) = _
  rw [hfields]
  rfl

/-- Of a record without some of its fields the others are read, and these are missing. -/
theorem Without.record? {dropped names : List Text} {values : List Json} {j : Json}
    (h : (record (names.zip values)).Without dropped j) (hlength : names.length = values.length)
    (hnodup : names.Nodup) :
    j.record? names = some (List.zipWith
      (fun name value => if dropped.contains name then none else some value) names values) := by
  obtain ⟨fields, rest, hfields, hperm, rfl⟩ := h
  obtain rfl := record_injective hfields
  have hnames : (names.zip values).map Prod.fst = names := List.map_fst_zip (Nat.le_of_eq hlength)
  have hrest : (rest.map Prod.fst).Nodup := by
    have hsublist := (@List.filter_sublist _ (fun f => !dropped.contains f.1)
      (names.zip values)).map Prod.fst
    rw [hnames] at hsublist
    exact (hperm.map Prod.fst).nodup_iff.2 (hnodup.sublist hsublist)
  have hmem : ∀ f, f ∈ rest ↔ f ∈ names.zip values ∧ ¬ dropped.contains f.1 = true := by
    intro f
    rw [hperm.mem_iff, List.mem_filter, Bool.not_eq_true', Bool.not_eq_true]
  have hread : names.mapM (fieldValue? rest) =
      (names.zip values).mapM (fieldValue? rest ∘ Prod.fst) := by
    rw [← List.mapM_map, hnames]
  rw [record?_record, hread, ← List.map_uncurry_zip_eq_zipWith]
  refine mapM_eq_some fun f hf => ?_
  show fieldValue? rest f.1 = some (if dropped.contains f.1 then none else some f.2)
  by_cases hdropped : dropped.contains f.1 = true
  · rw [if_pos hdropped]
    refine fieldValue?_of_not_mem fun hname => ?_
    obtain ⟨g, hg, hgf⟩ := List.mem_map.1 hname
    exact ((hmem g).1 hg).2 (hgf ▸ hdropped)
  · rw [if_neg hdropped]
    exact fieldValue?_of_mem hrest ((hmem f).2 ⟨hf, hdropped⟩)

/-- A field is read as it was written, or as its default if it was taken out. -/
theorem fieldOr_dropped_bind {p : Prop} [Decidable p] {read? : Json → Option α} {j : Json} {x : α}
    (h : read? j = some x) (default : α) (next : α → Option β) :
    (fieldOr default read? (if p then none else some j) >>= next) =
      next (if p then default else x) := by
  split
  · rfl
  · show (read? j >>= next) = _
    rw [h]
    rfl

end Json

/-! ## Fields -/

theorem SubstitutionTable.ofJson?_toJson (t : SubstitutionTable) :
    SubstitutionTable.ofJson? t.toJson = some t := by
  have hpair : ∀ rule : Text × Text,
      Json.textPair? (.array [.ofText rule.1, .ofText rule.2]) = some rule := fun _ => rfl
  exact Json.list?_map hpair t

theorem orNull?_optionalTable (t? : Option SubstitutionTable) :
    Json.orNull? SubstitutionTable.ofJson? (optionalTable t?) = some t? := by
  cases t? with
  | none => rfl
  | some t =>
    show (SubstitutionTable.ofJson? t.toJson).map some = _
    rw [t.ofJson?_toJson]
    rfl

theorem textDictionary?_record {d : Dictionary Text Text} (h : d.keys.Nodup) :
    textDictionary? (.record (d.map fun entry => (entry.1, .ofText entry.2))) = some d := by
  have hentries : ((d.map fun entry => (entry.1, Json.ofText entry.2)).map
      fun f => (some f.1, f.2)).mapM (fun f : Option Text × Json => do
        return (← f.1, ← f.2.text?)) = some d := by
    rw [List.map_map, List.mapM_map]
    exact (Json.mapM_eq_some fun entry _ => rfl).trans (congrArg some (List.map_id d))
  have hset : d.foldl (fun d entry => Dictionary.set entry.1 entry.2 d) [] = d :=
    Dictionary.foldl_set h
  show (List.mapM _ _ >>= fun entries : List (Text × Text) => some _) = _
  rw [hentries]
  exact congrArg some hset

namespace Duration

theorem toMillis_ofMillis (n : Nat) : (ofMillis n).toMillis = n := by
  dsimp only [toMillis, ofMillis]
  omega

theorem ofJson?_toJson {n : Nat} (h : n < UInt64.size) :
    ofJson? (ofMillis n).toJson = some (ofMillis n) := by
  rw [toJson, toMillis_ofMillis, Nat.mod_eq_of_lt h, ofJson?, Json.word?_natural h]
  rfl

end Duration

/-! ## Substitutions -/

namespace Substitutions

def reset (names : List Text) (s : Substitutions) : Substitutions where
  input := keptOr ({} : Substitutions).input names "input".toList s.input
  person := keptOr ({} : Substitutions).person names "person".toList s.person
  person2 := keptOr ({} : Substitutions).person2 names "person2".toList s.person2
  gender := keptOr ({} : Substitutions).gender names "gender".toList s.gender

theorem ofJson?_without {s : Substitutions} {names : List Text} {j : Json}
    (h : s.toJson.Without names j) : ofJson? j = some (s.reset names) := by
  have hrecord := h.record? rfl (by decide)
  have hinput := s.input.ofJson?_toJson
  have hperson := orNull?_optionalTable s.person
  have hperson2 := orNull?_optionalTable s.person2
  have hgender := orNull?_optionalTable s.gender
  rw [ofJson?, hrecord]
  show (Json.fieldOr [] SubstitutionTable.ofJson? _ >>= _) = _
  rw [Json.fieldOr_dropped_bind hinput, Json.fieldOr_dropped_bind hperson,
    Json.fieldOr_dropped_bind hperson2, Json.fieldOr_dropped_bind hgender]
  rfl

end Substitutions

/-! ## Settings -/

namespace Settings

/-- The settings have values of the types of their fields: numbers of 64 bits, whole milliseconds,
and one value for each property. -/
structure Representable (s : Settings) : Prop where
  maxRecursionDepth : s.maxRecursionDepth < UInt64.size
  maxSteps : s.maxSteps < UInt64.size
  maxDuration : ∃ n, n < UInt64.size ∧ s.maxDuration = .ofMillis n
  botProperties : s.botProperties.keys.Nodup
  randomSeed : ∀ n ∈ s.randomSeed, n < UInt64.size
  maxHistory : s.maxHistory < UInt64.size

/-- The values of the fields but for the substitutions, which come last. -/
def values (s : Settings) : List Json :=
  [.natural s.maxRecursionDepth, .natural s.maxSteps, s.maxDuration.toJson,
   .ofText s.recursionFallback, .ofText s.fallbackResponse, .ofText s.defaultPredicateValue,
   .ofText s.defaultTopic, .array (s.sentenceSplitters.map .ofText),
   .record (s.botProperties.map fun entry => (entry.1, .ofText entry.2)),
   .bool s.supportDeprecatedTags, .ofNat? s.randomSeed, .ofText s.dateFormat,
   .ofText s.version, .natural s.maxHistory]

theorem toJson_eq (s : Settings) :
    s.toJson = .record (fieldNames.zip (s.values ++ [s.substitutions.toJson])) := rfl

theorem toJson_withField (s : Settings) (substitutions : Json) :
    s.toJson.withField "substitutions".toList substitutions =
      .record (fieldNames.zip (s.values ++ [substitutions])) := by
  have hnames : fieldNames = fieldNames.dropLast ++ ["substitutions".toList] := rfl
  rw [toJson_eq, hnames]
  exact Json.withField_last rfl (by decide) _ _

/-- The settings with the fields of the given names as if they were not given; `inner` are names of
fields of the substitutions. -/
def reset (names inner : List Text) (s : Settings) : Settings :=
  let standard : Settings := {}
  { maxRecursionDepth :=
      keptOr standard.maxRecursionDepth names "max_recursion_depth".toList s.maxRecursionDepth
    maxSteps := keptOr standard.maxSteps names "max_steps".toList s.maxSteps
    maxDuration := keptOr standard.maxDuration names "max_duration".toList s.maxDuration
    recursionFallback :=
      keptOr standard.recursionFallback names "recursion_fallback".toList s.recursionFallback
    fallbackResponse :=
      keptOr standard.fallbackResponse names "fallback_response".toList s.fallbackResponse
    defaultPredicateValue :=
      keptOr standard.defaultPredicateValue names "default_predicate_value".toList
        s.defaultPredicateValue
    defaultTopic := keptOr standard.defaultTopic names "default_topic".toList s.defaultTopic
    sentenceSplitters :=
      keptOr standard.sentenceSplitters names "sentence_splitters".toList s.sentenceSplitters
    botProperties := keptOr standard.botProperties names "bot_properties".toList s.botProperties
    supportDeprecatedTags :=
      keptOr standard.supportDeprecatedTags names "support_deprecated_tags".toList
        s.supportDeprecatedTags
    randomSeed := keptOr standard.randomSeed names "random_seed".toList s.randomSeed
    dateFormat := keptOr standard.dateFormat names "date_format".toList s.dateFormat
    version := keptOr standard.version names "version".toList s.version
    maxHistory := keptOr standard.maxHistory names "max_history".toList s.maxHistory
    substitutions :=
      keptOr standard.substitutions names "substitutions".toList (s.substitutions.reset inner) }

theorem ofJson?_without {s : Settings} (hs : s.Representable) {names inner : List Text}
    {substitutions j : Json}
    (hinner : s.substitutions.toJson.Without inner substitutions)
    (hj : (s.toJson.withField "substitutions".toList substitutions).Without names j) :
    ofJson? j = some (s.reset names inner) := by
  rw [toJson_withField] at hj
  have hrecord := hj.record? rfl (by decide)
  have hdepth := Json.word?_natural hs.maxRecursionDepth
  have hsteps := Json.word?_natural hs.maxSteps
  have hduration : Duration.ofJson? s.maxDuration.toJson = some s.maxDuration := by
    obtain ⟨n, hn, heq⟩ := hs.maxDuration
    rw [heq]
    exact Duration.ofJson?_toJson hn
  have htext : ∀ t, Json.text? (.ofText t) = some t := fun _ => rfl
  have hsplitters := Json.list?_map htext s.sentenceSplitters
  have hproperties := textDictionary?_record hs.botProperties
  have hbool : ∀ b, Json.bool? (.bool b) = some b := fun _ => rfl
  have hseed := Json.orNull?_ofNat? hs.randomSeed
  have hhistory := Json.word?_natural hs.maxHistory
  have hsubstitutions := Substitutions.ofJson?_without hinner
  rw [ofJson?, hrecord]
  show (Json.fieldOr Standard.maxRecursionDepth Json.word? _ >>= _) = _
  rw [Json.fieldOr_dropped_bind hdepth, Json.fieldOr_dropped_bind hsteps,
    Json.fieldOr_dropped_bind hduration, Json.fieldOr_dropped_bind (htext _),
    Json.fieldOr_dropped_bind (htext _), Json.fieldOr_dropped_bind (htext _),
    Json.fieldOr_dropped_bind (htext _), Json.fieldOr_dropped_bind hsplitters,
    Json.fieldOr_dropped_bind hproperties, Json.fieldOr_dropped_bind (hbool _),
    Json.fieldOr_dropped_bind hseed, Json.fieldOr_dropped_bind (htext _),
    Json.fieldOr_dropped_bind (htext _), Json.fieldOr_dropped_bind hhistory,
    Json.fieldOr_dropped_bind hsubstitutions]
  rfl

theorem reset_nil (s : Settings) : s.reset [] [] = s := rfl

/-- **Settings are read as they were written**, and as if a field were not given where it was taken
out of what was written, also out of the substitutions. -/
theorem ofText?_written {s : Settings} (hs : s.Representable) :
    (∀ (names inner : List Text) (substitutions j : Json) (source : Text),
      s.substitutions.toJson.Without inner substitutions →
      (s.toJson.withField "substitutions".toList substitutions).Without names j →
      Json.parse? source = some j → ofText? source = .ok (s.reset names inner)) ∧
    ∀ source, Json.parse? source = some s.toJson → ofText? source = .ok s := by
  have hwithout : ∀ (names inner : List Text) (substitutions j : Json) (source : Text),
      s.substitutions.toJson.Without inner substitutions →
      (s.toJson.withField "substitutions".toList substitutions).Without names j →
      Json.parse? source = some j → ofText? source = .ok (s.reset names inner) := by
    intro names inner substitutions j source hinner hj hsource
    rw [ofText?, parse?, hsource, Option.bind_some, ofJson?_without hs hinner hj]
  refine ⟨hwithout, fun source hsource => ?_⟩
  refine (hwithout [] [] _ _ source (Json.without_nil _) ?_ hsource).trans
    (congrArg Except.ok s.reset_nil)
  rw [toJson_withField]
  exact Json.without_nil _

def alice : Settings :=
  { maxSteps := 7, maxDuration := .ofMillis 50, randomSeed := some 3,
    botProperties := [("name".toList, "Alice".toList)],
    substitutions := { input := [("A".toList, "b".toList)], gender := some [] } }

/-- Only four fields and one table are left of what is written, from the last one to the first. -/
theorem ofText?_written_alice :
    let names := fieldNames.filter (· ∉ ["max_duration".toList, "bot_properties".toList,
      "random_seed".toList, "substitutions".toList])
    let inner := ["input".toList, "person".toList, "person2".toList]
    let source := ("\x7b\"substitutions\": \x7b\"gender\": []\x7d, \"random_seed\": 3, " ++
      "\"bot_properties\": \x7b\"name\": \"Alice\"\x7d, \"max_duration\": 50\x7d").toList
    alice.Representable ∧ ofText? source = .ok (alice.reset names inner) ∧
      alice.reset names inner =
        { maxDuration := .ofMillis 50, randomSeed := some 3,
          botProperties := [("name".toList, "Alice".toList)],
          substitutions := { gender := some [] } } := by
  intro names inner source
  have hs : alice.Representable :=
    { maxRecursionDepth := by decide
      maxSteps := by decide
      maxDuration := ⟨50, by decide, rfl⟩
      botProperties := by decide
      randomSeed := by decide
      maxHistory := by decide }
  let substitutions := Json.record [("gender".toList, .array [])]
  let fields := [("max_duration".toList, .natural 50),
    ("bot_properties".toList, .record [("name".toList, .ofText "Alice".toList)]),
    ("random_seed".toList, .natural 3), ("substitutions".toList, substitutions)]
  have hinner : alice.substitutions.toJson.Without inner substitutions :=
    ⟨_, [("gender".toList, .array [])], rfl, .refl _, rfl⟩
  have hj : (alice.toJson.withField "substitutions".toList substitutions).Without names
      (.record fields.reverse) := by
    rw [toJson_withField]
    exact ⟨_, fields.reverse, rfl, List.reverse_perm fields, rfl⟩
  have hsource : Json.parse? source = some (.record fields.reverse) := rfl
  exact ⟨hs, (ofText?_written hs).1 names inner _ _ source hinner hj hsource, by decide⟩

end Settings

end Dialogue
