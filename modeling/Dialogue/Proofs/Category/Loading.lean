import Dialogue.Category.Selection
import Mathlib.Data.List.Forall2
import Mathlib.Data.List.Range

/-!
# Loading skips exactly what is faulty

The authored form of a category is valid if each of its four texts can be read; otherwise it has a
first fault in the order of the checks (`Category.ofSource?_cases`). Loading adds the valid ones in
their order, as if the others had not been there, and reports each of the others once: its place,
the field of its first fault, the text of that field and the error (`load_skips_faulty`).
-/

namespace Dialogue

open Markup

/-! ## Faults -/

/-- The fields that are checked before a field. -/
def CategoryField.earlier : CategoryField → List CategoryField
  | .pattern => []
  | .that => [.pattern]
  | .topic => [.that, .pattern]
  | .template => [.topic, .that, .pattern]

theorem CategoryField.earlier_or_eq (f g : CategoryField) :
    f ∈ g.earlier ∨ f = g ∨ g ∈ f.earlier := by
  cases f <;> cases g <;> decide

namespace CategorySource

/-- The text of a field cannot be read, and with which error. -/
inductive Fault (s : CategorySource) : CategoryField → LoadError → Prop
  | pattern {field : CategoryField} {error : InvalidPattern} : field ≠ .template →
      Pattern.parse? (s.text field) = .error error → Fault s field (.pattern field error)
  | template {error : MarkupError} : Document.parse? s.template = .error error →
      Fault s .template (.template error)

/-- Each of the four texts can be read. -/
def IsValid (s : CategorySource) : Prop := ∀ field error, ¬ s.Fault field error

/-- The first fault in the order of the checks. -/
structure FirstFault (s : CategorySource) (field : CategoryField) (error : LoadError) : Prop where
  fault : s.Fault field error
  first : ∀ earlier ∈ field.earlier, ∀ error, ¬ s.Fault earlier error

/-- The category is what the four texts say. -/
structure Gives (s : CategorySource) (c : Category) : Prop where
  pattern : Pattern.parse? s.pattern = .ok c.pattern
  that : Pattern.parse? s.that = .ok c.that
  topic : Pattern.parse? s.topic = .ok c.topic
  template : Document.parse? s.template = .ok c.template

variable {s : CategorySource} {field : CategoryField} {error : LoadError}

theorem not_fault_of_pattern {p : Pattern} (hfield : field ≠ .template)
    (h : Pattern.parse? (s.text field) = .ok p) : ∀ error, ¬ s.Fault field error := by
  rintro _ (⟨-, herror⟩ | -)
  · rw [h] at herror
    cases herror
  · exact hfield rfl

theorem not_fault_of_template {d : Document} (h : Document.parse? s.template = .ok d) :
    ∀ error, ¬ s.Fault .template error := by
  rintro _ (⟨hfield, -⟩ | herror)
  · exact hfield rfl
  · rw [h] at herror
    cases herror

theorem Fault.error_eq {other : LoadError} (h : s.Fault field error)
    (hother : s.Fault field other) : error = other := by
  cases h with
  | pattern hfield herror =>
    cases hother with
    | pattern _ hother => rw [Except.error.inj (herror.symm.trans hother)]
    | template _ => exact absurd rfl hfield
  | template herror =>
    cases hother with
    | pattern hfield _ => exact absurd rfl hfield
    | template hother => rw [Except.error.inj (herror.symm.trans hother)]

theorem FirstFault.unique {field' : CategoryField} {error' : LoadError}
    (h : s.FirstFault field error) (h' : s.FirstFault field' error') :
    field = field' ∧ error = error' := by
  rcases field.earlier_or_eq field' with hearlier | rfl | hearlier
  · exact absurd h.fault (h'.first field hearlier error)
  · exact ⟨rfl, h.fault.error_eq h'.fault⟩
  · exact absurd h'.fault (h.first field' hearlier error')

theorem FirstFault.not_isValid (h : s.FirstFault field error) : ¬ s.IsValid :=
  fun hvalid => hvalid field error h.fault

theorem Gives.isValid {c : Category} (h : s.Gives c) : s.IsValid
  | .pattern => not_fault_of_pattern nofun h.pattern
  | .that => not_fault_of_pattern nofun h.that
  | .topic => not_fault_of_pattern nofun h.topic
  | .template => not_fault_of_template h.template

end CategorySource

open CategorySource

/-- **A source gives a category or has a first fault**, and which of the two is told by reading
it. -/
theorem Category.ofSource?_cases (s : CategorySource) :
    (∃ c, Category.ofSource? s = .ok c ∧ s.Gives c) ∨
      ∃ error, Category.ofSource? s = .error error ∧ s.FirstFault error.field error := by
  have hnone : ∀ f ∈ ([] : List CategoryField), ∀ error, ¬ s.Fault f error := nofun
  cases hpattern : Pattern.parse? s.pattern with
  | error e =>
    refine .inr ⟨.pattern .pattern e, ?_, .pattern nofun hpattern, hnone⟩
    rw [Category.ofSource?, parseField, hpattern]
    rfl
  | ok pattern =>
    have hone : ∀ f ∈ [CategoryField.pattern], ∀ error, ¬ s.Fault f error :=
      List.forall_mem_cons.2 ⟨not_fault_of_pattern nofun hpattern, hnone⟩
    cases hthat : Pattern.parse? s.that with
    | error e =>
      refine .inr ⟨.pattern .that e, ?_, .pattern nofun hthat, hone⟩
      rw [Category.ofSource?, parseField, hpattern, parseField, hthat]
      rfl
    | ok that =>
      have htwo : ∀ f ∈ [CategoryField.that, .pattern], ∀ error, ¬ s.Fault f error :=
        List.forall_mem_cons.2 ⟨not_fault_of_pattern nofun hthat, hone⟩
      cases htopic : Pattern.parse? s.topic with
      | error e =>
        refine .inr ⟨.pattern .topic e, ?_, .pattern nofun htopic, htwo⟩
        rw [Category.ofSource?, parseField, hpattern, parseField, hthat, parseField, htopic]
        rfl
      | ok topic =>
        have hthree : ∀ f ∈ [CategoryField.topic, .that, .pattern], ∀ error,
            ¬ s.Fault f error :=
          List.forall_mem_cons.2 ⟨not_fault_of_pattern nofun htopic, htwo⟩
        cases htemplate : Document.parse? s.template with
        | error e =>
          refine .inr ⟨.template e, ?_, .template htemplate, hthree⟩
          rw [Category.ofSource?, parseField, hpattern, parseField, hthat, parseField, htopic,
            htemplate]
          rfl
        | ok template =>
          refine .inl ⟨⟨pattern, that, topic, template⟩, ?_, hpattern, hthat, htopic, htemplate⟩
          rw [Category.ofSource?, parseField, hpattern, parseField, hthat, parseField, htopic,
            htemplate]
          rfl

def CategorySource.category? (s : CategorySource) : Option Category :=
  (Category.ofSource? s).toOption

/-- What is reported of a source at the given place, if it is not valid. -/
def CategorySource.diagnostic? (s : CategorySource) (index : Nat) : Option LoadDiagnostic :=
  match Category.ofSource? s with
  | .ok _ => none
  | .error error => some ⟨index, error.field, s.text error.field, error⟩

namespace CategorySource

variable {s : CategorySource}

theorem isValid_iff : s.IsValid ↔ s.category?.isSome = true := by
  rcases Category.ofSource?_cases s with ⟨c, hc, hgives⟩ | ⟨error, herror, hfirst⟩
  · rw [category?, hc]
    exact iff_of_true hgives.isValid rfl
  · rw [category?, herror]
    exact iff_of_false hfirst.not_isValid Bool.false_ne_true

instance : DecidablePred IsValid := fun _ => decidable_of_iff _ isValid_iff.symm

theorem gives_of_category? {c : Category} (h : s.category? = some c) : s.Gives c := by
  rcases Category.ofSource?_cases s with ⟨c', hc, hgives⟩ | ⟨error, herror, -⟩
  · rw [category?, hc] at h
    cases h
    exact hgives
  · rw [category?, herror] at h
    cases h

theorem diagnostic?_eq_some_iff {index : Nat} {d : LoadDiagnostic} :
    s.diagnostic? index = some d ↔
      d.index = index ∧ s.FirstFault d.field d.error ∧ d.offending = s.text d.field := by
  rcases Category.ofSource?_cases s with ⟨c, hc, hgives⟩ | ⟨error, herror, hfirst⟩
  · rw [diagnostic?, hc]
    exact iff_of_false nofun fun h => h.2.1.not_isValid hgives.isValid
  · rw [diagnostic?, herror]
    constructor
    · rintro ⟨⟩
      exact ⟨rfl, hfirst, rfl⟩
    · rintro ⟨hindex, hfault, hoffending⟩
      obtain ⟨hfield, rfl⟩ := hfirst.unique hfault
      cases d
      simp only at hindex hoffending hfield
      subst hindex hfield hoffending
      rfl

/-- A source is added or reported, and never both. -/
theorem category?_or_diagnostic? (s : CategorySource) (index : Nat) :
    (∃ c, s.category? = some c ∧ s.diagnostic? index = none) ∨
      ∃ d, s.category? = none ∧ s.diagnostic? index = some d := by
  rw [category?, diagnostic?]
  cases Category.ofSource? s with
  | ok c => exact .inl ⟨c, rfl, rfl⟩
  | error error => exact .inr ⟨_, rfl, rfl⟩

end CategorySource

/-! ## Loading -/

namespace CategoryList

variable (categories : CategoryList) (sources : List CategorySource)

def given (sources : List CategorySource) : CategoryList := sources.filterMap category?

def diagnostics (sources : List CategorySource) (index : Nat) : List LoadDiagnostic :=
  (sources.zipIdx index).filterMap fun x => x.1.diagnostic? x.2

theorem given_cons (s : CategorySource) :
    given (s :: sources) = s.category?.toList ++ given sources := by
  rw [given, List.filterMap_cons]
  cases s.category? <;> rfl

theorem diagnostics_cons (s : CategorySource) (index : Nat) :
    diagnostics (s :: sources) index =
      (s.diagnostic? index).toList ++ diagnostics sources (index + 1) := by
  rw [diagnostics, List.zipIdx_cons, List.filterMap_cons]
  dsimp only
  cases s.diagnostic? index <;> rfl

/-- **Loading is one pass**: the sources that give a category are added, and of the others there is
a diagnostic each. -/
theorem loadFrom_eq (index : Nat) : categories.loadFrom index sources =
    (categories ++ given sources, ⟨(given sources).length, diagnostics sources index⟩) := by
  induction sources generalizing categories index with
  | nil => exact congrArg (·, _) (List.append_nil categories).symm
  | cons s rest ih =>
    rw [loadFrom, add?, given_cons, diagnostics_cons, category?, diagnostic?]
    cases Category.ofSource? s with
    | ok c =>
      simp only [Except.map, ih, Except.toOption, Option.toList, List.append_assoc,
        List.singleton_append, List.nil_append, List.length_cons]
    | error error =>
      simp only [Except.map, ih, Except.toOption, Option.toList, List.singleton_append,
        List.nil_append]

theorem load_eq : categories.load sources =
    (categories ++ given sources, ⟨(given sources).length, diagnostics sources 0⟩) :=
  loadFrom_eq categories sources 0

theorem length_given_add_diagnostics (index : Nat) :
    (given sources).length + (diagnostics sources index).length = sources.length := by
  induction sources generalizing index with
  | nil => rfl
  | cons s rest ih =>
    have hrest := ih (index + 1)
    rw [given_cons, diagnostics_cons, List.length_append, List.length_append, List.length_cons]
    rcases s.category?_or_diagnostic? index with ⟨c, hc, hd⟩ | ⟨d, hc, hd⟩ <;>
      (rw [hc, hd, Option.toList_some, Option.toList_none, List.length_singleton, List.length_nil]
       omega)

/-- The valid sources give what all sources give. -/
theorem forall₂_gives : List.Forall₂ Gives (sources.filter fun s => decide s.IsValid)
    (given sources) := by
  induction sources with
  | nil => exact .nil
  | cons s rest ih =>
    rw [given_cons]
    cases hc : s.category? with
    | none =>
      have hnot : ¬ s.IsValid := by
        rw [isValid_iff, hc]
        exact Bool.false_ne_true
      rw [List.filter_cons_of_neg (by simpa using hnot)]
      exact ih
    | some c =>
      have hgives := gives_of_category? hc
      rw [List.filter_cons_of_pos (by simpa using hgives.isValid)]
      exact .cons hgives ih

theorem given_valid : given (sources.filter fun s => decide s.IsValid) = given sources := by
  rw [given, given, List.filterMap_filter]
  refine List.filterMap_congr fun s _ => ?_
  by_cases h : s.IsValid
  · rw [if_pos (decide_eq_true h)]
  · rw [if_neg (by simpa using h)]
    cases hc : s.category? with
    | none => rfl
    | some c => exact absurd (gives_of_category? hc).isValid h

theorem pairwise_index :
    ((diagnostics sources 0).map LoadDiagnostic.index).Pairwise (· < ·) := by
  have hplaces : sources.zipIdx.Pairwise fun x y => x.2 < y.2 := by
    rw [← List.pairwise_map, List.zipIdx_map_snd]
    exact List.pairwise_lt_range'
  rw [List.pairwise_map, diagnostics, List.pairwise_filterMap]
  refine hplaces.imp fun hlt d hd d' hd' => ?_
  rw [(diagnostic?_eq_some_iff.1 hd).1, (diagnostic?_eq_some_iff.1 hd').1]
  exact hlt

theorem mem_diagnostics_iff {d : LoadDiagnostic} :
    d ∈ diagnostics sources 0 ↔ ∃ s, sources[d.index]? = some s ∧
      s.FirstFault d.field d.error ∧ d.offending = s.text d.field := by
  rw [diagnostics, List.mem_filterMap]
  constructor
  · rintro ⟨⟨s, i⟩, hmem, hd⟩
    obtain ⟨rfl, hfault⟩ := diagnostic?_eq_some_iff.1 hd
    exact ⟨s, List.mk_mem_zipIdx_iff_getElem?.1 hmem, hfault⟩
  · rintro ⟨s, hs, hfault⟩
    exact ⟨(s, d.index), List.mk_mem_zipIdx_iff_getElem?.2 hs,
      diagnostic?_eq_some_iff.2 ⟨rfl, hfault⟩⟩

theorem exists_diagnostic {i : Nat} {s : CategorySource} (hs : sources[i]? = some s)
    (hnot : ¬ s.IsValid) : ∃ d ∈ diagnostics sources 0, d.index = i := by
  rcases s.category?_or_diagnostic? i with ⟨c, hc, -⟩ | ⟨d, -, hd⟩
  · exact absurd (gives_of_category? hc).isValid hnot
  · obtain ⟨rfl, hfault⟩ := diagnostic?_eq_some_iff.1 hd
    exact ⟨d, (mem_diagnostics_iff sources).2 ⟨s, hs, hfault⟩, rfl⟩

/-- **Loading skips exactly the faulty categories.** The categories that were there are followed, in
order, by those that the valid sources give, and they are the same as if the others had not been
among the sources. Each source is counted as loaded or reported. The reports come in the order of
the sources, one for each source that is not valid, with its place, the field of its first fault,
the text of that field, and the error. An attempt to add that fails names the first fault, and
loading goes on as if it had not been made. -/
theorem load_skips_faulty (categories : CategoryList) (sources : List CategorySource) :
    let valid := sources.filter fun s => decide s.IsValid
    let (loaded, report) := categories.load sources
    (∃ added, List.Forall₂ Gives valid added ∧ loaded = categories ++ added) ∧
    loaded = (categories.load valid).1 ∧
    report.loaded = valid.length ∧
    report.loaded + report.skipped.length = sources.length ∧
    (report.skipped.map LoadDiagnostic.index).Pairwise (· < ·) ∧
    (∀ d, d ∈ report.skipped ↔ ∃ s, sources[d.index]? = some s ∧
      s.FirstFault d.field d.error ∧ d.offending = s.text d.field) ∧
    (∀ i s, sources[i]? = some s → ¬ s.IsValid → ∃ d ∈ report.skipped, d.index = i) ∧
    ∀ s error, categories.add? s = .error error → s.FirstFault error.field error ∧
      ∀ rest, (categories.load (s :: rest)).1 = (categories.load rest).1 := by
  intro valid
  rw [load_eq]
  refine ⟨⟨_, forall₂_gives sources, rfl⟩, ?_, (forall₂_gives sources).length_eq.symm,
    length_given_add_diagnostics sources 0, pairwise_index sources,
    fun d => mem_diagnostics_iff sources, fun i s => exists_diagnostic sources,
    fun s error h => ?_⟩
  · rw [load_eq, given_valid]
  · rcases Category.ofSource?_cases s with ⟨c, hc, -⟩ | ⟨error', herror, hfirst⟩
    · rw [add?, hc] at h
      cases h
    · rw [add?, herror] at h
      cases h
      refine ⟨hfirst, fun rest => ?_⟩
      have hnone : s.category? = none := by
        rw [category?, herror]
        rfl
      rw [load_eq, load_eq, given_cons, hnone]
      rfl

end CategoryList

end Dialogue
