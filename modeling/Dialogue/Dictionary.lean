/-!
# Dictionaries

A dictionary is a list of keys with their values, in which a key stands at most once if it
was built by `set`. The first entry of a key counts.
-/

namespace Dialogue

/-- Keys with their values, in the order in which the keys were first set. -/
abbrev Dictionary (α β : Type) := List (α × β)

namespace Dictionary

variable {α β : Type} [DecidableEq α]

def get? (key : α) : Dictionary α β → Option β
  | [] => none
  | (k, v) :: rest => if k = key then some v else get? key rest

/-- Gives a key a value. A new key goes to the end. -/
def set (key : α) (value : β) : Dictionary α β → Dictionary α β
  | [] => [(key, value)]
  | (k, v) :: rest => if k = key then (key, value) :: rest else (k, v) :: set key value rest

def erase (key : α) (d : Dictionary α β) : Dictionary α β := d.filter (fun entry => entry.1 ≠ key)

/-- Reading after writing. -/
theorem get?_set (d : Dictionary α β) (key other : α) (value : β) :
    get? other (set key value d) = if key = other then some value else get? other d := by
  induction d with
  | nil => simp [set, get?]
  | cons entry rest ih =>
    obtain ⟨k, v⟩ := entry
    by_cases hk : k = key
    · by_cases ho : key = other <;> simp_all [set, get?]
    · by_cases ho : k = other <;> grind [set, get?]

/-- Reading after removing. -/
theorem get?_erase (d : Dictionary α β) (key other : α) :
    get? other (erase key d) = if key = other then none else get? other d := by
  induction d with
  | nil => simp [erase, get?]
  | cons entry rest ih => grind [erase, get?]

/-! ## Keys -/

def keys (d : Dictionary α β) : List α := d.map Prod.fst

theorem mem_keys_set {d : Dictionary α β} {key other : α} {value : β} :
    other ∈ keys (set key value d) ↔ other = key ∨ other ∈ keys d := by
  induction d with
  | nil => simp [set, keys]
  | cons entry rest ih =>
    obtain ⟨k, v⟩ := entry
    simp only [keys, set] at ih ⊢
    split
    · subst_vars
      simp
    · simp only [List.map_cons, List.mem_cons, ih]
      exact or_left_comm

theorem nodup_keys_set {d : Dictionary α β} (h : (keys d).Nodup) (key : α) (value : β) :
    (keys (set key value d)).Nodup := by
  induction d with
  | nil => simp [set, keys]
  | cons entry rest ih =>
    obtain ⟨k, v⟩ := entry
    obtain ⟨hk, hrest⟩ := List.nodup_cons.1 h
    rw [set]
    split
    · subst_vars
      exact h
    · rename_i hne
      refine List.nodup_cons.2 ⟨?_, ih hrest⟩
      intro hmem
      rcases mem_keys_set.1 hmem with rfl | hmem
      · exact hne rfl
      · exact hk hmem

theorem set_of_not_mem {d : Dictionary α β} {key : α} (h : key ∉ keys d) (value : β) :
    set key value d = d ++ [(key, value)] := by
  induction d with
  | nil => rfl
  | cons entry rest ih =>
    obtain ⟨k, v⟩ := entry
    obtain ⟨hne, hrest⟩ := not_or.1 (mt List.mem_cons.2 h)
    rw [set, if_neg (Ne.symm hne), ih hrest, List.cons_append]

/-- A dictionary is what comes of setting its entries one after the other. -/
theorem foldl_set {d entries : Dictionary α β} (h : (keys (d ++ entries)).Nodup) :
    entries.foldl (fun d entry => set entry.1 entry.2 d) d = d ++ entries := by
  induction entries generalizing d with
  | nil => exact (List.append_nil d).symm
  | cons entry rest ih =>
    have hassoc : d ++ entry :: rest = d ++ [entry] ++ rest := List.append_cons d entry rest
    have hkey : entry.1 ∉ keys d := by
      intro hmem
      rw [keys, List.map_append, List.nodup_append] at h
      exact h.2.2 _ hmem _ List.mem_cons_self rfl
    rw [List.foldl_cons, set_of_not_mem hkey, hassoc]
    exact ih (hassoc ▸ h)

theorem mem_keys_erase {d : Dictionary α β} {key other : α} :
    other ∈ keys (erase key d) ↔ other ≠ key ∧ other ∈ keys d := by
  simp only [keys, erase, List.mem_map, List.mem_filter]
  grind

theorem nodup_keys_erase {d : Dictionary α β} (h : (keys d).Nodup) (key : α) :
    (keys (erase key d)).Nodup :=
  h.sublist (List.filter_sublist.map Prod.fst)

end Dictionary

end Dialogue
