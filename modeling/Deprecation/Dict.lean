/-!
Dictionaries from texts to values that keep the order in which their keys were added.  Setting a key
that is there leaves it at its place; a new key goes to the end.  No key stands in a dictionary
twice.
-/

namespace Deprecation

/-- A dictionary in the order in which its keys were added. -/
structure Dict (α : Type) where
  entries : List (String × α)
  nodup : (entries.map Prod.fst).Nodup

namespace Dict

variable {α : Type}

@[ext] theorem ext {first second : Dict α} (h : first.entries = second.entries) :
    first = second := by
  cases first
  cases second
  cases h
  rfl

def empty : Dict α := ⟨[], List.nodup_nil⟩

instance : Inhabited (Dict α) := ⟨empty⟩

/-- The keys, in order. -/
def keys (dict : Dict α) : List String :=
  dict.entries.map Prod.fst

def isEmpty (dict : Dict α) : Bool :=
  dict.entries.isEmpty

def get? (dict : Dict α) (key : String) : Option α :=
  dict.entries.lookup key

instance : Membership String (Dict α) where
  mem dict key := key ∈ dict.keys

theorem mem_def {dict : Dict α} {key : String} : key ∈ dict ↔ key ∈ dict.keys := Iff.rfl

instance (dict : Dict α) (key : String) : Decidable (key ∈ dict) :=
  inferInstanceAs (Decidable (key ∈ dict.keys))

def replaceIn (entries : List (String × α)) (key : String) (value : α) : List (String × α) :=
  entries.map fun entry => if entry.1 = key then (key, value) else entry

theorem map_fst_replaceIn (entries : List (String × α)) (key : String) (value : α) :
    (replaceIn entries key value).map Prod.fst = entries.map Prod.fst := by
  rw [replaceIn, List.map_map]
  refine List.map_congr_left fun entry _ => ?_
  by_cases h : entry.1 = key <;> simp [h]

def insert (dict : Dict α) (key : String) (value : α) : Dict α :=
  if h : key ∈ dict then
    ⟨replaceIn dict.entries key value, by
      rw [map_fst_replaceIn]
      exact dict.nodup⟩
  else
    ⟨dict.entries ++ [(key, value)], by
      rw [List.map_append]
      refine List.nodup_append.mpr ⟨dict.nodup, by simp, ?_⟩
      intro first hfirst second hsecond
      rw [List.mem_singleton.mp hsecond]
      rintro rfl
      exact h hfirst⟩

/-- Removes a key, the others keeping their order. -/
def erase (dict : Dict α) (key : String) : Dict α :=
  ⟨dict.entries.filter fun entry => entry.1 ≠ key,
    dict.nodup.sublist (List.filter_sublist.map Prod.fst)⟩

/-- The dictionary of a list of entries.  A key that is repeated keeps its first place and gets its
last value. -/
def ofList (entries : List (String × α)) : Dict α :=
  entries.foldl (fun dict entry => dict.insert entry.1 entry.2) empty

@[simp] theorem entries_empty : (empty : Dict α).entries = [] := rfl

theorem entries_insert_of_mem {dict : Dict α} {key : String} (value : α) (h : key ∈ dict) :
    (dict.insert key value).entries = replaceIn dict.entries key value := by
  simp [insert, h]

theorem entries_insert_of_not_mem {dict : Dict α} {key : String} (value : α)
    (h : key ∉ dict) : (dict.insert key value).entries = dict.entries ++ [(key, value)] := by
  simp [insert, h]

@[simp] theorem entries_erase (dict : Dict α) (key : String) :
    (dict.erase key).entries = dict.entries.filter fun entry => entry.1 ≠ key := rfl

theorem keys_insert_of_mem {dict : Dict α} {key : String} (value : α) (h : key ∈ dict) :
    (dict.insert key value).keys = dict.keys := by
  rw [keys, entries_insert_of_mem value h, map_fst_replaceIn, keys]

theorem keys_insert_of_not_mem {dict : Dict α} {key : String} (value : α)
    (h : key ∉ dict) : (dict.insert key value).keys = dict.keys ++ [key] := by
  rw [keys, entries_insert_of_not_mem value h, List.map_append, keys]
  rfl

@[simp] theorem keys_erase (dict : Dict α) (key : String) :
    (dict.erase key).keys = dict.keys.filter (· ≠ key) := by
  simp only [keys, entries_erase, List.filter_map]
  rfl

@[simp] theorem mem_insert {dict : Dict α} {key other : String} {value : α} :
    other ∈ dict.insert key value ↔ other = key ∨ other ∈ dict := by
  by_cases h : key ∈ dict
  · rw [mem_def, keys_insert_of_mem value h, ← mem_def]
    constructor
    · exact Or.inr
    · rintro (rfl | hother)
      · exact h
      · exact hother
  · rw [mem_def, keys_insert_of_not_mem value h, List.mem_append, List.mem_singleton, ← mem_def]
    exact Or.comm

@[simp] theorem mem_erase {dict : Dict α} {key other : String} :
    other ∈ dict.erase key ↔ other ∈ dict ∧ other ≠ key := by
  simp [mem_def]

theorem get?_eq_none_iff {dict : Dict α} {key : String} :
    dict.get? key = none ↔ key ∉ dict := by
  obtain ⟨entries, nodup⟩ := dict
  simp only [get?, mem_def, keys]
  clear nodup
  induction entries with
  | nil => simp
  | cons entry rest ih =>
    obtain ⟨first, value⟩ := entry
    by_cases h : key = first
    · subst h
      simp
    · have hbeq : (key == first) = false := beq_eq_false_iff_ne.mpr h
      simp [List.lookup_cons, hbeq, h, ih]

theorem get?_eq_some_iff {dict : Dict α} {key : String} {value : α} :
    dict.get? key = some value ↔ (key, value) ∈ dict.entries := by
  obtain ⟨entries, nodup⟩ := dict
  simp only [get?]
  induction entries with
  | nil => simp
  | cons entry rest ih =>
      obtain ⟨first, held⟩ := entry
      simp only [List.map_cons, List.nodup_cons] at nodup
      by_cases h : key = first
      · subst h
        have hrest : (key, value) ∉ rest := by
          intro hmem
          exact nodup.1 (List.mem_map_of_mem hmem)
        simp [hrest, eq_comm]
      · have hbeq : (key == first) = false := beq_eq_false_iff_ne.mpr h
        simp [List.lookup_cons, hbeq, h, ih nodup.2]

theorem get?_congr {first second : Dict α} (h : first.entries.Perm second.entries)
    (key : String) : first.get? key = second.get? key := by
  apply Option.ext
  intro value
  rw [get?_eq_some_iff, get?_eq_some_iff, h.mem_iff]

theorem mem_of_get? {dict : Dict α} {key : String} {value : α} (h : dict.get? key = some value) :
    key ∈ dict :=
  List.mem_map_of_mem (f := Prod.fst) (get?_eq_some_iff.mp h)

theorem get?_insert (dict : Dict α) (key other : String) (value : α) :
    (dict.insert key value).get? other = if other = key then some value else dict.get? other := by
  split
  · next h =>
    subst h
    rw [get?_eq_some_iff]
    by_cases h : other ∈ dict
    · rw [entries_insert_of_mem value h, replaceIn]
      obtain ⟨entry, hentry, hkey⟩ := List.mem_map.mp h
      exact List.mem_map.mpr ⟨entry, hentry, if_pos hkey⟩
    · rw [entries_insert_of_not_mem value h]
      exact List.mem_append_right _ List.mem_cons_self
  · next hne =>
    apply Option.ext
    intro held
    rw [get?_eq_some_iff, get?_eq_some_iff]
    by_cases h : key ∈ dict
    · rw [entries_insert_of_mem value h, replaceIn, List.mem_map]
      constructor
      · rintro ⟨entry, hentry, heq⟩
        split at heq
        · exact absurd (congrArg Prod.fst heq).symm hne
        · exact heq ▸ hentry
      · intro hentry
        exact ⟨_, hentry, if_neg hne⟩
    · rw [entries_insert_of_not_mem value h, List.mem_append, List.mem_singleton]
      simp [hne]

end Dict

end Deprecation
