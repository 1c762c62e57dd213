import Deprecation.Arguments
import Mathlib.Logic.Basic

/-!
Renaming as a sequence of moves.  What a renamer does to the arguments does not depend on the state
of warnings: every pair moves at most one value, and a name of the caller travels along the pairs.
The main statements say which names there are after some pairs, and at which pair a call is refused.
-/

namespace Deprecation

namespace Dict

variable {α : Type}

/-- Moves the value of a pair's old name to the end, under the new name. -/
def movePair (dict : Dict α) (pair : String × String) : Dict α :=
  match dict.get? pair.1 with
  | none => dict
  | some value => (dict.erase pair.1).insert pair.2 value

/-- Moves values along pairs, one pair after the other. -/
def moveAll (dict : Dict α) (pairs : List (String × String)) : Dict α :=
  pairs.foldl movePair dict

/-- The pairs whose old name is present when their turn comes. -/
def fired : Dict α → List (String × String) → List (String × String)
  | _, [] => []
  | dict, pair :: rest => (if pair.1 ∈ dict then [pair] else []) ++ fired (dict.movePair pair) rest

theorem movePair_of_not_mem {dict : Dict α} {pair : String × String} (h : pair.1 ∉ dict) :
    dict.movePair pair = dict := by
  simp [movePair, get?_eq_none_iff.mpr h]

theorem movePair_of_get? {dict : Dict α} {pair : String × String} {value : α}
    (h : dict.get? pair.1 = some value) :
    dict.movePair pair = (dict.erase pair.1).insert pair.2 value := by
  simp [movePair, h]

theorem not_mem_of_isEmpty {dict : Dict α} (h : dict.isEmpty = true) (key : String) :
    key ∉ dict := by
  rw [mem_def, keys, List.isEmpty_iff.mp h]
  exact List.not_mem_nil

theorem entries_movePair {dict : Dict α} {pair : String × String} {value : α}
    (h : dict.get? pair.1 = some value) (hnew : pair.2 ∉ dict) :
    (dict.movePair pair).entries =
      (dict.entries.filter fun entry => entry.1 ≠ pair.1) ++ [(pair.2, value)] := by
  have herased : pair.2 ∉ dict.erase pair.1 := fun hmem => hnew (mem_erase.mp hmem).1
  rw [movePair_of_get? h, entries_insert_of_not_mem value herased, entries_erase]

end Dict

namespace Renamer

variable {α : Type}

def follow (pair : String × String) (key : String) : String :=
  if key = pair.1 then pair.2 else key

/-- The name that a key has after some pairs. -/
def position (pairs : List (String × String)) (key : String) : String :=
  pairs.foldl (fun key pair => follow pair key) key

@[simp] theorem follow_old (pair : String × String) : follow pair pair.1 = pair.2 := by
  simp [follow]

theorem follow_of_ne {pair : String × String} {key : String} (h : key ≠ pair.1) :
    follow pair key = key := by
  simp [follow, h]

@[simp] theorem position_nil (key : String) : position [] key = key := rfl

@[simp] theorem position_cons (pair : String × String) (rest : List (String × String))
    (key : String) : position (pair :: rest) key = position rest (follow pair key) := rfl

theorem position_concat (pairs : List (String × String)) (pair : String × String)
    (key : String) : position (pairs ++ [pair]) key = follow pair (position pairs key) := by
  simp [position]

theorem exists_follow_iff {p : String → Prop} {pair : String × String} {name : String}
    (hold : p pair.1) :
    (∃ key, p key ∧ follow pair key = name) ↔
      name = pair.2 ∨ (p name ∧ name ≠ pair.1) := by
  constructor
  · rintro ⟨key, hkey, rfl⟩
    rcases eq_or_ne key pair.1 with rfl | hne
    · exact Or.inl (follow_old pair)
    · rw [follow_of_ne hne]
      exact Or.inr ⟨hkey, hne⟩
  · rintro (rfl | ⟨hname, hne⟩)
    · exact ⟨pair.1, hold, follow_old pair⟩
    · exact ⟨name, hname, follow_of_ne hne⟩

theorem exists_follow_iff_of_not {p : String → Prop} {pair : String × String}
    {name : String} (hold : ¬ p pair.1) :
    (∃ key, p key ∧ follow pair key = name) ↔ p name := by
  have hstays : ∀ key, p key → follow pair key = key := by
    intro key hkey
    apply follow_of_ne
    rintro rfl
    exact hold hkey
  constructor
  · rintro ⟨key, hkey, rfl⟩
    rw [hstays key hkey]
    exact hkey
  · intro hname
    exact ⟨name, hname, hstays name hname⟩

theorem mem_movePair {kwargs : KwArgs α} {pair : String × String} {name : String} :
    name ∈ kwargs.movePair pair ↔ ∃ key ∈ kwargs, follow pair key = name := by
  cases h : kwargs.get? pair.1 with
  | none =>
      have hold := Dict.get?_eq_none_iff.mp h
      rw [Dict.movePair_of_not_mem hold, exists_follow_iff_of_not hold]
  | some value =>
      rw [Dict.movePair_of_get? h, Dict.mem_insert, Dict.mem_erase,
        exists_follow_iff (Dict.mem_of_get? h)]

theorem mem_moveAll {kwargs : KwArgs α} {pairs : List (String × String)} {name : String} :
    name ∈ kwargs.moveAll pairs ↔ ∃ key ∈ kwargs, position pairs key = name := by
  induction pairs generalizing kwargs with
  | nil => simp [Dict.moveAll]
  | cons pair rest ih =>
      change name ∈ (kwargs.movePair pair).moveAll rest ↔ _
      rw [ih]
      constructor
      · rintro ⟨moved, hmoved, rfl⟩
        obtain ⟨key, hkey, rfl⟩ := mem_movePair.mp hmoved
        exact ⟨key, hkey, rfl⟩
      · rintro ⟨key, hkey, rfl⟩
        exact ⟨follow pair key, mem_movePair.mpr ⟨key, hkey, rfl⟩, rfl⟩

/-- The pair at an index finds both its names among the positions of the keys. -/
def MeetsBoth (pairs : List (String × String)) (keys : List String) (index : Nat)
    (pair : String × String) : Prop :=
  pairs[index]? = some pair ∧
    (∃ key ∈ keys, position (pairs.take index) key = pair.1) ∧
    ∃ key ∈ keys, position (pairs.take index) key = pair.2

theorem meetsBoth_zero_iff {first pair : String × String} {rest : List (String × String)}
    {keys : List String} :
    MeetsBoth (first :: rest) keys 0 pair ↔ first = pair ∧ pair.1 ∈ keys ∧ pair.2 ∈ keys := by
  simp [MeetsBoth]

theorem meetsBoth_succ_iff {first pair : String × String} {rest : List (String × String)}
    {keys : List String} {index : Nat} :
    MeetsBoth (first :: rest) keys (index + 1) pair ↔
      MeetsBoth rest (keys.map (follow first)) index pair := by
  have hmap : ∀ name, (∃ key ∈ keys.map (follow first), position (rest.take index) key = name) ↔
      ∃ key ∈ keys, position ((first :: rest).take (index + 1)) key = name := by
    intro name
    simp only [List.mem_map, List.take_succ_cons, position_cons]
    constructor
    · rintro ⟨_, ⟨key, hkey, rfl⟩, hname⟩
      exact ⟨key, hkey, hname⟩
    · rintro ⟨key, hkey, hname⟩
      exact ⟨_, ⟨key, hkey, rfl⟩, hname⟩
  rw [MeetsBoth, MeetsBoth, hmap, hmap, List.getElem?_cons_succ]

theorem conflict?_congr (pairs : List (String × String)) {first second : List String}
    (h : ∀ name, name ∈ first ↔ name ∈ second) :
    conflict? pairs first = conflict? pairs second := by
  induction pairs generalizing first second with
  | nil => rfl
  | cons pair rest ih =>
      obtain ⟨oldName, newName⟩ := pair
      simp only [conflict?, h oldName, h newName]
      split
      · split
        · rfl
        · apply ih
          intro name
          simp [h name]
      · exact ih h

theorem conflict?_cons (pair : String × String) (rest : List (String × String))
    (names : List String) :
    conflict? (pair :: rest) names =
      if pair.1 ∈ names ∧ pair.2 ∈ names then some pair
      else conflict? rest (names.map (follow pair)) := by
  obtain ⟨oldName, newName⟩ := pair
  simp only [conflict?]
  by_cases hold : oldName ∈ names
  · by_cases hnew : newName ∈ names
    · simp [hold, hnew]
    · simp only [hold, hnew, if_true, if_false, and_false]
      apply conflict?_congr
      intro name
      rw [List.mem_map, exists_follow_iff (p := (· ∈ names)) hold]
      simp
  · simp only [hold, if_false, false_and]
    apply conflict?_congr
    intro name
    rw [List.mem_map, exists_follow_iff_of_not (p := (· ∈ names)) hold]

theorem conflict?_cons_keys (pair : String × String) (rest : List (String × String))
    (kwargs : KwArgs α) :
    conflict? (pair :: rest) kwargs.keys =
      if pair.1 ∈ kwargs ∧ pair.2 ∈ kwargs then some pair
      else conflict? rest (kwargs.movePair pair).keys := by
  have hnames : conflict? rest (kwargs.keys.map (follow pair)) =
      conflict? rest (kwargs.movePair pair).keys := by
    -- the move puts its name at the end, but only which names are there counts
    apply conflict?_congr
    intro name
    rw [List.mem_map]
    exact mem_movePair.symm
  rw [conflict?_cons, hnames]
  rfl

theorem conflict?_eq_none_iff {pairs : List (String × String)} {keys : List String} :
    conflict? pairs keys = none ↔ ∀ index pair, ¬ MeetsBoth pairs keys index pair := by
  induction pairs generalizing keys with
  | nil => simp [conflict?, MeetsBoth]
  | cons first rest ih =>
      rw [conflict?_cons]
      split
      · next hboth =>
        simp only [reduceCtorEq, false_iff]
        intro hnone
        exact hnone 0 first (meetsBoth_zero_iff.mpr ⟨rfl, hboth⟩)
      · next hboth =>
        rw [ih]
        constructor
        · intro hnone index pair hmeets
          cases index with
          | zero =>
              obtain ⟨rfl, hmem⟩ := meetsBoth_zero_iff.mp hmeets
              exact hboth hmem
          | succ index => exact hnone index pair (meetsBoth_succ_iff.mp hmeets)
        · intro hnone index pair hmeets
          exact hnone (index + 1) pair (meetsBoth_succ_iff.mpr hmeets)

theorem exists_first_of_conflict? {pairs : List (String × String)} {keys : List String}
    {pair : String × String} (h : conflict? pairs keys = some pair) :
    ∃ index, MeetsBoth pairs keys index pair ∧
      ∀ earlier < index, ∀ other, ¬ MeetsBoth pairs keys earlier other := by
  induction pairs generalizing keys with
  | nil => simp [conflict?] at h
  | cons first rest ih =>
      rw [conflict?_cons] at h
      split at h
      · next hboth =>
        obtain rfl := Option.some.inj h
        exact ⟨0, meetsBoth_zero_iff.mpr ⟨rfl, hboth⟩, by omega⟩
      · next hboth =>
        obtain ⟨index, hmeets, hleast⟩ := ih h
        refine ⟨index + 1, meetsBoth_succ_iff.mpr hmeets, ?_⟩
        intro earlier hearlier other hother
        cases earlier with
        | zero =>
            obtain ⟨rfl, hmem⟩ := meetsBoth_zero_iff.mp hother
            exact hboth hmem
        | succ earlier => exact hleast earlier (by omega) other (meetsBoth_succ_iff.mp hother)

theorem not_mem_moveAll_of_accepted {kwargs : KwArgs α} {before after : List (String × String)}
    {pair : String × String} (h : conflict? (before ++ pair :: after) kwargs.keys = none)
    (hold : pair.1 ∈ kwargs.moveAll before) : pair.2 ∉ kwargs.moveAll before := by
  intro hnew
  refine conflict?_eq_none_iff.mp h before.length pair ⟨by simp, ?_, ?_⟩
  · rw [List.take_left]
    exact mem_moveAll.mp hold
  · rw [List.take_left]
    exact mem_moveAll.mp hnew

theorem applyPairs_snd (renamer : Renamer) (emitter : Emitter) (function : String)
    (location : Location) (pairs : List (String × String)) (kwargs : KwArgs α) (state : State) :
    (renamer.applyPairs emitter function location pairs kwargs state).2 =
      kwargs.moveAll pairs := by
  induction pairs generalizing kwargs state with
  | nil => rfl
  | cons pair rest ih =>
      change _ = (kwargs.movePair pair).moveAll rest
      rw [applyPairs]
      cases h : kwargs.get? pair.1 with
      | none => rw [ih, Dict.movePair_of_not_mem (Dict.get?_eq_none_iff.mp h)]
      | some value =>
          rw [Dict.movePair_of_get? h]
          exact ih _ _

theorem moveAll_of_absent {kwargs : KwArgs α} {pairs : List (String × String)}
    (h : ∀ pair ∈ pairs, pair.1 ∉ kwargs) : kwargs.moveAll pairs = kwargs := by
  induction pairs with
  | nil => rfl
  | cons pair rest ih =>
      rw [List.forall_mem_cons] at h
      change (kwargs.movePair pair).moveAll rest = kwargs
      rw [Dict.movePair_of_not_mem h.1, ih h.2]

theorem conflict?_of_absent {kwargs : KwArgs α} {pairs : List (String × String)}
    (h : ∀ pair ∈ pairs, pair.1 ∉ kwargs) : conflict? pairs kwargs.keys = none := by
  induction pairs with
  | nil => rfl
  | cons pair rest ih =>
      rw [List.forall_mem_cons] at h
      rw [conflict?_cons_keys, if_neg (fun hboth => h.1 hboth.1), Dict.movePair_of_not_mem h.1,
        ih h.2]

theorem moveAll_of_isEmpty {kwargs : KwArgs α} (h : kwargs.isEmpty = true)
    (pairs : List (String × String)) : kwargs.moveAll pairs = kwargs :=
  moveAll_of_absent fun pair _ => Dict.not_mem_of_isEmpty h pair.1

theorem conflict?_of_isEmpty {kwargs : KwArgs α} (h : kwargs.isEmpty = true)
    (pairs : List (String × String)) : conflict? pairs kwargs.keys = none :=
  conflict?_of_absent fun pair _ => Dict.not_mem_of_isEmpty h pair.1

/-- A renamer refuses a call with the pair that meets both its names, or else moves the arguments
along all pairs. -/
theorem renameInPlace_cases (renamer : Renamer) (function : String) (location : Location)
    (kwargs : KwArgs α) (state : State) :
    let outcome := renamer.renameInPlace function location kwargs state
    match conflict? renamer.pairs.entries kwargs.keys with
    | some pair =>
        outcome = ⟨state, kwargs, some (.conflictingArguments function pair.2 pair.1)⟩
    | none => outcome.error = none ∧ outcome.kwargs = kwargs.moveAll renamer.pairs.entries := by
  cases hempty : kwargs.isEmpty with
  | true =>
      rw [conflict?_of_isEmpty hempty, renameInPlace_of_isEmpty renamer function location hempty,
        moveAll_of_isEmpty hempty]
      exact ⟨rfl, rfl⟩
  | false =>
      cases h : conflict? renamer.pairs.entries kwargs.keys with
      | some pair => exact renameInPlace_of_conflict renamer function location hempty h state
      | none =>
          rw [renameInPlace_of_accepted renamer function location hempty h]
          exact ⟨rfl, applyPairs_snd _ _ _ _ _ _ _⟩

theorem error_renameInPlace (renamer : Renamer) (function : String) (location : Location)
    (kwargs : KwArgs α) (state : State) :
    (renamer.renameInPlace function location kwargs state).error =
      (conflict? renamer.pairs.entries kwargs.keys).map fun pair =>
        .conflictingArguments function pair.2 pair.1 := by
  have hcases := renamer.renameInPlace_cases function location kwargs state
  cases h : conflict? renamer.pairs.entries kwargs.keys with
  | some pair =>
      rw [h] at hcases
      exact congrArg Outcome.error hcases
  | none =>
      rw [h] at hcases
      exact hcases.1

theorem renameInPlace_of_error {renamer : Renamer} {function : String} {location : Location}
    {kwargs : KwArgs α} {state : State} {error : Error}
    (h : (renamer.renameInPlace function location kwargs state).error = some error) :
    renamer.renameInPlace function location kwargs state = ⟨state, kwargs, some error⟩ := by
  have hcases := renamer.renameInPlace_cases function location kwargs state
  cases hconflict : conflict? renamer.pairs.entries kwargs.keys with
  | some pair =>
      rw [hconflict] at hcases
      change _ = (⟨state, kwargs, some (.conflictingArguments function pair.2 pair.1)⟩ :
        Outcome α) at hcases
      rw [hcases] at h ⊢
      rw [← h]
  | none =>
      rw [hconflict] at hcases
      rw [hcases.1] at h
      cases h

end Renamer

end Deprecation
