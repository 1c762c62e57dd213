import Deprecation.Proofs.Renaming.Moves
import Mathlib.Data.List.Induction

/-!
Renaming in one pass, and that trying all pairs first comes to the same.  The single pass warns and
moves while it goes, and stops in the middle when a pair meets both its names.
-/

namespace Deprecation

namespace Dict

variable {α : Type}

/-- Takes out a key and puts a value under a new name at the end. -/
def moveToEnd (dict : Dict α) (oldName newName : String) (value : α) (h : newName ∉ dict) :
    Dict α where
  entries := (dict.entries.filter fun entry => entry.1 ≠ oldName) ++ [(newName, value)]
  nodup := by
    rw [List.map_append]
    refine List.nodup_append.mpr ⟨(dict.erase oldName).nodup, by simp, ?_⟩
    intro first hfirst second hsecond
    rw [List.mem_singleton.mp hsecond]
    rintro rfl
    exact h (mem_erase.mp hfirst).1

theorem moveToEnd_eq_movePair {dict : Dict α} {pair : String × String} {value : α}
    (hold : dict.get? pair.1 = some value) (hnew : pair.2 ∉ dict) :
    dict.moveToEnd pair.1 pair.2 value hnew = dict.movePair pair :=
  Dict.ext (entries_movePair hold hnew).symm

theorem ofList_concat (entries : List (String × α)) (entry : String × α) :
    ofList (entries ++ [entry]) = (ofList entries).insert entry.1 entry.2 := by
  simp [ofList]

theorem keys_ofList (entries : List (String × α)) :
    (ofList entries).keys = (entries.map Prod.fst).eraseDups := by
  induction entries using List.reverseRecOn with
  | nil => rfl
  | append_singleton entries entry ih =>
      rw [ofList_concat, List.map_append, List.eraseDups_append, ← ih]
      have hmem : entry.1 ∈ entries.map Prod.fst ↔ entry.1 ∈ ofList entries := by
        rw [mem_def, ih, List.mem_eraseDups]
      by_cases h : entry.1 ∈ ofList entries
      · rw [keys_insert_of_mem _ h]
        simp [List.removeAll, hmem.mpr h, -List.mem_map]
      · rw [keys_insert_of_not_mem _ h]
        simp [List.removeAll, mt hmem.mp h, List.eraseDups_cons, -List.mem_map]

theorem get?_ofList (entries : List (String × α)) (key : String) :
    (ofList entries).get? key = entries.reverse.lookup key := by
  induction entries using List.reverseRecOn with
  | nil => rfl
  | append_singleton entries entry ih =>
      rw [ofList_concat, get?_insert, ih, List.reverse_concat, List.lookup_cons]
      rcases eq_or_ne key entry.1 with rfl | hne
      · simp
      · simp [hne, beq_eq_false_iff_ne.mpr hne]

end Dict

/-- The registries, the buffers and the warnings delivered so far are the same. -/
structure State.AgreesWith (first second : State) : Prop where
  registry : ∀ address, first.registry address = second.registry address
  buffer : ∀ address, first.buffer address = second.buffer address
  deliveries : first.journal.deliveries = second.journal.deliveries

namespace State.AgreesWith

variable {first second : State}

theorem refl (state : State) : state.AgreesWith state :=
  ⟨fun _ => rfl, fun _ => rfl, rfl⟩

theorem symm (h : first.AgreesWith second) : second.AgreesWith first :=
  ⟨fun address => (h.registry address).symm, fun address => (h.buffer address).symm,
    h.deliveries.symm⟩

theorem resolve (state : State) (route : Route) : state.AgreesWith (state.resolve route).1 where
  registry address := (registry_resolve state route address).symm
  buffer address := (buffer_resolve state route address).symm
  deliveries := by rw [journal_resolve]

theorem log (h : first.AgreesWith second) (event : Event) :
    (first.log event).AgreesWith second where
  registry := h.registry
  buffer := h.buffer
  deliveries := by
    rw [journal_log, Journal.deliveries_append, Journal.deliveries_logged, List.append_nil,
      h.deliveries]

theorem warn (h : first.AgreesWith second) (emitter : Emitter) (notice : Notice)
    (stackLevel : UInt64) (location : Location) :
    (emitter.warn notice stackLevel location first).AgreesWith
      (emitter.warn notice stackLevel location second) where
  registry address := by
    rw [Emitter.registry_warn, Emitter.registry_warn, h.registry, h.registry]
  buffer address := by
    rw [Emitter.buffer_warn, Emitter.buffer_warn, h.registry, h.buffer]
  deliveries := by
    rw [Emitter.deliveries_warn, Emitter.deliveries_warn, h.registry, h.deliveries]

end State.AgreesWith

namespace Renamer

variable {α : Type}

/-- The single pass: each pair in its turn is skipped, stops the pass, or warns and moves. -/
def onePass (renamer : Renamer) (emitter : Emitter) (function : String) (location : Location) :
    List (String × String) → KwArgs α → State → Outcome α
  | [], kwargs, state => ⟨state, kwargs, none⟩
  | (oldName, newName) :: rest, kwargs, state =>
      match kwargs.get? oldName with
      | none => onePass renamer emitter function location rest kwargs state
      | some value =>
          if h : newName ∈ kwargs then
            ⟨state, kwargs, some (.conflictingArguments function newName oldName)⟩
          else
            onePass renamer emitter function location rest
              (kwargs.moveToEnd oldName newName value h)
              (emitter.warn (renamer.notice oldName newName) renamer.stackLevel location state)

def renameOnePass (renamer : Renamer) (function : String) (location : Location)
    (kwargs : KwArgs α) (state : State) : Outcome α :=
  renamer.onePass (state.resolve renamer.route).2 function location renamer.pairs.entries kwargs
    (state.resolve renamer.route).1

variable {renamer : Renamer} {emitter : Emitter} {function : String} {location : Location}

theorem onePass_of_refused {pairs : List (String × String)} {kwargs : KwArgs α} {state : State}
    {pair : String × String} (h : conflict? pairs kwargs.keys = some pair) :
    (renamer.onePass emitter function location pairs kwargs state).error =
      some (.conflictingArguments function pair.2 pair.1) := by
  induction pairs generalizing kwargs state with
  | nil => simp [conflict?] at h
  | cons first rest ih =>
      rw [conflict?_cons_keys] at h
      rw [onePass]
      cases hold : kwargs.get? first.1 with
      | none =>
          have habsent := Dict.get?_eq_none_iff.mp hold
          rw [if_neg (fun hboth => habsent hboth.1), Dict.movePair_of_not_mem habsent] at h
          exact ih h
      | some value =>
          have hpresent := Dict.mem_of_get? hold
          by_cases hnew : first.2 ∈ kwargs
          · rw [if_pos ⟨hpresent, hnew⟩] at h
            obtain rfl := Option.some.inj h
            simp [hnew]
          · rw [if_neg (fun hboth => hnew hboth.2),
              ← Dict.moveToEnd_eq_movePair hold hnew] at h
            simp only [hnew, dite_false]
            exact ih h

/-- Where the names are accepted, both ways warn and move in lockstep. -/
theorem onePass_of_accepted (renamer : Renamer) (emitter : Emitter) (function : String)
    (location : Location) {pairs : List (String × String)} {kwargs : KwArgs α}
    {first second : State} (h : conflict? pairs kwargs.keys = none)
    (hagree : first.AgreesWith second) :
    let naive := renamer.onePass emitter function location pairs kwargs second
    naive.error = none ∧ naive.kwargs = kwargs.moveAll pairs ∧
      (renamer.applyPairs emitter function location pairs kwargs first).1.AgreesWith
        naive.state := by
  induction pairs generalizing kwargs first second with
  | nil => exact ⟨rfl, rfl, hagree⟩
  | cons pair rest ih =>
      rw [conflict?_cons_keys] at h
      rw [onePass, applyPairs,
        show kwargs.moveAll (pair :: rest) = (kwargs.movePair pair).moveAll rest from rfl]
      cases hold : kwargs.get? pair.1 with
      | none =>
          have habsent := Dict.get?_eq_none_iff.mp hold
          rw [if_neg (fun hboth => habsent hboth.1)] at h
          rw [Dict.movePair_of_not_mem habsent] at h ⊢
          exact ih h hagree
      | some value =>
          have hnew : pair.2 ∉ kwargs := by
            intro hnew
            rw [if_pos ⟨Dict.mem_of_get? hold, hnew⟩] at h
            cases h
          rw [if_neg (fun hboth => hnew hboth.2)] at h
          simp only [hnew, dite_false, Dict.moveToEnd_eq_movePair hold hnew]
          rw [applyPair, ← Dict.movePair_of_get? hold]
          exact ih h ((hagree.log _).warn emitter _ _ _)

theorem onePass_of_isEmpty {kwargs : KwArgs α} (hempty : kwargs.isEmpty = true)
    (pairs : List (String × String)) (state : State) :
    renamer.onePass emitter function location pairs kwargs state = ⟨state, kwargs, none⟩ := by
  induction pairs with
  | nil => rfl
  | cons pair rest ih =>
      have habsent : kwargs.get? pair.1 = none := by
        rw [Dict.get?, List.isEmpty_iff.mp hempty]
        rfl
      rw [onePass, habsent]
      exact ih

theorem renameOnePass_of_accepted (renamer : Renamer) (function : String) (location : Location)
    {kwargs : KwArgs α} (state : State) (h : conflict? renamer.pairs.entries kwargs.keys = none) :
    (renamer.renameOnePass function location kwargs state).error = none ∧
      (renamer.renameInPlace function location kwargs state).kwargs =
        (renamer.renameOnePass function location kwargs state).kwargs ∧
      (renamer.renameInPlace function location kwargs state).state.AgreesWith
        (renamer.renameOnePass function location kwargs state).state := by
  cases hempty : kwargs.isEmpty with
  | true =>
      rw [renameInPlace_of_isEmpty renamer function location hempty, renameOnePass,
        onePass_of_isEmpty hempty]
      exact ⟨rfl, rfl, State.AgreesWith.resolve state renamer.route⟩
  | false =>
      rw [renameInPlace_of_accepted renamer function location hempty h, renameOnePass]
      obtain ⟨herror, hkwargs, hagree⟩ :=
        onePass_of_accepted renamer (state.resolve renamer.route).2 function location h
          (State.AgreesWith.refl (state.resolve renamer.route).1)
      exact ⟨herror, (applyPairs_snd _ _ _ _ _ _ _).trans hkwargs.symm, hagree⟩

/-- Trying all pairs on the names first refines the single pass, for every list of pairs that is
declared.  Both answer the same error; without one they leave the same arguments, registries,
buffers and deliveries, and no move meets a name that is there; with one, the first leaves the
arguments and the state as they were. -/
theorem rename_refines_onePass (renamer : Renamer) (pairs : List (String × String))
    (function : String) (location : Location) (kwargs : KwArgs α) (state : State) :
    let declared : Renamer := { renamer with pairs := Dict.ofList pairs }
    let done := declared.renameInPlace function location kwargs state
    let naive := declared.renameOnePass function location kwargs state
    (declared.pairs.keys = (pairs.map Prod.fst).eraseDups ∧
        ∀ oldName, declared.pairs.get? oldName = pairs.reverse.lookup oldName) ∧
      done.error = naive.error ∧
      (done.error = none →
        done.kwargs = naive.kwargs ∧ done.state.AgreesWith naive.state ∧
          ∀ before pair after emitter start, declared.pairs.entries = before ++ pair :: after →
            let live := (declared.applyPairs emitter function location before kwargs start).2
            pair.1 ∈ live → pair.2 ∉ live) ∧
      (done.error ≠ none → done.kwargs = kwargs ∧ done.state = state) := by
  intro declared done naive
  have hcases := declared.renameInPlace_cases function location kwargs state
  refine ⟨⟨Dict.keys_ofList pairs, Dict.get?_ofList pairs⟩, ?_⟩
  cases h : conflict? declared.pairs.entries kwargs.keys with
  | some pair =>
      rw [h] at hcases
      have hdone : done = ⟨state, kwargs, some (.conflictingArguments function pair.2 pair.1)⟩ :=
        hcases
      have hnaive : naive.error = some (.conflictingArguments function pair.2 pair.1) :=
        onePass_of_refused h
      rw [hdone, hnaive]
      exact ⟨rfl, fun hnone => (Option.some_ne_none _ hnone).elim, fun _ => ⟨rfl, rfl⟩⟩
  | none =>
      rw [h] at hcases
      have hdone : done.error = none := hcases.1
      obtain ⟨hnaive, hkwargs, hagree⟩ :=
        declared.renameOnePass_of_accepted function location state h
      refine ⟨hdone.trans hnaive.symm, fun _ => ⟨hkwargs, hagree, ?_⟩, fun hne => (hne hdone).elim⟩
      intro before pair after emitter start hsplit
      rw [applyPairs_snd]
      exact not_mem_moveAll_of_accepted (hsplit ▸ h)

end Renamer

end Deprecation
