import Deprecation.Proofs.Operation
import Deprecation.Proofs.Renaming.OnePass
import Mathlib.Data.List.Nodup

/-!
What a renaming warns about.  The pairs that find their old names fire, each with a notice of its
own.  The registry gains these notices, and those that it had not seen reach the sink, in the order
of the pairs.  The name of the function is written to the log and has no other effect.
-/

namespace Deprecation

namespace Dict

variable {α : Type}

theorem fired_append (dict : Dict α) (first second : List (String × String)) :
    dict.fired (first ++ second) = dict.fired first ++ (dict.moveAll first).fired second := by
  induction first generalizing dict with
  | nil => rfl
  | cons pair rest ih =>
      change _ = _ ++ ((dict.movePair pair).moveAll rest).fired second
      rw [List.cons_append, fired, fired, ih, List.append_assoc]

theorem fired_sublist (dict : Dict α) (pairs : List (String × String)) :
    (dict.fired pairs).Sublist pairs := by
  induction pairs generalizing dict with
  | nil => exact List.Sublist.refl _
  | cons pair rest ih =>
      rw [fired]
      split
      · exact (ih _).cons_cons pair
      · exact (ih _).cons pair

theorem fired_of_absent {dict : Dict α} {pairs : List (String × String)}
    (h : ∀ pair ∈ pairs, pair.1 ∉ dict) : dict.fired pairs = [] := by
  induction pairs with
  | nil => rfl
  | cons pair rest ih =>
      rw [List.forall_mem_cons] at h
      rw [fired, if_neg h.1, movePair_of_not_mem h.1, ih h.2]
      rfl

theorem fired_of_isEmpty {dict : Dict α} (h : dict.isEmpty = true)
    (pairs : List (String × String)) : dict.fired pairs = [] :=
  fired_of_absent fun pair _ => not_mem_of_isEmpty h pair.1

theorem mem_fired_iff {dict : Dict α} {before after : List (String × String)}
    {pair : String × String} (hnodup : (before ++ pair :: after).Nodup) :
    pair ∈ dict.fired (before ++ pair :: after) ↔ pair.1 ∈ dict.moveAll before := by
  rw [List.nodup_middle, List.nodup_cons, List.mem_append, not_or] at hnodup
  have hbefore : pair ∉ dict.fired before := fun hmem =>
    hnodup.1.1 ((fired_sublist dict before).subset hmem)
  have hafter : pair ∉ ((dict.moveAll before).movePair pair).fired after := fun hmem =>
    hnodup.1.2 ((fired_sublist _ after).subset hmem)
  rw [fired_append, fired]
  simp [hbefore, hafter]

end Dict

/-- An entry of the journal as it would be if arguments were renamed for another function. -/
def Entry.forFunction (function : String) : Entry → Entry
  | .logged (.argumentRenamed _ oldName newName) =>
      .logged (.argumentRenamed function oldName newName)
  | entry => entry

namespace Renamer

variable {α : Type}

/-- The delivery of the notice of a pair. -/
def pairDelivery (renamer : Renamer) (emitter : Emitter) (location : Location)
    (pair : String × String) : Delivery :=
  ⟨.notice emitter.registry (renamer.notice pair.1 pair.2), emitter.sink,
    ⟨(renamer.notice pair.1 pair.2).text, renamer.stackLevel, location⟩⟩

/-- What a pair that fires leaves in the journal, given what the registry had seen before. -/
def pairEntries (renamer : Renamer) (emitter : Emitter) (function : String)
    (location : Location) (seen : Registry) (pair : String × String) : List Entry :=
  .logged (.argumentRenamed function pair.1 pair.2) ::
    if renamer.notice pair.1 pair.2 ∈ seen then
      [.logged (.alreadyReported (renamer.notice pair.1 pair.2))]
    else if emitter.enabled then (renamer.pairDelivery emitter location pair).entries else []

/-- The pairs with notices that a registry has not seen. -/
def unseen (renamer : Renamer) (seen : Registry) (pairs : List (String × String)) :
    List (String × String) :=
  pairs.filter fun pair => renamer.notice pair.1 pair.2 ∉ seen

theorem notice_inj {renamer : Renamer} {first second : String × String}
    (h : renamer.notice first.1 first.2 = renamer.notice second.1 second.2) : first = second := by
  obtain ⟨firstOld, firstNew⟩ := first
  obtain ⟨secondOld, secondNew⟩ := second
  simp only [notice, Notice.mk.injEq, Option.some.injEq] at h
  rw [h.2.2.1, h.2.2.2.2.1]

/-- Pairs are told apart by their old names, so that no pair of a call hides the notice of
another. -/
theorem journal_pairActions (renamer : Renamer) (emitter : Emitter) (function : String)
    (location : Location) {pairs : List (String × String)} (hnodup : pairs.Nodup)
    (state : State) :
    (Action.performAll (renamer.pairActions emitter function location pairs) state).journal =
      state.journal ++ pairs.flatMap
        (renamer.pairEntries emitter function location (state.registry emitter.registry)) := by
  induction pairs generalizing state with
  | nil => simp [pairActions]
  | cons pair rest ih =>
      rw [List.nodup_cons] at hnodup
      let logged := state.log (.argumentRenamed function pair.1 pair.2)
      let next := emitter.warn (renamer.notice pair.1 pair.2) renamer.stackLevel location logged
      have hnext : next.journal = state.journal ++ renamer.pairEntries emitter function location
          (state.registry emitter.registry) pair := by
        have hwarn := Action.journal_perform
          (.warn emitter (renamer.notice pair.1 pair.2) renamer.stackLevel location) logged
        change next.journal = logged.journal ++ _ at hwarn
        rw [hwarn, State.journal_log, Action.entries, State.registry_log, List.append_assoc]
        rfl
      have hrest : ∀ other ∈ rest,
          renamer.pairEntries emitter function location (next.registry emitter.registry) other =
            renamer.pairEntries emitter function location (state.registry emitter.registry)
              other := by
        intro other hother
        have hne : renamer.notice other.1 other.2 ≠ renamer.notice pair.1 pair.2 := fun heq =>
          hnodup.1 (notice_inj heq ▸ hother)
        have hseen : renamer.notice other.1 other.2 ∈ next.registry emitter.registry ↔
            renamer.notice other.1 other.2 ∈ state.registry emitter.registry := by
          rw [Emitter.registry_warn, if_pos rfl, Registry.mem_add, State.registry_log]
          exact or_iff_left hne
        simp only [pairEntries, hseen]
      change (Action.performAll (renamer.pairActions emitter function location rest) next).journal =
        _
      rw [ih hnodup.2, hnext, List.append_assoc, List.flatMap_cons, List.flatMap_congr hrest]

theorem mem_registry_pairActions_iff (renamer : Renamer) (emitter : Emitter) (function : String)
    (location : Location) (pairs : List (String × String)) (state : State)
    (registry : Address Registry) (notice : Notice) :
    notice ∈ (Action.performAll (renamer.pairActions emitter function location pairs)
        state).registry registry ↔
      notice ∈ state.registry registry ∨
        (registry = emitter.registry ∧ ∃ pair ∈ pairs, notice = renamer.notice pair.1 pair.2) := by
  rw [Action.mem_registry_performAll_iff]
  apply or_congr_right
  constructor
  · rintro ⟨action, haction, hputs⟩
    obtain ⟨pair, hpair, haction⟩ := List.mem_flatMap.mp haction
    rcases List.mem_pair.mp haction with rfl | rfl
    · exact hputs.elim
    · exact ⟨hputs.1.symm, pair, hpair, hputs.2.symm⟩
  · rintro ⟨rfl, pair, hpair, rfl⟩
    exact ⟨_, List.mem_flatMap.mpr ⟨pair, hpair, List.mem_pair.mpr (Or.inr rfl)⟩, rfl, rfl⟩

theorem deliveries_pairEntries (renamer : Renamer) (emitter : Emitter) (function : String)
    (location : Location) (seen : Registry) (pairs : List (String × String)) :
    Journal.deliveries (pairs.flatMap (renamer.pairEntries emitter function location seen)) =
      if emitter.enabled then (renamer.unseen seen pairs).map (renamer.pairDelivery emitter location)
      else [] := by
  induction pairs with
  | nil => simp [unseen]
  | cons pair rest ih =>
      rw [List.flatMap_cons, Journal.deliveries_append, ih, pairEntries, unseen, unseen]
      by_cases h : renamer.notice pair.1 pair.2 ∈ seen <;> cases emitter.enabled <;> simp [h]

theorem events_pairEntries (renamer : Renamer) (emitter : Emitter) (function : String)
    (location : Location) (seen : Registry) (pairs : List (String × String)) :
    Journal.events (pairs.flatMap (renamer.pairEntries emitter function location seen)) =
      pairs.flatMap fun pair =>
        .argumentRenamed function pair.1 pair.2 ::
          if renamer.notice pair.1 pair.2 ∈ seen then
            [.alreadyReported (renamer.notice pair.1 pair.2)]
          else if emitter.enabled then (renamer.pairDelivery emitter location pair).events
          else [] := by
  induction pairs with
  | nil => rfl
  | cons pair rest ih =>
      rw [List.flatMap_cons, Journal.events_append, ih, List.flatMap_cons, pairEntries]
      by_cases h : renamer.notice pair.1 pair.2 ∈ seen <;> cases emitter.enabled <;> simp [h]

theorem map_forFunction_pairEntries (renamer : Renamer) (emitter : Emitter) (function : String)
    (location : Location) (seen : Registry) (other : String) (pair : String × String) :
    (renamer.pairEntries emitter function location seen pair).map (Entry.forFunction other) =
      renamer.pairEntries emitter other location seen pair := by
  have hentries (delivery : Delivery) :
      delivery.entries.map (Entry.forFunction other) = delivery.entries := by
    obtain ⟨source, sink, warning⟩ := delivery
    cases sink <;> rfl
  rw [pairEntries, pairEntries, List.map_cons, apply_ite (List.map _), apply_ite (List.map _),
    hentries]
  rfl

theorem agreesWith_pairActions (renamer : Renamer) (emitter : Emitter) (function other : String)
    (location : Location) (pairs : List (String × String)) {first second : State}
    (h : first.AgreesWith second) :
    (Action.performAll (renamer.pairActions emitter function location pairs) first).AgreesWith
      (Action.performAll (renamer.pairActions emitter other location pairs) second) := by
  induction pairs generalizing first second with
  | nil => exact h
  | cons pair rest ih =>
      exact ih (((h.log _).symm.log _).symm.warn emitter _ _ _)

theorem warnings_pairActions (renamer : Renamer) (emitter : Emitter) (function : String)
    (location : Location) {pairs : List (String × String)} (hnodup : pairs.Nodup) (state : State)
    (buffer : Address Buffer) :
    ((Action.performAll (renamer.pairActions emitter function location pairs) state).buffer
        buffer).warnings =
      (state.buffer buffer).warnings ++
        if emitter.enabled = true ∧ emitter.sink = .capture buffer then
          (renamer.unseen (state.registry emitter.registry) pairs).map fun pair =>
            (renamer.pairDelivery emitter location pair).warning
        else [] := by
  have hkept : .take buffer ∉ renamer.pairActions emitter function location pairs := by
    simp [pairActions]
  have hadded := Action.deliveries_performAll
    (renamer.pairActions emitter function location pairs) state
  rw [journal_pairActions renamer emitter function location hnodup, Journal.deliveries_append,
    deliveries_pairEntries, List.append_cancel_left_eq] at hadded
  rw [Action.warnings_performAll hkept, ← hadded]
  cases emitter.enabled with
  | false => simp
  | true =>
      by_cases hsink : emitter.sink = .capture buffer <;>
        simp [Delivery.warningsTo, pairDelivery, hsink, List.filterMap_map]

theorem conflict?_of_accepted {renamer : Renamer} {function : String} {location : Location}
    {kwargs : KwArgs α} {state : State}
    (h : (renamer.renameInPlace function location kwargs state).error = none) :
    conflict? renamer.pairs.entries kwargs.keys = none := by
  have hcases := renamer.renameInPlace_cases function location kwargs state
  cases hconflict : conflict? renamer.pairs.entries kwargs.keys with
  | some pair =>
      rw [hconflict] at hcases
      rw [congrArg Outcome.error hcases] at h
      cases h
  | none => rfl

theorem renameInPlace_eq_of_accepted {renamer : Renamer} {kwargs : KwArgs α}
    (h : conflict? renamer.pairs.entries kwargs.keys = none) (function : String)
    (location : Location) (state : State) :
    renamer.renameInPlace function location kwargs state =
      ⟨(renamer.renameInPlace function location kwargs state).state,
        kwargs.moveAll renamer.pairs.entries, none⟩ := by
  have hcases := renamer.renameInPlace_cases function location kwargs state
  rw [h] at hcases
  rw [← hcases.1, ← hcases.2]

theorem exists_start_of_accepted {renamer : Renamer} {kwargs : KwArgs α}
    (h : conflict? renamer.pairs.entries kwargs.keys = none) (location : Location)
    (state : State) :
    ∃ start : State, start.AgreesWith state ∧ start.journal = state.journal ∧
      ∀ function, (renamer.renameInPlace function location kwargs state).state =
        Action.performAll (renamer.pairActions (state.resolve renamer.route).2 function location
          (kwargs.fired renamer.pairs.entries)) start := by
  cases hempty : kwargs.isEmpty with
  | true =>
      refine ⟨state, State.AgreesWith.refl state, rfl, ?_⟩
      intro function
      rw [renameInPlace_of_isEmpty renamer function location hempty, Dict.fired_of_isEmpty hempty]
      rfl
  | false =>
      refine ⟨(state.resolve renamer.route).1, (State.AgreesWith.resolve state renamer.route).symm,
        State.journal_resolve state renamer.route, ?_⟩
      intro function
      rw [renameInPlace_of_accepted renamer function location hempty h]
      exact applyPairs_fst _ _ _ _ _ _ _

theorem rename_of_accepted {renamer : Renamer} {kwargs : KwArgs α}
    (h : conflict? renamer.pairs.entries kwargs.keys = none) (function : String)
    (location : Location) (state : State) :
    let done := renamer.renameInPlace function location kwargs state
    renamer.rename function location kwargs state = (done.state, .ok done.kwargs) := by
  intro done
  have hdone : done = ⟨done.state, kwargs.moveAll renamer.pairs.entries, none⟩ :=
    renameInPlace_eq_of_accepted h function location state
  change done.answer = _
  rw [hdone]
  rfl

end Renamer

end Deprecation
