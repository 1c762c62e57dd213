import Deprecation.Proofs.Deduplication
import Deprecation.Proofs.Deeds

/-!
Where warnings are attributed to.  Every warning that is delivered while an operation runs, but not
by what runs inside it, carries the place of that operation and its stack level; what runs inside is
an operation of its own, with a place and a level of its own.  Of the occurrences of a notice the
first one decides: its place and its level are kept, and later occurrences change nothing.
-/

namespace Deprecation

namespace Action

/-- The place and the stack level that an action gives to what it delivers. -/
def attribution? : Action → Option (Location × UInt64)
  | .warn _ _ stackLevel location => some (location, stackLevel)
  | .emit _ _ stackLevel location => some (location, stackLevel)
  | .announce wrapper location => some (location, wrapper.stackLevel)
  | _ => none

theorem attribution?_of_mem_deliveries {action : Action} {state : State} {delivery : Delivery}
    (h : delivery ∈ action.deliveries state) :
    action.attribution? = some (delivery.warning.location, delivery.warning.stackLevel) := by
  rcases mem_deliveries_cases h with
    ⟨emitter, notice, stackLevel, location, rfl, -, -, rfl⟩ |
    ⟨emitter, text, stackLevel, location, rfl, rfl⟩ | ⟨wrapper, location, sink, rfl, -, rfl⟩ <;> rfl

theorem attribution?_of_isQuiet {action : Action} (h : action.isQuiet = true) :
    action.attribution? = none := by
  rcases isQuiet_cases h with rfl | ⟨event, rfl, -⟩ | ⟨enumeration, member, rfl⟩ <;> rfl

variable {registry : Address Registry} {notice : Notice}

theorem not_puts_of_isQuiet {action : Action} (h : action.isQuiet = true) :
    ¬ action.Puts registry notice := by
  rcases isQuiet_cases h with rfl | ⟨event, rfl, -⟩ | ⟨enumeration, member, rfl⟩ <;>
    exact not_false

theorem Shows.puts {action : Action} {state : State} (h : action.Shows registry notice state) :
    action.Puts registry notice := by
  obtain ⟨emitter, stackLevel, location, rfl, hregistry, -, -⟩ := h
  exact ⟨hregistry, rfl⟩

theorem warningsOf_performAll_of_mem (actions : List Action) {state : State}
    (h : notice ∈ state.registry registry) :
    (performAll actions state).journal.warningsOf (.notice registry notice) =
      state.journal.warningsOf (.notice registry notice) :=
  warningsOf_performAll_of_not_shownFirst (not_shownFirst_of_mem h)

theorem warningsOf_performAll_of_first {actions : List Action} {emitter : Emitter}
    {stackLevel : UInt64} {location : Location} {state : State}
    (hnew : notice ∉ state.registry emitter.registry)
    (honly : ∀ action ∈ actions, action.Puts emitter.registry notice →
      action = .warn emitter notice stackLevel location)
    (hput : ∃ action ∈ actions, action.Puts emitter.registry notice) :
    (performAll actions state).journal.warningsOf (.notice emitter.registry notice) =
      state.journal.warningsOf (.notice emitter.registry notice) ++
        if emitter.enabled then [⟨notice.text, stackLevel, location⟩] else [] := by
  induction actions generalizing state with
  | nil =>
      obtain ⟨action, haction, -⟩ := hput
      exact absurd haction List.not_mem_nil
  | cons action rest ih =>
      rw [List.forall_mem_cons] at honly
      rw [performAll_cons]
      by_cases hputs : action.Puts emitter.registry notice
      · -- This is the first occurrence: it finds the notice new, and all later ones find it held.
        have hheld : notice ∈ (action.perform state).registry emitter.registry :=
          (mem_registry_perform_iff action state _ notice).mpr (Or.inr hputs)
        rw [warningsOf_performAll_of_mem rest hheld, honly.1 hputs, warningsOf_perform, deliveries]
        cases emitter.enabled <;> simp [hnew, Delivery.warningsOf]
      · have hstill : notice ∉ (action.perform state).registry emitter.registry := by
          rw [mem_registry_perform_iff, not_or]
          exact ⟨hnew, hputs⟩
        have hrest : ∃ other ∈ rest, other.Puts emitter.registry notice := by
          obtain ⟨other, hother, hother_puts⟩ := hput
          rcases List.mem_cons.mp hother with rfl | hmem
          · exact absurd hother_puts hputs
          · exact ⟨other, hmem, hother_puts⟩
        rw [ih hstill honly.2 hrest, warningsOf_perform_of_not_shows fun h => hputs h.puts]

end Action

namespace Operation

/-- The place and the stack level that a call gives to the warnings delivered on its behalf.  Those
for an element that keeps its kind and its name are attributed one frame further up. -/
def attribution? : Operation → Option (Location × UInt64)
  | .warn _ _ stackLevel location => some (location, stackLevel)
  | .warnUnchanged _ _ _ _ _ stackLevel location => some (location, Emitter.levelAbove stackLevel)
  | .emit _ _ stackLevel location => some (location, stackLevel)
  | .rename renamer _ location _ => some (location, renamer.stackLevel)
  | .callRenamed function location _ _ => some (location, function.renamer.stackLevel)
  | .call wrapper location _ => some (location, wrapper.stackLevel)
  | _ => none

theorem CanDo.attribution?_eq {step : Operation} {action : Action} (h : step.CanDo action) :
    action.attribution? = step.attribution? := by
  cases h <;> rfl

/-- What a step delivers, in order. -/
def delivered (step : Operation) (state : State) : List Delivery :=
  Action.gather Action.deliveries (step.actions state) state

theorem attribution?_of_mem_delivered {step : Operation} (hstep : step.IsStep) {state : State}
    {delivery : Delivery} (h : delivery ∈ step.delivered state) :
    step.attribution? = some (delivery.warning.location, delivery.warning.stackLevel) := by
  obtain ⟨action, haction, moment, hdelivered⟩ := Action.exists_of_mem_gather h
  have hattribution := Action.attribution?_of_mem_deliveries hdelivered
  rcases mem_actions_cases hstep haction with hquiet | hdeed
  · rw [Action.attribution?_of_isQuiet hquiet] at hattribution
    cases hattribution
  · rw [← (canDo_of_mem_deeds hdeed).attribution?_eq, hattribution]

theorem take_not_mem_actions {step : Operation} (hstep : step.IsStep) {buffer : Address Buffer}
    (h : step ≠ .take buffer) (state : State) : .take buffer ∉ step.actions state := by
  intro hmem
  rcases mem_actions_cases hstep hmem with hquiet | hdeed
  · cases hquiet
  · cases canDo_of_mem_deeds hdeed
    exact h rfl

theorem deliveries_perform (step : Operation) (state : State) :
    (step.perform state).1.journal.deliveries =
      state.journal.deliveries ++ step.delivered state := by
  rw [perform_fst, Action.deliveries_performAll, delivered]

theorem warnings_perform {step : Operation} (hstep : step.IsStep) {buffer : Address Buffer}
    (h : step ≠ .take buffer) (state : State) :
    ((step.perform state).1.buffer buffer).warnings =
      (state.buffer buffer).warnings ++ Delivery.warningsTo buffer (step.delivered state) := by
  rw [perform_fst, Action.warnings_performAll (take_not_mem_actions hstep h state), delivered]

variable {registry : Address Registry} {notice : Notice}

theorem warningsOf_performAll_of_mem (steps : List Operation) {state : State}
    (h : notice ∈ state.registry registry) :
    (performAll steps state).journal.warningsOf (.notice registry notice) =
      state.journal.warningsOf (.notice registry notice) := by
  rw [performAll_eq]
  exact Action.warningsOf_performAll_of_mem _ h

theorem warningsOf_performAll_of_not_mem {steps : List Operation} {state : State}
    (h : notice ∉ (performAll steps state).registry registry) :
    (performAll steps state).journal.warningsOf (.notice registry notice) =
      state.journal.warningsOf (.notice registry notice) := by
  rw [performAll_eq] at h ⊢
  exact Action.warningsOf_performAll_of_not_shownFirst (Action.not_shownFirst_of_not_mem h)

theorem warningsOf_perform_of_mem_attempts {step : Operation} (hstep : step.IsStep) {state : State}
    {emitter : Emitter} (hattempt : (emitter, notice) ∈ step.attempts state)
    (hnew : notice ∉ state.registry emitter.registry) :
    notice ∈ (step.perform state).1.registry emitter.registry ∧
      ∃ location stackLevel, step.attribution? = some (location, stackLevel) ∧
        (step.perform state).1.journal.warningsOf (.notice emitter.registry notice) =
          state.journal.warningsOf (.notice emitter.registry notice) ++
            if emitter.enabled then [⟨notice.text, stackLevel, location⟩] else [] := by
  obtain ⟨stackLevel, location, hdeed⟩ := exists_of_mem_attempts hattempt
  have hattribution : step.attribution? = some (location, stackLevel) :=
    (canDo_of_mem_deeds hdeed).attribution?_eq.symm
  have honly : ∀ action ∈ step.actions state, action.Puts emitter.registry notice →
      action = .warn emitter notice stackLevel location := by
    intro action haction hputs
    rcases mem_actions_cases hstep haction with hquiet | hother
    · exact absurd hputs (Action.not_puts_of_isQuiet hquiet)
    · obtain ⟨shown, rfl⟩ := eq_warn_of_mem_deeds hdeed action hother
      rw [hputs.2]
  have hput : ∃ action ∈ step.actions state, action.Puts emitter.registry notice :=
    ⟨_, mem_actions_of_mem_deeds hstep hdeed, rfl, rfl⟩
  rw [perform_fst]
  exact ⟨(Action.mem_registry_performAll_iff _ state _ notice).mpr (Or.inr hput),
    location, stackLevel, hattribution, Action.warningsOf_performAll_of_first hnew honly hput⟩

end Operation

end Deprecation
