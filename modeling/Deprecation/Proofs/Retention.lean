import Deprecation.Proofs.Frame

/-!
Warnings that a buffer retains.  However many emitters write to a buffer, and whenever it is emptied,
what it gave back and what it still holds are together what was delivered to it, in the order of
delivery.  Emptying a buffer touches no registry: a notice that was attempted before stays seen.
-/

namespace Deprecation

namespace Operation

/-- What a step gives back if it empties a buffer. -/
def taken (buffer : Address Buffer) : Operation → State → List Warning
  | .take target, state => if target = buffer then (state.take target).2 else []
  | _, _ => []

/-- What the steps of a run give back from a buffer, in order. -/
def takenAll (buffer : Address Buffer) : List Operation → State → List Warning
  | [], _ => []
  | step :: rest, state => step.taken buffer state ++ takenAll buffer rest (step.perform state).1

/-- What the steps of a run deliver, in order. -/
def deliveredAll : List Operation → State → List Delivery
  | [], _ => []
  | step :: rest, state => step.delivered state ++ deliveredAll rest (step.perform state).1

theorem taken_of_ne {step : Operation} {buffer : Address Buffer} (h : step ≠ .take buffer)
    (state : State) : step.taken buffer state = [] := by
  cases step with
  | take target =>
      refine if_neg fun htarget => h ?_
      rw [htarget]
  | _ => rfl

theorem taken_take (buffer : Address Buffer) (state : State) :
    (take buffer).taken buffer state = state.captured (.capture buffer) :=
  if_pos rfl

theorem captured_perform_take (buffer : Address Buffer) (state : State) :
    ((take buffer).perform state).1.captured (.capture buffer) = [] :=
  congrArg Buffer.warnings ((State.buffer_take state buffer buffer).trans (if_pos rfl))

/-- A step moves warnings out of a buffer, or delivers warnings to it, and loses none. -/
theorem taken_append_captured_perform {step : Operation} (hstep : step.IsStep)
    (buffer : Address Buffer) (state : State) :
    step.taken buffer state ++ (step.perform state).1.captured (.capture buffer) =
      state.captured (.capture buffer) ++ Delivery.warningsTo buffer (step.delivered state) := by
  rcases Classical.em (step = .take buffer) with rfl | htake
  · rw [taken_take, captured_perform_take, List.append_nil]
    exact (List.append_nil _).symm
  · rw [taken_of_ne htake, List.nil_append]
    exact warnings_perform hstep htake state

theorem deliveries_performAll (steps : List Operation) (state : State) :
    (performAll steps state).journal.deliveries =
      state.journal.deliveries ++ deliveredAll steps state := by
  induction steps generalizing state with
  | nil =>
      rw [performAll]
      exact (List.append_nil _).symm
  | cons step rest ih =>
      rw [performAll, ih, deliveries_perform, deliveredAll, List.append_assoc]

theorem takenAll_append_captured {steps : List Operation} (hsteps : ∀ step ∈ steps, step.IsStep)
    (buffer : Address Buffer) (state : State) :
    takenAll buffer steps state ++ (performAll steps state).captured (.capture buffer) =
      state.captured (.capture buffer) ++
        Delivery.warningsTo buffer (deliveredAll steps state) := by
  induction steps generalizing state with
  | nil =>
      rw [performAll]
      exact (List.append_nil _).symm
  | cons step rest ih =>
      rw [List.forall_mem_cons] at hsteps
      let next := (step.perform state).1
      calc
        takenAll buffer (step :: rest) state ++
              (performAll (step :: rest) state).captured (.capture buffer) =
            step.taken buffer state ++ (takenAll buffer rest next ++
              (performAll rest next).captured (.capture buffer)) := by
          rw [takenAll, performAll, List.append_assoc]
        _ = step.taken buffer state ++ (next.captured (.capture buffer) ++
              Delivery.warningsTo buffer (deliveredAll rest next)) := by
          rw [ih hsteps.2]
        _ = (state.captured (.capture buffer) ++
                Delivery.warningsTo buffer (step.delivered state)) ++
              Delivery.warningsTo buffer (deliveredAll rest next) := by
          rw [← List.append_assoc, taken_append_captured_perform hsteps.1]
        _ = state.captured (.capture buffer) ++
              Delivery.warningsTo buffer (deliveredAll (step :: rest) state) := by
          rw [deliveredAll, Delivery.warningsTo_append, List.append_assoc]

theorem exists_step_of_mem_deliveredAll {steps : List Operation}
    (hsteps : ∀ step ∈ steps, step.IsStep) {state : State} {delivery : Delivery}
    (h : delivery ∈ deliveredAll steps state) :
    ∃ before step after emitter, steps = before ++ step :: after ∧
      step.emitter? (performAll before state) = some emitter ∧ emitter.enabled = true ∧
      delivery.sink = emitter.sink := by
  induction steps generalizing state with
  | nil => exact absurd h List.not_mem_nil
  | cons first rest ih =>
      rw [List.forall_mem_cons] at hsteps
      rcases List.mem_append.mp h with hfirst | hrest
      · obtain ⟨emitter, hemitter, henabled, hsink⟩ :=
          exists_emitter_of_mem_delivered hsteps.1 hfirst
        refine ⟨[], first, rest, emitter, rfl, ?_, henabled, hsink⟩
        rwa [performAll]
      · obtain ⟨before, step, after, emitter, rfl, hemitter, hsink⟩ := ih hsteps.2 hrest
        refine ⟨first :: before, step, after, emitter, rfl, ?_, hsink⟩
        rwa [performAll]

theorem mem_registry_of_mem_attemptsAll {steps : List Operation}
    (hsteps : ∀ step ∈ steps, step.IsStep) {state : State} {emitter : Emitter} {notice : Notice}
    (h : (emitter, notice) ∈ attemptsAll steps state) :
    notice ∈ (performAll steps state).registry emitter.registry := by
  rw [← filterMap_attempt?_actionsAll hsteps] at h
  obtain ⟨action, haction, hattempt⟩ := List.mem_filterMap.mp h
  obtain ⟨stackLevel, location, rfl⟩ := Action.eq_warn_of_attempt? hattempt
  rw [performAll_eq, Action.mem_registry_performAll_iff]
  exact Or.inr ⟨_, haction, rfl, rfl⟩

theorem mem_registry_performAll_of_mem {registry : Address Registry} {notice : Notice}
    (steps : List Operation) {state : State} (h : notice ∈ state.registry registry) :
    notice ∈ (performAll steps state).registry registry := by
  rw [performAll_eq]
  exact Action.mem_registry_performAll_of_mem _ h

end Operation

/-- At every moment of a run, what a buffer has given back so far, followed by what it holds, is what
it held at first, followed by what enabled emitters over it have delivered since, in order.  Its
texts, its size and whether it is empty tell what it holds.  Emptying a buffer gives back all that
it holds and leaves every registry as it is; a notice that was attempted before is held from then
on, and nothing is ever delivered again on its behalf. -/
theorem captured_warnings_conserved (operations : List Operation) (state : State) :
    let steps := Operation.stepsAll operations state
    Operation.performAll steps state = Operation.performAll operations state ∧
      (∀ before after, steps = before ++ after →
        let moment := Operation.performAll before state
        let delivered := Operation.deliveredAll before state
        moment.journal.deliveries = state.journal.deliveries ++ delivered ∧
          (∀ delivery ∈ delivered, ∃ earlier step later emitter,
            before = earlier ++ step :: later ∧
              step.emitter? (Operation.performAll earlier state) = some emitter ∧
              emitter.enabled = true ∧ delivery.sink = emitter.sink) ∧
          ∀ buffer,
            let held := moment.captured (.capture buffer)
            Operation.takenAll buffer before state ++ held =
                state.captured (.capture buffer) ++ Delivery.warningsTo buffer delivered ∧
              (moment.buffer buffer).texts = held.map Warning.text ∧
              (moment.buffer buffer).size = held.length ∧
              ((moment.buffer buffer).isEmpty = true ↔ held.length = 0)) ∧
      ∀ before buffer after, steps = before ++ .take buffer :: after →
        let moment := Operation.performAll before state
        let next := ((Operation.take buffer).perform moment).1
        (Operation.take buffer).taken buffer moment = moment.captured (.capture buffer) ∧
          next.captured (.capture buffer) = [] ∧
          (∀ registry, next.registry registry = moment.registry registry) ∧
          ∀ emitter notice, (emitter, notice) ∈ Operation.attemptsAll before state →
            ∀ between rest, after = between ++ rest →
              let later := Operation.performAll between next
              notice ∈ later.registry emitter.registry ∧
                later.journal.warningsOf (.notice emitter.registry notice) =
                  moment.journal.warningsOf (.notice emitter.registry notice) := by
  intro steps
  have hsteps : ∀ step ∈ steps, step.IsStep := Operation.isStep_of_mem_stepsAll operations state
  have hbefore : ∀ {before after}, steps = before ++ after → ∀ step ∈ before, step.IsStep := by
    intro before after hsplit step hstep
    refine hsteps step ?_
    rw [hsplit]
    exact List.mem_append_left _ hstep
  refine ⟨Operation.performAll_stepsAll operations state, ?_, ?_⟩
  · intro before after hsplit moment delivered
    refine ⟨Operation.deliveries_performAll before state,
      fun delivery => Operation.exists_step_of_mem_deliveredAll (hbefore hsplit), ?_⟩
    intro buffer held
    exact ⟨Operation.takenAll_append_captured (hbefore hsplit) buffer state, rfl, rfl,
      Buffer.isEmpty_iff _⟩
  · intro before buffer after hsplit moment next
    refine ⟨Operation.taken_take buffer moment, Operation.captured_perform_take buffer moment,
      State.registry_take moment buffer, ?_⟩
    intro emitter notice hattempt between rest _ later
    have hseen : notice ∈ moment.registry emitter.registry :=
      Operation.mem_registry_of_mem_attemptsAll (hbefore hsplit) hattempt
    have hlater : later = Operation.performAll (.take buffer :: between) moment := by
      rw [Operation.performAll]
    rw [hlater]
    exact ⟨Operation.mem_registry_performAll_of_mem _ hseen,
      Operation.warningsOf_performAll_of_mem _ hseen⟩

end Deprecation
