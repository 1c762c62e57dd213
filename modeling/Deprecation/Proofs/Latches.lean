import Deprecation.Proofs.Deeds

/-!
What fires a latch.  A latch that has fired stays so, and no call of the library fires one but the
call of a wrapper, which fires that of the wrapper, and firing a latch itself.  On behalf of a latch
something is delivered only by a call that finds it not fired.
-/

namespace Deprecation

namespace Action

/-- The latch that an action fires. -/
def latch? : Action → Option (Address Latch)
  | .announce wrapper _ => some wrapper.latch
  | .fire latch => some latch
  | _ => none

theorem latch?_of_isQuiet {action : Action} (h : action.isQuiet = true) :
    action.latch? = none := by
  rcases isQuiet_cases h with rfl | ⟨event, rfl, -⟩ | ⟨enumeration, member, rfl⟩ <;> rfl

theorem latches_perform_cases (action : Action) (state : State) :
    let after := (action.perform state).latches
    (∃ latch, action.latch? = some latch ∧ after = state.latches.set latch ⟨true⟩) ∨
      (action.latch? = none ∧ after = (state.latches.alloc {}).1) ∨
      (action.latch? = none ∧ after = state.latches) := by
  cases action with
  | announce wrapper location =>
      exact Or.inl ⟨wrapper.latch, rfl, wrapper.latches_announce location state⟩
  | fire latch => exact Or.inl ⟨latch, rfl, rfl⟩
  | newLatch => exact Or.inr (Or.inl ⟨rfl, rfl⟩)
  | resolve => exact Or.inr (Or.inr ⟨rfl, State.latches_sharedEmitter state⟩)
  | install emitter =>
      refine Or.inr (Or.inr ⟨rfl, ?_⟩)
      simp only [perform, State.install]
      split <;> rfl
  | insert registry notice =>
      exact Or.inr (Or.inr ⟨rfl, State.latches_insert state registry notice⟩)
  | warn emitter notice stackLevel location =>
      exact Or.inr (Or.inr ⟨rfl, emitter.latches_warn notice stackLevel location state⟩)
  | emit emitter text stackLevel location =>
      exact Or.inr (Or.inr ⟨rfl, emitter.latches_send _ _ state⟩)
  | _ => exact Or.inr (Or.inr ⟨rfl, rfl⟩)

theorem latch_perform (action : Action) (state : State) (address : Address Latch) :
    (action.perform state).latch address =
      if action.latch? = some address then ⟨true⟩ else state.latch address := by
  rcases latches_perform_cases action state with ⟨latch, hlatch, h⟩ | ⟨hlatch, h⟩ | ⟨hlatch, h⟩
  · rw [State.latch, h, Cells.get_set, hlatch]
    simp only [Option.some.injEq, eq_comm]
    rfl
  · rw [State.latch, h, hlatch]
    exact Cells.get_alloc_default _ _
  · rw [State.latch, h, hlatch]
    rfl

theorem fired_perform_iff (action : Action) (state : State) (address : Address Latch) :
    ((action.perform state).latch address).fired = true ↔
      (state.latch address).fired = true ∨ action.latch? = some address := by
  rw [latch_perform]
  split
  · next h => simp [h]
  · next h => simp [h]

theorem fired_performAll_iff (actions : List Action) (state : State) (address : Address Latch) :
    ((performAll actions state).latch address).fired = true ↔
      (state.latch address).fired = true ∨ ∃ action ∈ actions, action.latch? = some address := by
  induction actions generalizing state with
  | nil => simp
  | cons action rest ih =>
      simp only [performAll_cons, ih, fired_perform_iff, or_assoc, List.mem_cons,
        exists_eq_or_imp]

theorem latch_performAll_of_ne {actions : List Action} {address : Address Latch}
    (h : ∀ action ∈ actions, action.latch? ≠ some address) (state : State) :
    (performAll actions state).latch address = state.latch address := by
  induction actions generalizing state with
  | nil => rfl
  | cons action rest ih =>
      rw [List.forall_mem_cons] at h
      rw [performAll_cons, ih h.2, latch_perform, if_neg h.1]

theorem fresh_le_perform (action : Action) (state : State) :
    state.latches.fresh.index ≤ (action.perform state).latches.fresh.index := by
  rcases latches_perform_cases action state with ⟨latch, -, h⟩ | ⟨-, h⟩ | ⟨-, h⟩
  · rw [h]
    exact Cells.fresh_le_set _ _ _
  · rw [h]
    exact Nat.le_of_lt (Cells.fresh_lt_alloc _ _)
  · exact Nat.le_of_eq (by rw [h])

theorem fresh_le_performAll (actions : List Action) (state : State) :
    state.latches.fresh.index ≤ (performAll actions state).latches.fresh.index := by
  induction actions generalizing state with
  | nil => exact Nat.le_refl _
  | cons action rest ih =>
      exact Nat.le_trans (fresh_le_perform action state) (ih (action.perform state))

theorem latch?_of_mem_deliveries {action : Action} {state : State} {delivery : Delivery}
    {address : Address Latch} (h : delivery ∈ action.deliveries state)
    (hsource : delivery.source = .wrapper address) :
    action.latch? = some address ∧ (state.latch address).fired = false := by
  rcases mem_deliveries_cases h with
    ⟨emitter, shown, stackLevel, location, rfl, -, -, rfl⟩ |
    ⟨emitter, text, stackLevel, location, rfl, rfl⟩ |
    ⟨wrapper, location, sink, rfl, hwarned, rfl⟩
  · cases hsource
  · cases hsource
  · obtain rfl := Source.wrapper.inj hsource
    exact ⟨rfl, hwarned⟩

theorem warningsOf_perform_of_latch? {action : Action} {state : State}
    {address : Address Latch}
    (h : action.latch? = some address → (state.latch address).fired = true) :
    (action.perform state).journal.warningsOf (.wrapper address) =
      state.journal.warningsOf (.wrapper address) := by
  have hnone : ∀ delivery ∈ action.deliveries state, delivery.source ≠ .wrapper address := by
    intro delivery hdelivery hsource
    obtain ⟨hlatch, hfired⟩ := latch?_of_mem_deliveries hdelivery hsource
    exact Bool.noConfusion (hfired.symm.trans (h hlatch))
  rw [warningsOf_perform, Delivery.warningsOf_eq_nil hnone, List.append_nil]

theorem warningsOf_performAll_of_latch? {actions : List Action} {state : State}
    {address : Address Latch}
    (h : (∃ action ∈ actions, action.latch? = some address) →
      (state.latch address).fired = true) :
    (performAll actions state).journal.warningsOf (.wrapper address) =
      state.journal.warningsOf (.wrapper address) := by
  induction actions generalizing state with
  | nil => rfl
  | cons action rest ih =>
      have hnext : (∃ other ∈ rest, other.latch? = some address) →
          ((action.perform state).latch address).fired = true := by
        rintro ⟨other, hother, hlatch⟩
        rw [fired_perform_iff]
        exact Or.inl (h ⟨other, List.mem_cons_of_mem _ hother, hlatch⟩)
      rw [performAll_cons, ih hnext]
      exact warningsOf_perform_of_latch? fun hlatch => h ⟨action, List.mem_cons_self, hlatch⟩

end Action

namespace Operation

/-- The latch that a step fires. -/
def latch? : Operation → Option (Address Latch)
  | .call wrapper _ _ => some wrapper.latch
  | .fire latch => some latch
  | _ => none

theorem CanDo.latch?_eq {step : Operation} {action : Action} (h : step.CanDo action) :
    action.latch? = step.latch? := by
  cases h <;> rfl

theorem exists_latch?_iff {step : Operation} (h : step.IsStep) (state : State)
    (address : Address Latch) :
    (∃ action ∈ step.actions state, action.latch? = some address) ↔
      step.latch? = some address := by
  constructor
  · rintro ⟨action, haction, hlatch⟩
    rcases mem_actions_cases h haction with hquiet | hdeed
    · rw [Action.latch?_of_isQuiet hquiet] at hlatch
      cases hlatch
    · rw [← (canDo_of_mem_deeds hdeed).latch?_eq, hlatch]
  · intro hlatch
    cases step with
    | call wrapper location body =>
        exact ⟨.announce wrapper location,
          mem_actions_of_mem_deeds h (List.mem_singleton.mpr rfl), hlatch⟩
    | fire latch =>
        exact ⟨.fire latch, mem_actions_of_mem_deeds h (List.mem_singleton.mpr rfl), hlatch⟩
    | _ => cases hlatch

theorem exists_latch?_actionsAll_iff {steps : List Operation}
    (hsteps : ∀ step ∈ steps, step.IsStep) (state : State) (address : Address Latch) :
    (∃ action ∈ actionsAll steps state, action.latch? = some address) ↔
      ∃ step ∈ steps, step.latch? = some address := by
  induction steps generalizing state with
  | nil => simp [actionsAll]
  | cons step rest ih =>
      rw [List.forall_mem_cons] at hsteps
      simp only [actionsAll, List.mem_append, List.mem_cons, or_and_right, exists_or,
        exists_eq_left, exists_latch?_iff hsteps.1, ih hsteps.2]

theorem fired_performAll_iff {steps : List Operation} (hsteps : ∀ step ∈ steps, step.IsStep)
    (state : State) (address : Address Latch) :
    ((performAll steps state).latch address).fired = true ↔
      (state.latch address).fired = true ∨ ∃ step ∈ steps, step.latch? = some address := by
  rw [performAll_eq, Action.fired_performAll_iff, exists_latch?_actionsAll_iff hsteps]

theorem warningsOf_performAll_of_latch? {steps : List Operation}
    (hsteps : ∀ step ∈ steps, step.IsStep) {state : State} {address : Address Latch}
    (h : (∃ step ∈ steps, step.latch? = some address) → (state.latch address).fired = true) :
    (performAll steps state).journal.warningsOf (.wrapper address) =
      state.journal.warningsOf (.wrapper address) := by
  rw [performAll_eq]
  apply Action.warningsOf_performAll_of_latch?
  rwa [exists_latch?_actionsAll_iff hsteps]

theorem fresh_le_perform (operation : Operation) (state : State) :
    state.latches.fresh.index ≤ (operation.perform state).1.latches.fresh.index := by
  rw [perform_fst]
  exact Action.fresh_le_performAll _ state

theorem fresh_le_performAll (operations : List Operation) (state : State) :
    state.latches.fresh.index ≤ (performAll operations state).latches.fresh.index := by
  rw [performAll_eq]
  exact Action.fresh_le_performAll _ state

end Operation

end Deprecation
