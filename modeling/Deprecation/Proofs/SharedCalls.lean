import Deprecation.Proofs.SharedEmitter

/-!
Calls on what threads share, in two steps between which other threads may run.  The first step
claims what the call is about, by entering a notice into a registry or by firing the latch of a
wrapper, and answers whether nobody came before; the second one delivers the warning or logs that it
was seen.  What is claimed stays claimed, and only a first claim is followed by a delivery.
-/

namespace Deprecation

/-- A call on what threads share. -/
inductive SharedCall where
  | insert (registry : Address Registry) (notice : Notice)
  | warn (emitter : Emitter) (notice : Notice) (stackLevel : UInt64) (location : Location)
  | call (wrapper : Wrapper) (location : Location)
deriving DecidableEq, Repr

/-- Whether the one thing on behalf of which a warning may be delivered has been claimed: a notice
that its registry has seen, or a wrapper that was called. -/
def State.isClaimed (state : State) : Source → Bool
  | .notice registry notice => (state.registry registry).contains notice
  | .wrapper latch => (state.latch latch).fired
  | .direct => false

/-- Whether the emitter that a route leads to is switched on. -/
def State.isEnabled (state : State) (route : Route) : Bool :=
  (state.resolve route).2.enabled

namespace SharedCall

/-- What a call is about. -/
def source : SharedCall → Source
  | .insert registry notice => .notice registry notice
  | .warn emitter notice _ _ => .notice emitter.registry notice
  | .call wrapper _ => .wrapper wrapper.latch

/-- The call as a single action. -/
def action : SharedCall → Action
  | .insert registry notice => .insert registry notice
  | .warn emitter notice stackLevel location => .warn emitter notice stackLevel location
  | .call wrapper location => .announce wrapper location

/-- The first step of a call, which answers whether nobody came before. -/
def claim : SharedCall → State → State × Bool
  | .insert registry notice, state => state.insert registry notice
  | .warn emitter notice _ _, state => state.insert emitter.registry notice
  | .call wrapper _, state => state.fire wrapper.latch

/-- What a call does with the answer.  An insertion returns it and does nothing more. -/
def finish : SharedCall → Bool → State → State
  | .insert _ _, _, state => state
  | .warn emitter notice stackLevel location, true, state =>
      emitter.send (.notice emitter.registry notice) ⟨notice.text, stackLevel, location⟩ state
  | .warn _ notice _ _, false, state => state.log (.alreadyReported notice)
  | .call wrapper location, true, state =>
      let (state, emitter) := state.resolve wrapper.route
      emitter.send (.wrapper wrapper.latch) ⟨wrapper.text, wrapper.stackLevel, location⟩ state
  | .call wrapper _, false, state => state.log (.alreadyShown wrapper.name)

/-- The warning of a call. -/
def warning? : SharedCall → Option Warning
  | .insert _ _ => none
  | .warn _ notice stackLevel location => some ⟨notice.text, stackLevel, location⟩
  | .call wrapper location => some ⟨wrapper.text, wrapper.stackLevel, location⟩

/-- Whether the emitter that a call goes through is switched on. -/
def isEnabled (state : State) : SharedCall → Bool
  | .insert _ _ => true
  | .warn emitter _ _ _ => state.isEnabled (.own emitter)
  | .call wrapper _ => state.isEnabled wrapper.route

/-- What a call shows on behalf of a source, once it is answered. -/
def shown? (state : State) (about : Source) : SharedCall × Bool → Option Warning
  | (shared, isFirst) =>
      if isFirst && shared.isEnabled state && shared.source = about then shared.warning? else none

/-- The two steps of a call, with nothing between them, are the call. -/
theorem finish_claim (call : SharedCall) (state : State) :
    call.finish (call.claim state).2 (call.claim state).1 = call.action.perform state := by
  cases call with
  | insert registry notice => rfl
  | warn emitter notice stackLevel location =>
      simp only [claim, finish, action, Action.perform, Emitter.warn]
      obtain ⟨next, _ | _⟩ := state.insert emitter.registry notice <;> rfl
  | call wrapper location =>
      simp only [claim, finish, action, Action.perform, Wrapper.announce]
      obtain ⟨next, _ | _⟩ := state.fire wrapper.latch <;> rfl

theorem exists_warning_of_source {shared : SharedCall} {latch : Address Latch}
    (h : shared.source = .wrapper latch) : ∃ warning, shared.warning? = some warning := by
  cases shared with
  | insert registry notice => cases h
  | warn emitter notice stackLevel location => cases h
  | call wrapper location => exact ⟨_, rfl⟩

theorem claim_snd (call : SharedCall) (state : State) :
    (call.claim state).2 = !state.isClaimed call.source := by
  cases call with
  | insert registry notice => exact State.insert_snd state registry notice
  | warn emitter notice stackLevel location =>
      exact State.insert_snd state emitter.registry notice
  | call wrapper location => rfl

theorem isClaimed_insert (state : State) (registry : Address Registry) (notice : Notice)
    (source : Source) :
    (state.insert registry notice).1.isClaimed source =
      (state.isClaimed source || decide (Source.notice registry notice = source)) := by
  cases source with
  | notice other held =>
      rw [Bool.eq_iff_iff]
      simp only [State.isClaimed, Registry.contains_iff, Bool.or_eq_true, decide_eq_true_eq,
        Source.notice.injEq]
      exact Action.mem_registry_insert_iff state registry other notice held
  | wrapper latch => simp [State.isClaimed]
  | direct => rfl

theorem isClaimed_claim (call : SharedCall) (state : State) (source : Source) :
    (call.claim state).1.isClaimed source =
      (state.isClaimed source || decide (call.source = source)) := by
  cases call with
  | insert registry notice => exact isClaimed_insert state registry notice source
  | warn emitter notice stackLevel location =>
      exact isClaimed_insert state emitter.registry notice source
  | call wrapper location =>
      cases source with
      | notice registry notice => simp [SharedCall.source, claim, State.isClaimed]
      | direct => rfl
      | wrapper latch =>
          simp only [State.isClaimed, claim, State.latch_fire, SharedCall.source,
            Source.wrapper.injEq]
          by_cases h : latch = wrapper.latch
          · simp [h]
          · simp [h, Ne.symm h]

theorem journal_claim (call : SharedCall) (state : State) :
    (call.claim state).1.journal = state.journal := by
  cases call with
  | insert registry notice => exact State.journal_insert state registry notice
  | warn emitter notice stackLevel location =>
      exact State.journal_insert state emitter.registry notice
  | call wrapper location => rfl

theorem isClaimed_finish (call : SharedCall) (isFirst : Bool) (state : State) (source : Source) :
    (call.finish isFirst state).isClaimed source = state.isClaimed source := by
  cases call with
  | insert registry notice => rfl
  | warn emitter notice stackLevel location =>
      cases isFirst <;> cases source <;> simp [finish, State.isClaimed]
  | call wrapper location =>
      cases isFirst <;> cases source <;> simp [finish, State.isClaimed]

end SharedCall

namespace State

theorem isEnabled_own (state : State) (emitter : Emitter) :
    state.isEnabled (.own emitter) = emitter.enabled := rfl

theorem isEnabled_shared (state : State) :
    state.isEnabled .shared =
      (state.shared.map Emitter.enabled).getD
        (({} : Config).override state.environment).enabled := by
  change state.sharedEmitter.2.enabled = _
  rw [sharedEmitter_snd]
  cases state.shared <;> rfl

theorem isEnabled_congr (state next : State)
    (hshared : next.shared = some state.sharedEmitter.2 ∨ next.shared = state.shared)
    (henvironment : next.environment = state.environment) (route : Route) :
    next.isEnabled route = state.isEnabled route := by
  cases route with
  | own emitter => rfl
  | shared =>
      rw [isEnabled_shared next, henvironment]
      rcases hshared with hmade | hkept
      · rw [hmade]
        rfl
      · rw [hkept, isEnabled_shared]

end State

namespace SharedCall

theorem isEnabled_claim (call : SharedCall) (state : State) (route : Route) :
    (call.claim state).1.isEnabled route = state.isEnabled route := by
  cases call with
  | insert registry notice =>
      exact State.isEnabled_congr state _ (Or.inr (State.shared_insert state registry notice))
        (State.environment_insert state registry notice) route
  | warn emitter notice stackLevel location =>
      exact State.isEnabled_congr state _
        (Or.inr (State.shared_insert state emitter.registry notice))
        (State.environment_insert state emitter.registry notice) route
  | call wrapper location =>
      exact State.isEnabled_congr state (state.fire wrapper.latch).1 (Or.inr rfl) rfl route

theorem isEnabled_finish (call : SharedCall) (isFirst : Bool) (state : State) (route : Route) :
    (call.finish isFirst state).isEnabled route = state.isEnabled route := by
  cases call with
  | insert registry notice => rfl
  | warn emitter notice stackLevel location =>
      cases isFirst with
      | false => exact State.isEnabled_congr state (state.log _) (Or.inr rfl) rfl route
      | true =>
          exact State.isEnabled_congr state _ (Or.inr (emitter.shared_send _ _ state))
            (emitter.environment_send _ _ state) route
  | call wrapper location =>
      cases isFirst with
      | false => exact State.isEnabled_congr state (state.log _) (Or.inr rfl) rfl route
      | true =>
          refine State.isEnabled_congr state _ ?_ ?_ route
          · simp only [finish, Emitter.shared_send]
            exact (state.shared_resolve_cases wrapper.route).imp And.right And.right
          · simp only [finish, Emitter.environment_send, State.environment_resolve]

theorem isEnabled_congr {state next : State}
    (h : ∀ route, next.isEnabled route = state.isEnabled route) (call : SharedCall) :
    call.isEnabled next = call.isEnabled state := by
  cases call with
  | insert registry notice => rfl
  | warn emitter notice stackLevel location => exact h _
  | call wrapper location => exact h _

theorem shown?_congr {state next : State}
    (h : ∀ route, next.isEnabled route = state.isEnabled route) (about : Source)
    (answer : SharedCall × Bool) : shown? next about answer = shown? state about answer := by
  obtain ⟨shared, isFirst⟩ := answer
  rw [shown?, shown?, isEnabled_congr h]

theorem warningsOf_finish (call : SharedCall) (isFirst : Bool) (state : State) (about : Source) :
    (call.finish isFirst state).journal.warningsOf about =
      state.journal.warningsOf about ++ (shown? state about (call, isFirst)).toList := by
  cases call with
  | insert registry notice => simp [finish, shown?, warning?]
  | warn emitter notice stackLevel location =>
      cases isFirst with
      | false => simp [finish, shown?, Journal.warningsOf]
      | true =>
          rw [finish, Emitter.warningsOf_send, shown?, isEnabled, State.isEnabled_own, warning?,
            source, Bool.true_and]
          split <;> rfl
  | call wrapper location =>
      cases isFirst with
      | false => simp [finish, shown?, Journal.warningsOf]
      | true =>
          rw [finish, Emitter.warningsOf_send, State.journal_resolve, shown?, isEnabled,
            State.isEnabled, warning?, source, Bool.true_and]
          split <;> rfl

end SharedCall

end Deprecation
