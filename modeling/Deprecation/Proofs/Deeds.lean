import Deprecation.Proofs.Renaming.Warnings
import Deprecation.Proofs.Steps

/-!
What a step does itself.  An operation in which nothing else is performed may ask for the emitter of
the process, tell the log that it renames an argument or accesses a member, and fire a hook.  Apart
from that it performs a list of actions that can be read off it: its deeds.
-/

namespace Deprecation

/-- The event only tells what goes on, and is not about a warning. -/
def Event.isProgress : Event → Bool
  | .argumentRenamed _ _ _ => true
  | .memberAccessed _ _ => true
  | _ => false

/-- Asking for the emitter of the process, telling the log what goes on, and firing a hook. -/
def Action.isQuiet : Action → Bool
  | .resolve => true
  | .log event => event.isProgress
  | .fireHook _ _ => true
  | _ => false

/-- The actions that are not quiet. -/
def Action.deedsOf (actions : List Action) : List Action :=
  actions.filter fun action => !action.isQuiet

/-- A notice that is brought before the registry of an emitter. -/
def Action.attempt? : Action → Option (Emitter × Notice)
  | .warn emitter notice _ _ => some (emitter, notice)
  | _ => none

theorem Action.deedsOf_append (first second : List Action) :
    deedsOf (first ++ second) = deedsOf first ++ deedsOf second :=
  List.filter_append _ _

theorem Action.isQuiet_cases {action : Action} (h : action.isQuiet = true) :
    action = .resolve ∨ (∃ event, action = .log event ∧ event.isProgress = true) ∨
      ∃ enumeration member, action = .fireHook enumeration member := by
  cases action with
  | resolve => exact Or.inl rfl
  | log event => exact Or.inr (Or.inl ⟨event, rfl, h⟩)
  | fireHook enumeration member => exact Or.inr (Or.inr ⟨enumeration, member, rfl⟩)
  | _ => cases h

theorem Action.attempt?_of_isQuiet {action : Action} (h : action.isQuiet = true) :
    action.attempt? = none := by
  rcases isQuiet_cases h with rfl | ⟨event, rfl, -⟩ | ⟨enumeration, member, rfl⟩ <;> rfl

theorem Action.eq_warn_of_attempt? {action : Action} {emitter : Emitter} {notice : Notice}
    (h : action.attempt? = some (emitter, notice)) :
    ∃ stackLevel location, action = .warn emitter notice stackLevel location := by
  cases action with
  | warn _ _ stackLevel location =>
      obtain ⟨rfl, rfl⟩ := Prod.mk.inj (Option.some.inj h)
      exact ⟨stackLevel, location, rfl⟩
  | _ => cases h

theorem Action.filterMap_deedsOf {β : Type} {f : Action → Option β}
    (h : ∀ {action : Action}, action.isQuiet = true → f action = none) (actions : List Action) :
    (deedsOf actions).filterMap f = actions.filterMap f := by
  rw [deedsOf, List.filterMap_filter]
  congr 1
  funext action
  cases hquiet : action.isQuiet with
  | true => simp [h hquiet]
  | false => simp

theorem Route.deedsOf_actions (route : Route) : Action.deedsOf route.actions = [] := by
  cases route <;> rfl

namespace Renamer

variable {α : Type}

/-- A call that is accepted shows the notice of every pair that fires. -/
def deeds (renamer : Renamer) (location : Location) (kwargs : KwArgs α) (state : State) :
    List Action :=
  match conflict? renamer.pairs.entries kwargs.keys with
  | some _ => []
  | none =>
      (kwargs.fired renamer.pairs.entries).map fun pair =>
        .warn (state.resolve renamer.route).2 (renamer.notice pair.1 pair.2) renamer.stackLevel
          location

theorem exists_of_mem_deeds {renamer : Renamer} {location : Location} {kwargs : KwArgs α}
    {state : State} {action : Action} (h : action ∈ renamer.deeds location kwargs state) :
    ∃ notice, action =
      .warn (state.resolve renamer.route).2 notice renamer.stackLevel location := by
  rw [deeds] at h
  split at h
  · exact absurd h List.not_mem_nil
  · obtain ⟨pair, -, rfl⟩ := List.mem_map.mp h
    exact ⟨_, rfl⟩

theorem eq_warn_of_mem_deeds {renamer : Renamer} {place location : Location} {kwargs : KwArgs α}
    {state : State} {emitter : Emitter} {notice : Notice} {stackLevel : UInt64} {action : Action}
    (h : .warn emitter notice stackLevel location ∈ renamer.deeds place kwargs state)
    (haction : action ∈ renamer.deeds place kwargs state) :
    ∃ shown, action = .warn emitter shown stackLevel location := by
  -- the emitter is asked for once, before the first of the pairs
  obtain ⟨_, hfirst⟩ := exists_of_mem_deeds h
  obtain ⟨rfl, -, rfl, rfl⟩ := Action.warn.inj hfirst
  exact exists_of_mem_deeds haction

theorem deedsOf_pairActions (renamer : Renamer) (emitter : Emitter) (function : String)
    (location : Location) (pairs : List (String × String)) :
    Action.deedsOf (renamer.pairActions emitter function location pairs) =
      pairs.map fun pair =>
        .warn emitter (renamer.notice pair.1 pair.2) renamer.stackLevel location := by
  induction pairs with
  | nil => rfl
  | cons pair rest ih =>
      rw [pairActions, List.flatMap_cons, Action.deedsOf_append, List.map_cons, ← ih]
      rfl

theorem deedsOf_actions (renamer : Renamer) (function : String) (location : Location)
    (kwargs : KwArgs α) (state : State) :
    Action.deedsOf (renamer.actions function location kwargs state) =
      renamer.deeds location kwargs state := by
  rw [actions, deeds]
  cases hempty : kwargs.isEmpty with
  | true =>
      rw [conflict?_of_isEmpty hempty, Dict.fired_of_isEmpty hempty]
      rfl
  | false =>
      cases conflict? renamer.pairs.entries kwargs.keys with
      | some pair => rfl
      | none =>
          rw [if_neg Bool.false_ne_true, Action.deedsOf_append, Route.deedsOf_actions,
            List.nil_append, deedsOf_pairActions]

end Renamer

theorem Declaration.deedsOf_accessActions {α : Type} (declaration : Declaration α)
    (hook : String → State → State) (names : List String) (state : State) :
    Action.deedsOf (declaration.accessActions hook (fun _ _ => []) names state) = [] := by
  induction names generalizing state with
  | nil => rfl
  | cons name rest ih => exact ih _

namespace Operation

/-- What a step does itself, at a state. -/
def deeds : Operation → State → List Action
  | .warn route notice stackLevel location, state =>
      [.warn (state.resolve route).2 notice stackLevel location]
  | .warnUnchanged route version kind name note stackLevel location, state =>
      [.warn (state.resolve route).2 (Emitter.unchangedNotice version kind name note)
        (Emitter.levelAbove stackLevel) location]
  | .emit route text stackLevel location, state =>
      [.emit (state.resolve route).2 text stackLevel location]
  | .insert registry notice, _ => [.insert registry notice]
  | .rename renamer _ location kwargs, state => renamer.deeds location kwargs state
  | .callRenamed function location kwargs _, state =>
      function.renamer.deeds location kwargs state
  | .call wrapper location _, _ => [.announce wrapper location]
  | .fire latch, _ => [.fire latch]
  | .take buffer, _ => [.take buffer]
  | .install emitter, _ => [.install emitter]
  | .configure config, _ =>
      match config.channel with
      | .capture => [.newBuffer]
      | _ => []
  | .wrap _ _, _ => [.newLatch]
  | .newRegistry, _ => [.newRegistry]
  | .newBuffer, _ => [.newBuffer]
  | .newLatch, _ => [.newLatch]
  | _, _ => []

/-- What a step can do itself, at whatever state. -/
inductive CanDo : Operation → Action → Prop where
  | warn {route notice stackLevel location} (emitter : Emitter) :
      CanDo (.warn route notice stackLevel location) (.warn emitter notice stackLevel location)
  | warnUnchanged {route version kind name note stackLevel location} (emitter : Emitter) :
      CanDo (.warnUnchanged route version kind name note stackLevel location)
        (.warn emitter (Emitter.unchangedNotice version kind name note)
          (Emitter.levelAbove stackLevel) location)
  | emit {route text stackLevel location} (emitter : Emitter) :
      CanDo (.emit route text stackLevel location) (.emit emitter text stackLevel location)
  | insert {registry notice} : CanDo (.insert registry notice) (.insert registry notice)
  | rename {α : Type} {renamer function location} {kwargs : KwArgs α} (emitter : Emitter)
      (notice : Notice) :
      CanDo (.rename renamer function location kwargs)
        (.warn emitter notice renamer.stackLevel location)
  | callRenamed {α : Type} {function location} {kwargs : KwArgs α} {body} (emitter : Emitter)
      (notice : Notice) :
      CanDo (.callRenamed function location kwargs body)
        (.warn emitter notice function.renamer.stackLevel location)
  | call {wrapper location body} : CanDo (.call wrapper location body) (.announce wrapper location)
  | fire {latch} : CanDo (.fire latch) (.fire latch)
  | take {buffer} : CanDo (.take buffer) (.take buffer)
  | install {emitter} : CanDo (.install emitter) (.install emitter)
  | configure {config} : CanDo (.configure config) .newBuffer
  | wrap {deprecation name} : CanDo (.wrap deprecation name) .newLatch
  | newRegistry : CanDo .newRegistry .newRegistry
  | newBuffer : CanDo .newBuffer .newBuffer
  | newLatch : CanDo .newLatch .newLatch

theorem canDo_of_mem_deeds {step : Operation} {state : State} {action : Action}
    (h : action ∈ step.deeds state) : step.CanDo action := by
  cases step with
  | rename renamer function location kwargs =>
      obtain ⟨notice, rfl⟩ := Renamer.exists_of_mem_deeds h
      exact .rename _ notice
  | callRenamed function location kwargs body =>
      obtain ⟨notice, rfl⟩ := Renamer.exists_of_mem_deeds h
      exact .callRenamed _ notice
  | configure config =>
      rw [deeds] at h
      split at h
      · obtain rfl := List.mem_singleton.mp h
        exact .configure
      · exact absurd h List.not_mem_nil
  | access declaration hooks lookup => exact absurd h List.not_mem_nil
  | resolve => exact absurd h List.not_mem_nil
  | _ =>
      obtain rfl := List.mem_singleton.mp h
      constructor

theorem eq_warn_of_mem_deeds {step : Operation} {state : State} {emitter : Emitter}
    {notice : Notice} {stackLevel : UInt64} {location : Location}
    (h : .warn emitter notice stackLevel location ∈ step.deeds state) :
    ∀ action ∈ step.deeds state, ∃ shown, action = .warn emitter shown stackLevel location := by
  intro action haction
  cases canDo_of_mem_deeds h with
  | warn _ => exact ⟨_, (List.mem_singleton.mp haction).trans (List.mem_singleton.mp h).symm⟩
  | warnUnchanged _ =>
      exact ⟨_, (List.mem_singleton.mp haction).trans (List.mem_singleton.mp h).symm⟩
  | rename _ _ => exact Renamer.eq_warn_of_mem_deeds h haction
  | callRenamed _ _ => exact Renamer.eq_warn_of_mem_deeds h haction

/-- The notices that a step brings before the registry of its emitter, in order. -/
def attempts (step : Operation) (state : State) : List (Emitter × Notice) :=
  (step.deeds state).filterMap Action.attempt?

theorem exists_of_mem_attempts {step : Operation} {state : State} {emitter : Emitter}
    {notice : Notice} (h : (emitter, notice) ∈ step.attempts state) :
    ∃ stackLevel location, .warn emitter notice stackLevel location ∈ step.deeds state := by
  obtain ⟨action, haction, hattempt⟩ := List.mem_filterMap.mp h
  obtain ⟨stackLevel, location, rfl⟩ := Action.eq_warn_of_attempt? hattempt
  exact ⟨stackLevel, location, haction⟩

theorem deedsOf_actions {step : Operation} (h : step.IsStep) (state : State) :
    Action.deedsOf (step.actions state) = step.deeds state := by
  cases step with
  | warn route notice stackLevel location =>
      rw [actions, Action.deedsOf_append, Route.deedsOf_actions]
      rfl
  | warnUnchanged route version kind name note stackLevel location =>
      rw [actions, Action.deedsOf_append, Route.deedsOf_actions]
      rfl
  | emit route text stackLevel location =>
      rw [actions, Action.deedsOf_append, Route.deedsOf_actions]
      rfl
  | rename renamer function location kwargs =>
      rw [actions]
      exact renamer.deedsOf_actions function location kwargs state
  | callRenamed function location kwargs body =>
      rw [actions, Action.deedsOf_append, Renamer.deedsOf_actions]
      have hbody : ∀ renamed next, actionsAll (body renamed) next = [] := by
        intro renamed next
        rw [h renamed, actionsAll]
      simp only [hbody]
      split <;> exact List.append_nil _
  | call wrapper location body =>
      obtain rfl : body = [] := h
      rw [actions, actionsAll]
      rfl
  | access declaration hooks lookup =>
      have hhooks : (fun name => actionsAll (hooks name)) = fun _ _ => [] := by
        funext name next
        rw [h name, actionsAll]
      rw [actions, hhooks]
      exact declaration.deedsOf_accessActions _ _ state
  | configure config =>
      rw [actions, deeds]
      cases config.channel <;> rfl
  | _ =>
      rw [actions]
      rfl

theorem mem_actions_of_mem_deeds {step : Operation} (h : step.IsStep) {state : State}
    {action : Action} (haction : action ∈ step.deeds state) : action ∈ step.actions state := by
  rw [← deedsOf_actions h] at haction
  exact (List.mem_filter.mp haction).1

theorem mem_actions_cases {step : Operation} (h : step.IsStep) {state : State} {action : Action}
    (haction : action ∈ step.actions state) :
    action.isQuiet = true ∨ action ∈ step.deeds state := by
  cases hquiet : action.isQuiet with
  | true => exact Or.inl rfl
  | false =>
      rw [← deedsOf_actions h]
      exact Or.inr (List.mem_filter.mpr ⟨haction, by rw [hquiet]; rfl⟩)

theorem exists_of_mem_actionsAll {steps : List Operation} {state : State} {action : Action}
    (h : action ∈ actionsAll steps state) :
    ∃ step ∈ steps, ∃ moment, action ∈ step.actions moment := by
  induction steps generalizing state with
  | nil =>
      rw [actionsAll] at h
      exact absurd h List.not_mem_nil
  | cons step rest ih =>
      rw [actionsAll] at h
      rcases List.mem_append.mp h with hfirst | hrest
      · exact ⟨step, List.mem_cons_self, state, hfirst⟩
      · obtain ⟨other, hother, hmoment⟩ := ih hrest
        exact ⟨other, List.mem_cons_of_mem _ hother, hmoment⟩

theorem isProgress_of_mem_actionsAll {steps : List Operation} (h : ∀ step ∈ steps, step.IsStep)
    {state : State} {event : Event} (hevent : .log event ∈ actionsAll steps state) :
    event.isProgress = true := by
  obtain ⟨step, hstep, moment, haction⟩ := exists_of_mem_actionsAll hevent
  rcases mem_actions_cases (h step hstep) haction with hquiet | hdeed
  · exact hquiet
  · nomatch canDo_of_mem_deeds hdeed

end Operation

end Deprecation
