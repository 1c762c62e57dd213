import Deprecation.Callable

/-!
The single actions of which every operation is made, and what a run of actions does to registries
and deliveries.  A registry never loses a notice, and the deliveries of a run are those of its
actions, each at the state that it finds.
-/

namespace Deprecation

/-- A single action on the state of warnings. -/
inductive Action where
  /-- Asks for the process-wide emitter, which is made now if it does not exist. -/
  | resolve
  | install (emitter : Emitter)
  | insert (registry : Address Registry) (notice : Notice)
  /-- Shows a notice through an emitter, unless its registry has seen it. -/
  | warn (emitter : Emitter) (notice : Notice) (stackLevel : UInt64) (location : Location)
  | emit (emitter : Emitter) (text : String) (stackLevel : UInt64) (location : Location)
  /-- Calls a wrapper, as far as its own warning goes. -/
  | announce (wrapper : Wrapper) (location : Location)
  | fire (latch : Address Latch)
  | log (event : Event)
  | fireHook (enumeration member : String)
  | take (buffer : Address Buffer)
  | newRegistry
  | newBuffer
  | newLatch
deriving DecidableEq, Repr

namespace Action

def perform : Action → State → State
  | .resolve, state => state.sharedEmitter.1
  | .install emitter, state => (state.install emitter).1
  | .insert registry notice, state => (state.insert registry notice).1
  | .warn emitter notice stackLevel location, state =>
      emitter.warn notice stackLevel location state
  | .emit emitter text stackLevel location, state => emitter.emit text stackLevel location state
  | .announce wrapper location, state => wrapper.announce location state
  | .fire latch, state => (state.fire latch).1
  | .log event, state => state.log event
  | .fireHook enumeration member, state => state.note (.hookFired enumeration member)
  | .take buffer, state => (state.take buffer).1
  | .newRegistry, state => state.newRegistry.1
  | .newBuffer, state => state.newBuffer.1
  | .newLatch, state => state.newLatch.1

def performAll (actions : List Action) (state : State) : State :=
  actions.foldl (fun state action => action.perform state) state

@[simp] theorem performAll_nil (state : State) : performAll [] state = state := rfl

@[simp] theorem performAll_cons (action : Action) (rest : List Action) (state : State) :
    performAll (action :: rest) state = performAll rest (action.perform state) := rfl

@[simp] theorem performAll_append (first second : List Action) (state : State) :
    performAll (first ++ second) state = performAll second (performAll first state) :=
  List.foldl_append

/-- Whether an action brings a notice before a registry. -/
def Puts (registry : Address Registry) (notice : Notice) : Action → Prop
  | .insert target put => target = registry ∧ put = notice
  | .warn emitter put _ _ => emitter.registry = registry ∧ put = notice
  | _ => False

/-- What an action delivers at a state. -/
def deliveries : Action → State → List Delivery
  | .warn emitter notice stackLevel location, state =>
      if notice ∉ state.registry emitter.registry ∧ emitter.enabled = true then
        [⟨.notice emitter.registry notice, emitter.sink, ⟨notice.text, stackLevel, location⟩⟩]
      else []
  | .emit emitter text stackLevel location, _ =>
      if emitter.enabled then [⟨.direct, emitter.sink, ⟨text, stackLevel, location⟩⟩] else []
  | .announce wrapper location, state =>
      let emitter := ((state.fire wrapper.latch).1.resolve wrapper.route).2
      if wrapper.hasWarned state = false ∧ emitter.enabled = true then
        [⟨.wrapper wrapper.latch, emitter.sink, ⟨wrapper.text, wrapper.stackLevel, location⟩⟩]
      else []
  | _, _ => []

/-- What is delivered comes from a warn of a new notice, from an emission, or from the first call of
a wrapper, through an emitter that is enabled. -/
theorem mem_deliveries_cases {action : Action} {state : State} {delivery : Delivery}
    (h : delivery ∈ action.deliveries state) :
    (∃ emitter notice stackLevel location,
        action = .warn emitter notice stackLevel location ∧
          notice ∉ state.registry emitter.registry ∧ emitter.enabled = true ∧
          delivery = ⟨.notice emitter.registry notice, emitter.sink,
            ⟨notice.text, stackLevel, location⟩⟩) ∨
      (∃ emitter text stackLevel location, action = .emit emitter text stackLevel location ∧
        delivery = ⟨.direct, emitter.sink, ⟨text, stackLevel, location⟩⟩) ∨
      ∃ wrapper location sink, action = .announce wrapper location ∧
        wrapper.hasWarned state = false ∧
        delivery = ⟨.wrapper wrapper.latch, sink, ⟨wrapper.text, wrapper.stackLevel, location⟩⟩ := by
  cases action with
  | warn emitter notice stackLevel location =>
      simp only [deliveries] at h
      split at h
      · next hshown =>
        exact Or.inl ⟨emitter, notice, stackLevel, location, rfl, hshown.1, hshown.2,
          List.mem_singleton.mp h⟩
      · exact absurd h List.not_mem_nil
  | emit emitter text stackLevel location =>
      simp only [deliveries] at h
      split at h
      · exact Or.inr (Or.inl ⟨emitter, text, stackLevel, location, rfl, List.mem_singleton.mp h⟩)
      · exact absurd h List.not_mem_nil
  | announce wrapper location =>
      simp only [deliveries] at h
      split at h
      · next hshown =>
        exact Or.inr (Or.inr ⟨wrapper, location, _, rfl, hshown.1, List.mem_singleton.mp h⟩)
      · exact absurd h List.not_mem_nil
  | _ => exact absurd h List.not_mem_nil

theorem mem_registry_insert_iff (state : State) (target registry : Address Registry)
    (put notice : Notice) :
    notice ∈ (state.insert target put).1.registry registry ↔
      notice ∈ state.registry registry ∨ (target = registry ∧ put = notice) := by
  rw [State.registry_insert]
  split
  · next h =>
    subst h
    simp [eq_comm]
  · next h => simp [Ne.symm h]

theorem mem_registry_perform_iff (action : Action) (state : State)
    (registry : Address Registry) (notice : Notice) :
    notice ∈ (action.perform state).registry registry ↔
      notice ∈ state.registry registry ∨ action.Puts registry notice := by
  cases action with
  | resolve => simp [perform, Puts]
  | install emitter =>
      simp only [perform, Puts, or_false, State.install]
      split <;> rfl
  | insert target put => exact mem_registry_insert_iff state target registry put notice
  | warn emitter put stackLevel location =>
      rw [perform, Emitter.registry_warn, ← State.registry_insert]
      exact mem_registry_insert_iff state emitter.registry registry put notice
  | emit emitter text stackLevel location => simp [perform, Puts, Emitter.emit]
  | announce wrapper location => simp [perform, Puts]
  | fire latch => simp [perform, Puts]
  | log event => simp [perform, Puts]
  | fireHook enumeration member => simp [perform, Puts]
  | take buffer => simp [perform, Puts]
  | newRegistry => simp [perform, Puts]
  | newBuffer => simp [perform, Puts, State.newBuffer, State.registry]
  | newLatch => simp [perform, Puts, State.newLatch, State.registry]

theorem mem_registry_performAll_iff (actions : List Action) (state : State)
    (registry : Address Registry) (notice : Notice) :
    notice ∈ (performAll actions state).registry registry ↔
      notice ∈ state.registry registry ∨ ∃ action ∈ actions, action.Puts registry notice := by
  induction actions generalizing state with
  | nil => simp
  | cons action rest ih =>
      simp only [performAll_cons, ih, mem_registry_perform_iff, or_assoc, List.mem_cons,
        exists_eq_or_imp]

theorem mem_registry_performAll_of_mem {registry : Address Registry} {notice : Notice}
    (actions : List Action) {state : State} (h : notice ∈ state.registry registry) :
    notice ∈ (performAll actions state).registry registry :=
  (mem_registry_performAll_iff actions state registry notice).mpr (Or.inl h)

theorem environment_perform (action : Action) (state : State) :
    (action.perform state).environment = state.environment := by
  cases action with
  | resolve => exact State.environment_sharedEmitter state
  | install emitter =>
      simp only [perform, State.install]
      split <;> rfl
  | insert registry notice => exact State.environment_insert state registry notice
  | warn emitter notice stackLevel location =>
      exact emitter.environment_warn notice stackLevel location state
  | emit emitter text stackLevel location => exact emitter.environment_send _ _ state
  | announce wrapper location => exact wrapper.environment_announce location state
  | _ => rfl

theorem environment_performAll (actions : List Action) (state : State) :
    (performAll actions state).environment = state.environment := by
  induction actions generalizing state with
  | nil => rfl
  | cons action rest ih => exact (ih (action.perform state)).trans (environment_perform action state)

/-- What an action leaves in the journal at a state. -/
def entries : Action → State → List Entry
  | .warn emitter notice stackLevel location, state =>
      if notice ∈ state.registry emitter.registry then [.logged (.alreadyReported notice)]
      else if emitter.enabled then
        Delivery.entries
          ⟨.notice emitter.registry notice, emitter.sink, ⟨notice.text, stackLevel, location⟩⟩
      else []
  | .emit emitter text stackLevel location, _ =>
      if emitter.enabled then
        Delivery.entries ⟨.direct, emitter.sink, ⟨text, stackLevel, location⟩⟩
      else []
  | .announce wrapper location, state =>
      let emitter := ((state.fire wrapper.latch).1.resolve wrapper.route).2
      if wrapper.hasWarned state then [.logged (.alreadyShown wrapper.name)]
      else if emitter.enabled then
        Delivery.entries
          ⟨.wrapper wrapper.latch, emitter.sink, ⟨wrapper.text, wrapper.stackLevel, location⟩⟩
      else []
  | .log event, _ => [.logged event]
  | .fireHook enumeration member, _ => [.hookFired enumeration member]
  | _, _ => []

theorem journal_perform (action : Action) (state : State) :
    (action.perform state).journal = state.journal ++ action.entries state := by
  cases action with
  | resolve => simp [perform, entries]
  | install emitter =>
      simp only [perform, entries, List.append_nil, State.install]
      split <;> rfl
  | insert registry notice => simp [perform, entries]
  | warn emitter notice stackLevel location =>
      rw [perform, entries]
      by_cases h : notice ∈ state.registry emitter.registry
      · rw [Emitter.warn_of_mem h, if_pos h, State.journal_log]
      · rw [Emitter.warn_of_not_mem h, if_neg h, Emitter.journal_send, State.journal_insert]
  | emit emitter text stackLevel location =>
      rw [perform, Emitter.emit, Emitter.journal_send, entries]
  | announce wrapper location =>
      rw [perform, entries]
      cases h : wrapper.hasWarned state with
      | true => simp [Wrapper.announce_of_hasWarned h]
      | false => simp [Wrapper.announce_of_not_hasWarned h, Emitter.journal_send]
  | log event => rfl
  | fireHook enumeration member => rfl
  | take buffer => simp [perform, entries]
  | newRegistry => simp [perform, entries, State.newRegistry]
  | newBuffer => simp [perform, entries, State.newBuffer]
  | newLatch => simp [perform, entries, State.newLatch]
  | fire latch => simp [perform, entries]

theorem deliveries_entries (action : Action) (state : State) :
    Journal.deliveries (action.entries state) = action.deliveries state := by
  cases action with
  | warn emitter notice stackLevel location =>
      simp only [entries, deliveries]
      by_cases h : notice ∈ state.registry emitter.registry <;>
        cases emitter.enabled <;> simp [h]
  | emit emitter text stackLevel location =>
      simp only [entries, deliveries]
      cases emitter.enabled <;> simp
  | announce wrapper location =>
      simp only [entries, deliveries]
      cases wrapper.hasWarned state <;>
        cases ((state.fire wrapper.latch).1.resolve wrapper.route).2.enabled <;>
          simp
  | _ => rfl

theorem deliveries_perform (action : Action) (state : State) :
    (action.perform state).journal.deliveries =
      state.journal.deliveries ++ action.deliveries state := by
  rw [journal_perform, Journal.deliveries_append, deliveries_entries]

theorem warningsOf_perform (source : Source) (action : Action) (state : State) :
    (action.perform state).journal.warningsOf source =
      state.journal.warningsOf source ++ Delivery.warningsOf source (action.deliveries state) := by
  rw [Journal.warningsOf, deliveries_perform, Delivery.warningsOf_append]
  rfl

theorem warnings_perform {action : Action} {buffer : Address Buffer}
    (h : action ≠ .take buffer) (state : State) :
    ((action.perform state).buffer buffer).warnings =
      (state.buffer buffer).warnings ++ Delivery.warningsTo buffer (action.deliveries state) := by
  cases action with
  | resolve => simp [perform, deliveries]
  | install emitter =>
      simp only [perform, deliveries, Delivery.warningsTo_nil, List.append_nil, State.install]
      split <;> rfl
  | insert registry notice => simp [perform, deliveries]
  | warn emitter notice stackLevel location =>
      rw [perform, Emitter.buffer_warn, deliveries]
      by_cases hshown : notice ∉ state.registry emitter.registry ∧ emitter.enabled = true
      · by_cases hsink : emitter.sink = .capture buffer <;> simp [hshown, hsink]
      · simp [hshown]
  | emit emitter text stackLevel location =>
      rw [perform, Emitter.emit, Emitter.buffer_send, deliveries]
      cases emitter.enabled with
      | true => by_cases hsink : emitter.sink = .capture buffer <;> simp [hsink]
      | false => simp
  | announce wrapper location =>
      rw [perform, deliveries]
      cases hwarned : wrapper.hasWarned state with
      | true => simp [Wrapper.announce_of_hasWarned hwarned]
      | false =>
          rw [Wrapper.announce_of_not_hasWarned hwarned, Emitter.buffer_send,
            State.resolve_fire_snd]
          cases (state.resolve wrapper.route).2.enabled with
          | true =>
              by_cases hsink : (state.resolve wrapper.route).2.sink = .capture buffer <;>
                simp [hsink]
          | false => simp
  | take target =>
      have hne : buffer ≠ target := fun heq => h (heq ▸ rfl)
      simp [perform, deliveries, State.buffer_take, hne]
  | fire latch => simp [perform, deliveries]
  | log event => simp [perform, deliveries]
  | fireHook enumeration member => simp [perform, deliveries]
  | newRegistry => simp [perform, deliveries, State.newRegistry, State.buffer]
  | newBuffer => simp [perform, deliveries]
  | newLatch => simp [perform, deliveries, State.newLatch, State.buffer]

/-- What is left over a run, given what each action leaves at the state that it finds. -/
def gather {β : Type} (leaves : Action → State → List β) : List Action → State → List β
  | [], _ => []
  | action :: rest, state => leaves action state ++ gather leaves rest (action.perform state)

theorem exists_of_mem_gather {β : Type} {leaves : Action → State → List β}
    {actions : List Action} {state : State} {item : β} (h : item ∈ gather leaves actions state) :
    ∃ action ∈ actions, ∃ moment, item ∈ leaves action moment := by
  induction actions generalizing state with
  | nil => exact absurd h List.not_mem_nil
  | cons action rest ih =>
      rcases List.mem_append.mp h with hfirst | hrest
      · exact ⟨action, List.mem_cons_self, state, hfirst⟩
      · obtain ⟨other, hother, hmoment⟩ := ih hrest
        exact ⟨other, List.mem_cons_of_mem _ hother, hmoment⟩

theorem journal_performAll (actions : List Action) (state : State) :
    (performAll actions state).journal = state.journal ++ gather entries actions state := by
  induction actions generalizing state with
  | nil => exact (List.append_nil _).symm
  | cons action rest ih => rw [performAll_cons, ih, journal_perform, gather, List.append_assoc]

theorem journal_prefix_performAll (actions : List Action) (state : State) :
    state.journal <+: (performAll actions state).journal :=
  ⟨_, (journal_performAll actions state).symm⟩

theorem deliveries_gather_entries (actions : List Action) (state : State) :
    Journal.deliveries (gather entries actions state) = gather deliveries actions state := by
  induction actions generalizing state with
  | nil => rfl
  | cons action rest ih => rw [gather, Journal.deliveries_append, deliveries_entries, ih, gather]

theorem deliveries_performAll (actions : List Action) (state : State) :
    (performAll actions state).journal.deliveries =
      state.journal.deliveries ++ gather deliveries actions state := by
  rw [journal_performAll, Journal.deliveries_append, deliveries_gather_entries]

theorem warnings_performAll {actions : List Action} {buffer : Address Buffer}
    (h : .take buffer ∉ actions) (state : State) :
    ((performAll actions state).buffer buffer).warnings =
      (state.buffer buffer).warnings ++
        Delivery.warningsTo buffer (gather deliveries actions state) := by
  induction actions generalizing state with
  | nil => exact (List.append_nil _).symm
  | cons action rest ih =>
      rw [List.mem_cons, not_or] at h
      rw [performAll_cons, ih h.2, warnings_perform (Ne.symm h.1), gather,
        Delivery.warningsTo_append, List.append_assoc]

end Action

end Deprecation
