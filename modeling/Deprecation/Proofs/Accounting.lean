import Deprecation.Proofs.Deeds

/-!
Where every attempt to show something ends.  A notice that is brought before a registry, and a call
of a wrapper, end in a delivery, in an event that says that it was attempted before, or in silence,
because the emitter is switched off.  Over a run the deliveries, the events and the silent attempts
add up to the attempts, and what the registries gain are the notices that were not attempted before.
-/

namespace Deprecation

/-- How an attempt to show something ends. -/
inductive Fate where
  | delivered
  /-- It was attempted before, and the log says so. -/
  | repeated
  /-- It was not attempted before, but the emitter is switched off. -/
  | dropped
deriving DecidableEq, Repr

def Emitter.fate (emitter : Emitter) (notice : Notice) (state : State) : Fate :=
  if notice ∈ state.registry emitter.registry then .repeated
  else if emitter.enabled then .delivered
  else .dropped

def Wrapper.fate (wrapper : Wrapper) (state : State) : Fate :=
  if wrapper.hasWarned state then .repeated
  else if (state.resolve wrapper.route).2.enabled then .delivered
  else .dropped

namespace Fate

/-- What an attempt leaves in the journal, given what it delivers and what is logged instead. -/
def entries (delivery : Delivery) (event : Event) : Fate → List Entry
  | .delivered => delivery.entries
  | .repeated => [.logged event]
  | .dropped => []

theorem deliveries_entries (delivery : Delivery) (event : Event) (fate : Fate) :
    Journal.deliveries (fate.entries delivery event) =
      if fate = .delivered then [delivery] else [] := by
  cases fate with
  | delivered => exact Journal.deliveries_entries delivery
  | repeated => rfl
  | dropped => rfl

theorem countP_eq_add (p : Source → Bool) (fates : List (Source × Fate)) :
    fates.countP (fun fate => p fate.1) =
      fates.countP (fun fate => p fate.1 && fate.2 = .delivered) +
        fates.countP (fun fate => p fate.1 && fate.2 = .repeated) +
        fates.countP (fun fate => p fate.1 && fate.2 = .dropped) := by
  induction fates with
  | nil => rfl
  | cons first rest ih =>
      obtain ⟨source, fate⟩ := first
      simp only [List.countP_cons, ih]
      cases p source <;> cases fate <;> simp <;> omega

end Fate

/-- Whether a delivery is made for a notice, on behalf of one of some registries. -/
def Source.isNoticeOf (among : Address Registry → Bool) : Source → Bool
  | .notice registry _ => among registry
  | _ => false

def Source.isNotice : Source → Bool :=
  Source.isNoticeOf fun _ => true

def Source.isWrapper : Source → Bool
  | .wrapper _ => true
  | _ => false

def Event.isAlreadyReported : Event → Bool
  | .alreadyReported _ => true
  | _ => false

def Event.isAlreadyShown : Event → Bool
  | .alreadyShown _ => true
  | _ => false

theorem Delivery.filter_events (delivery : Delivery) :
    delivery.events.filter (fun event => event.severity = .warn) = delivery.events := by
  obtain ⟨source, sink, warning⟩ := delivery
  cases sink <;> rfl

theorem Fate.filter_events (delivery : Delivery) {event : Event} (h : event.severity ≠ .warn)
    (fate : Fate) :
    (Journal.events (fate.entries delivery event)).filter (fun event => event.severity = .warn) =
      (Journal.deliveries (fate.entries delivery event)).flatMap Delivery.events := by
  cases fate with
  | delivered => simp [entries, delivery.filter_events]
  | repeated => simp [entries, Journal.events, h]
  | dropped => rfl

/-- The events of some kind tell of repeated attempts for some sources, and of nothing else. -/
structure Event.Tells (p : Source → Bool) (q : Event → Bool) : Prop where
  notice : ∀ registry notice, q (.alreadyReported notice) = p (.notice registry notice)
  wrapper : ∀ latch name, q (.alreadyShown name) = p (.wrapper latch)
  warned : ∀ warning withLocation, q (.warned warning withLocation) = false
  progress : ∀ {event : Event}, event.isProgress = true → q event = false

namespace Event.Tells

theorem notices : Tells Source.isNotice Event.isAlreadyReported where
  notice _ _ := rfl
  wrapper _ _ := rfl
  warned _ _ := rfl
  progress {event} h := by cases event <;> first | rfl | cases h

theorem wrappers : Tells Source.isWrapper Event.isAlreadyShown where
  notice _ _ := rfl
  wrapper _ _ := rfl
  warned _ _ := rfl
  progress {event} h := by cases event <;> first | rfl | cases h

variable {p : Source → Bool} {q : Event → Bool}

theorem countP_events (h : Tells p q) {delivery : Delivery} : delivery.events.countP q = 0 := by
  obtain ⟨source, sink, warning⟩ := delivery
  cases sink <;> simp [Delivery.events, h.warned]

theorem countP_entries (h : Tells p q) (delivery : Delivery) (event : Event) (fate : Fate) :
    (Journal.events (fate.entries delivery event)).countP q =
      if q event ∧ fate = .repeated then 1 else 0 := by
  cases fate with
  | delivered => simpa [Fate.entries] using h.countP_events
  | repeated => simp [Fate.entries, Journal.events, List.countP_cons]
  | dropped => simp [Fate.entries]

end Event.Tells

namespace Action

/-- How the attempt of an action ends, if it is one. -/
def fates : Action → State → List (Source × Fate)
  | .warn emitter notice _ _, state =>
      [(.notice emitter.registry notice, emitter.fate notice state)]
  | .announce wrapper _, state => [(.wrapper wrapper.latch, wrapper.fate state)]
  | _, _ => []

/-- The call of a wrapper, if an action is one. -/
def call? : Action → Option (Wrapper × Location)
  | .announce wrapper location => some (wrapper, location)
  | _ => none

/-- What is inserted into a registry directly, and is new there. -/
def inserted : Action → State → List (Address Registry × Notice)
  | .insert registry notice, state =>
      if notice ∈ state.registry registry then [] else [(registry, notice)]
  | _, _ => []

/-- What an action brings before a registry, and is new there. -/
def registered : Action → State → List (Address Registry × Notice)
  | .warn emitter notice _ _, state =>
      if notice ∈ state.registry emitter.registry then [] else [(emitter.registry, notice)]
  | action, state => action.inserted state

theorem call?_of_isQuiet {action : Action} (h : action.isQuiet = true) :
    action.call? = none := by
  rcases isQuiet_cases h with rfl | ⟨event, rfl, -⟩ | ⟨enumeration, member, rfl⟩ <;> rfl

theorem entries_warn (emitter : Emitter) (notice : Notice) (stackLevel : UInt64)
    (location : Location) (state : State) :
    (Action.warn emitter notice stackLevel location).entries state =
      (emitter.fate notice state).entries
        ⟨.notice emitter.registry notice, emitter.sink, ⟨notice.text, stackLevel, location⟩⟩
        (.alreadyReported notice) := by
  rw [entries, Emitter.fate]
  split
  · rfl
  · cases emitter.enabled <;> rfl

theorem entries_announce (wrapper : Wrapper) (location : Location) (state : State) :
    (Action.announce wrapper location).entries state =
      (wrapper.fate state).entries
        ⟨.wrapper wrapper.latch, (state.resolve wrapper.route).2.sink,
          ⟨wrapper.text, wrapper.stackLevel, location⟩⟩
        (.alreadyShown wrapper.name) := by
  rw [entries, Wrapper.fate, State.resolve_fire_snd]
  split
  · rfl
  · cases (state.resolve wrapper.route).2.enabled <;> rfl

theorem countP_deliveries {p : Source → Bool} (hdirect : p .direct = false) (action : Action)
    (state : State) :
    (action.deliveries state).countP (fun delivery => p delivery.source) =
      (action.fates state).countP (fun fate => p fate.1 && fate.2 = .delivered) := by
  rw [← deliveries_entries]
  cases action with
  | warn emitter notice stackLevel location =>
      rw [entries_warn, Fate.deliveries_entries, fates]
      cases emitter.fate notice state <;> simp
  | announce wrapper location =>
      rw [entries_announce, Fate.deliveries_entries, fates]
      cases wrapper.fate state <;> simp
  | emit emitter text stackLevel location =>
      rw [deliveries_entries, deliveries]
      cases emitter.enabled <;> simp [fates, hdirect]
  | _ => rfl

/-- What an action writes into the log. -/
def events (action : Action) (state : State) : List Event :=
  Journal.events (action.entries state)

theorem countP_events {p : Source → Bool} {q : Event → Bool} (h : Event.Tells p q)
    {action : Action} (hlog : ∀ event, action = .log event → event.isProgress = true)
    (state : State) :
    (action.events state).countP q =
      (action.fates state).countP (fun fate => p fate.1 && fate.2 = .repeated) := by
  rw [events]
  cases action with
  | warn emitter notice stackLevel location =>
      rw [entries_warn, h.countP_entries, fates, h.notice emitter.registry]
      cases emitter.fate notice state <;> simp [List.countP_cons]
  | announce wrapper location =>
      rw [entries_announce, h.countP_entries, fates, h.wrapper wrapper.latch]
      cases wrapper.fate state <;> simp [List.countP_cons]
  | emit emitter text stackLevel location =>
      rw [entries]
      cases emitter.enabled with
      | true => exact (congrArg _ (Journal.events_entries _)).trans h.countP_events
      | false => rfl
  | log event =>
      -- An event that is written apart from attempts only tells what goes on.
      have hnone := h.progress (hlog event rfl)
      simp [entries, fates, Journal.events, hnone]
  | _ => rfl

theorem filter_events {action : Action}
    (hlog : ∀ event, action = .log event → event.isProgress = true) (state : State) :
    (action.events state).filter (fun event => event.severity = .warn) =
      (action.deliveries state).flatMap Delivery.events := by
  rw [events, ← deliveries_entries]
  cases action with
  | warn emitter notice stackLevel location =>
      rw [entries_warn]
      exact Fate.filter_events _ (by simp [Event.severity]) _
  | announce wrapper location =>
      rw [entries_announce]
      exact Fate.filter_events _ (by simp [Event.severity]) _
  | emit emitter text stackLevel location =>
      rw [entries]
      cases emitter.enabled with
      | true => simp [Delivery.filter_events]
      | false => rfl
  | log event =>
      have hprogress := hlog event rfl
      cases event with
      | argumentRenamed function oldName newName => rfl
      | memberAccessed enumeration member => rfl
      | _ => cases hprogress
  | _ => rfl

theorem notices_add_at (state : State) (registry target : Address Registry) (notice : Notice) :
    (if registry = target then (state.registry target).add notice
      else state.registry registry).notices =
      (state.registry registry).notices ++
        ((if notice ∈ state.registry target then [] else [(target, notice)]).filter
          fun gained => gained.1 = registry).map Prod.snd := by
  by_cases hheld : notice ∈ state.registry target
  · rw [if_pos hheld, Registry.add_of_mem hheld]
    split
    · next h => simp [h]
    · simp
  · rw [if_neg hheld]
    by_cases h : registry = target
    · simp [h, Registry.notices_add_of_not_mem hheld]
    · simp [h, Ne.symm h]

theorem notices_perform (action : Action) (state : State) (registry : Address Registry) :
    ((action.perform state).registry registry).notices =
      (state.registry registry).notices ++
        ((action.registered state).filter fun gained => gained.1 = registry).map Prod.snd := by
  cases action with
  | warn emitter notice stackLevel location =>
      rw [perform, Emitter.registry_warn]
      exact notices_add_at state registry emitter.registry notice
  | insert target notice =>
      rw [perform, State.registry_insert]
      exact notices_add_at state registry target notice
  | resolve => simp [perform, registered, inserted]
  | install emitter =>
      simp only [perform, registered, inserted, State.install]
      split <;> simp [State.registry]
  | emit emitter text stackLevel location => simp [perform, Emitter.emit, registered, inserted]
  | announce wrapper location => simp [perform, registered, inserted]
  | newRegistry => simp [perform, registered, inserted]
  | _ => exact (List.append_nil _).symm

theorem countP_registered (among : Address Registry → Bool) (action : Action) (state : State) :
    (action.registered state).countP (fun gained => among gained.1) =
      (action.fates state).countP
          (fun fate => fate.1.isNoticeOf among && fate.2 = .delivered) +
        (action.fates state).countP
          (fun fate => fate.1.isNoticeOf among && fate.2 = .dropped) +
        (action.inserted state).countP fun gained => among gained.1 := by
  cases action with
  | warn emitter notice stackLevel location =>
      rw [registered, fates, inserted, Emitter.fate]
      split
      · simp
      · cases emitter.enabled <;> simp [List.countP_cons, Source.isNoticeOf]
      · simp
  | insert registry notice => simp [registered, fates]
  | announce wrapper location => simp [registered, fates, inserted, Source.isNoticeOf]
  | _ => simp [registered, fates, inserted]

theorem events_gather_entries (actions : List Action) (state : State) :
    Journal.events (gather entries actions state) = gather events actions state := by
  induction actions generalizing state with
  | nil => rfl
  | cons action rest ih => rw [gather, Journal.events_append, ih, gather, events]

theorem countP_gather_eq {β γ : Type} {first : Action → State → List β}
    {second : Action → State → List γ} {p : β → Bool} {q : γ → Bool} {actions : List Action}
    (h : ∀ action ∈ actions, ∀ state,
      (first action state).countP p = (second action state).countP q) (state : State) :
    (gather first actions state).countP p = (gather second actions state).countP q := by
  induction actions generalizing state with
  | nil => rfl
  | cons action rest ih =>
      rw [List.forall_mem_cons] at h
      rw [gather, List.countP_append, h.1, ih h.2, gather, List.countP_append]

theorem notices_performAll (actions : List Action) (state : State)
    (registry : Address Registry) :
    ((performAll actions state).registry registry).notices =
      (state.registry registry).notices ++
        ((gather registered actions state).filter fun gained => gained.1 = registry).map
          Prod.snd := by
  induction actions generalizing state with
  | nil => exact (List.append_nil _).symm
  | cons action rest ih =>
      rw [performAll_cons, ih, notices_perform, gather, List.filter_append, List.map_append,
        List.append_assoc]

theorem countP_gather_registered (among : Address Registry → Bool) (actions : List Action)
    (state : State) :
    (gather registered actions state).countP (fun gained => among gained.1) =
      (gather fates actions state).countP
          (fun fate => fate.1.isNoticeOf among && fate.2 = .delivered) +
        (gather fates actions state).countP
          (fun fate => fate.1.isNoticeOf among && fate.2 = .dropped) +
        (gather inserted actions state).countP fun gained => among gained.1 := by
  induction actions generalizing state with
  | nil => rfl
  | cons action rest ih =>
      simp only [gather, List.countP_append, ih, countP_registered]
      omega

theorem countP_gather_deliveries {p : Source → Bool} (hdirect : p .direct = false)
    (actions : List Action) (state : State) :
    (gather deliveries actions state).countP (fun delivery => p delivery.source) =
      (gather fates actions state).countP (fun fate => p fate.1 && fate.2 = .delivered) :=
  countP_gather_eq (fun action _ => countP_deliveries hdirect action) state

/-- The deliveries, the events about repeated attempts and the dropped attempts of a run add up to
its attempts. -/
theorem countP_gather_fates {p : Source → Bool} {q : Event → Bool} (h : Event.Tells p q)
    (hdirect : p .direct = false) {actions : List Action}
    (hlog : ∀ event, .log event ∈ actions → event.isProgress = true) (state : State) :
    (gather fates actions state).countP (fun fate => p fate.1) =
      (gather deliveries actions state).countP (fun delivery => p delivery.source) +
        (gather events actions state).countP q +
        (gather fates actions state).countP (fun fate => p fate.1 && fate.2 = .dropped) := by
  have hevents : (gather events actions state).countP q =
      (gather fates actions state).countP (fun fate => p fate.1 && fate.2 = .repeated) :=
    countP_gather_eq (fun action haction =>
      countP_events h fun event hevent => hlog event (hevent ▸ haction)) state
  rw [Fate.countP_eq_add, countP_gather_deliveries hdirect, hevents]

theorem filter_gather_events {actions : List Action}
    (hlog : ∀ event, .log event ∈ actions → event.isProgress = true) (state : State) :
    (gather events actions state).filter (fun event => event.severity = .warn) =
      (gather deliveries actions state).flatMap Delivery.events := by
  induction actions generalizing state with
  | nil => rfl
  | cons action rest ih =>
      have hfirst : ∀ event, action = .log event → event.isProgress = true :=
        fun event hevent => hlog event (hevent ▸ List.mem_cons_self)
      have hrest : ∀ event, .log event ∈ rest → event.isProgress = true :=
        fun event hevent => hlog event (List.mem_cons_of_mem _ hevent)
      rw [gather, List.filter_append, filter_events hfirst, ih hrest, gather, List.flatMap_append]

theorem length_filterMap {β : Type} {f : Action → Option β} {p : Source → Bool}
    (h : ∀ action state,
      (f action).toList.length = (fates action state).countP fun fate => p fate.1)
    (actions : List Action) (state : State) :
    (actions.filterMap f).length = (gather fates actions state).countP fun fate => p fate.1 := by
  induction actions generalizing state with
  | nil => rfl
  | cons action rest ih =>
      rw [gather, List.countP_append, ← ih, ← h, List.filterMap_cons]
      cases f action <;> simp [Nat.add_comm]

theorem length_attempts (actions : List Action) (state : State) :
    (actions.filterMap attempt?).length =
      (gather fates actions state).countP fun fate => fate.1.isNotice :=
  length_filterMap (fun action _ => by cases action <;> rfl) actions state

theorem length_calls (actions : List Action) (state : State) :
    (actions.filterMap call?).length =
      (gather fates actions state).countP fun fate => fate.1.isWrapper :=
  length_filterMap (fun action _ => by cases action <;> rfl) actions state

end Action

namespace Operation

/-- The notices that the steps of a run bring before registries, in order. -/
def attemptsAll : List Operation → State → List (Emitter × Notice)
  | [], _ => []
  | step :: rest, state => step.attempts state ++ attemptsAll rest (step.perform state).1

/-- The call of a wrapper, if an operation is one. -/
def call? : Operation → Option (Wrapper × Location)
  | .call wrapper location _ => some (wrapper, location)
  | _ => none

theorem CanDo.call?_eq {step : Operation} {action : Action} (h : step.CanDo action) :
    action.call? = step.call? := by
  cases h <;> rfl

theorem filterMap_attempt?_actionsAll {steps : List Operation}
    (hsteps : ∀ step ∈ steps, step.IsStep) (state : State) :
    (actionsAll steps state).filterMap Action.attempt? = attemptsAll steps state := by
  induction steps generalizing state with
  | nil =>
      rw [actionsAll]
      rfl
  | cons step rest ih =>
      rw [List.forall_mem_cons] at hsteps
      rw [actionsAll, List.filterMap_append, ih hsteps.2, attemptsAll, attempts,
        ← deedsOf_actions hsteps.1, Action.filterMap_deedsOf Action.attempt?_of_isQuiet]

theorem filterMap_call?_deeds (step : Operation) (state : State) :
    (step.deeds state).filterMap Action.call? = step.call?.toList := by
  cases hcall : step.call? with
  | none =>
      exact List.filterMap_eq_nil_iff.mpr fun action haction =>
        (canDo_of_mem_deeds haction).call?_eq.trans hcall
  | some called =>
      cases step with
      | call wrapper location body =>
          obtain rfl := Option.some.inj hcall
          rfl
      | _ => cases hcall

theorem filterMap_call?_actionsAll {steps : List Operation}
    (hsteps : ∀ step ∈ steps, step.IsStep) (state : State) :
    (actionsAll steps state).filterMap Action.call? = steps.filterMap call? := by
  induction steps generalizing state with
  | nil =>
      rw [actionsAll]
      rfl
  | cons step rest ih =>
      rw [List.forall_mem_cons] at hsteps
      have hstep : (step.actions state).filterMap Action.call? = step.call?.toList := by
        rw [← filterMap_call?_deeds step state, ← deedsOf_actions hsteps.1,
          Action.filterMap_deedsOf Action.call?_of_isQuiet]
      rw [actionsAll, List.filterMap_append, ih hsteps.2, hstep]
      cases hcall : step.call? <;> simp [hcall]

end Operation

/-- Every attempt of a run ends in exactly one way.  A notice that is brought before a registry is
delivered if it is new there and the emitter is enabled, is reported as a repetition if it is not
new, and is dropped otherwise; in the same way the call of a wrapper depends on whether the wrapper
has warned.  A delivery to the log is one event, which tells the file and the line only if the log
includes them, and any other delivery is none.  Over the run the deliveries, the repetitions and the
dropped attempts add up to the attempts, and what registries gain is what was delivered, dropped or
inserted. -/
theorem attempts_accounted_for (operations : List Operation) (state : State) :
    let steps := Operation.stepsAll operations state
    let attempts := Operation.attemptsAll steps state
    let calls := steps.filterMap Operation.call?
    let actions := Operation.actionsAll steps state
    let final := Operation.performAll operations state
    let gained : Journal := Action.gather Action.entries actions state
    let fates := Action.gather Action.fates actions state
    let registered := Action.gather Action.registered actions state
    let inserted := Action.gather Action.inserted actions state
    (final = Action.performAll actions state ∧ final.journal = state.journal ++ gained ∧
        actions.filterMap Action.attempt? = attempts ∧
        actions.filterMap Action.call? = calls) ∧
      (∀ emitter notice stackLevel location moment,
        let next := (Action.warn emitter notice stackLevel location).perform moment
        let left := (emitter.fate notice moment).entries
          ⟨.notice emitter.registry notice, emitter.sink, ⟨notice.text, stackLevel, location⟩⟩
          (.alreadyReported notice)
        next.journal = moment.journal ++ left ∧
          ∀ buffer, (next.buffer buffer).warnings = (moment.buffer buffer).warnings ++
            Delivery.warningsTo buffer (Journal.deliveries left)) ∧
      (∀ wrapper location moment,
        let next := (Action.announce wrapper location).perform moment
        let left := (wrapper.fate moment).entries
          ⟨.wrapper wrapper.latch, (moment.resolve wrapper.route).2.sink,
            ⟨wrapper.text, wrapper.stackLevel, location⟩⟩
          (.alreadyShown wrapper.name)
        next.journal = moment.journal ++ left ∧
          ∀ buffer, (next.buffer buffer).warnings = (moment.buffer buffer).warnings ++
            Delivery.warningsTo buffer (Journal.deliveries left)) ∧
      (∀ notice, (Event.alreadyReported notice).severity = .debug ∧
        (Event.alreadyReported notice).message = "deprecation already reported") ∧
      (∀ name, (Event.alreadyShown name).severity = .trace ∧
        (Event.alreadyShown name).message = "deprecation notice already shown") ∧
      (∀ delivery : Delivery, match delivery.sink with
        | .log withLocation => ∃ event, delivery.entries = [.delivered delivery, .logged event] ∧
            event.severity = .warn ∧ event.message = delivery.warning.text ∧
            event.fields = [("category", .text "DeprecationWarning"),
              ("stack_level", .count delivery.warning.stackLevel.toNat)] ++
                if withLocation then [("file", .text delivery.warning.location.file),
                  ("line", .count delivery.warning.location.line)] else []
        | _ => delivery.entries = [.delivered delivery]) ∧
      gained.events.filter (fun event => event.severity = .warn) =
        gained.deliveries.flatMap Delivery.events ∧
      attempts.length = gained.deliveries.countP (fun delivery => delivery.source.isNotice) +
        gained.events.countP Event.isAlreadyReported +
        fates.countP (fun fate => fate.1.isNotice && fate.2 = .dropped) ∧
      calls.length = gained.deliveries.countP (fun delivery => delivery.source.isWrapper) +
        gained.events.countP Event.isAlreadyShown +
        fates.countP (fun fate => fate.1.isWrapper && fate.2 = .dropped) ∧
      (∀ registry, (final.registry registry).notices = (state.registry registry).notices ++
        (registered.filter fun gained => gained.1 = registry).map Prod.snd) ∧
      ∀ among : Address Registry → Bool, registered.countP (fun gained => among gained.1) =
        gained.deliveries.countP (fun delivery => delivery.source.isNoticeOf among) +
          fates.countP (fun fate => fate.1.isNoticeOf among && fate.2 = .dropped) +
          inserted.countP fun gained => among gained.1 := by
  intro steps attempts calls actions final gained fates registered inserted
  have hsteps : ∀ step ∈ steps, step.IsStep := Operation.isStep_of_mem_stepsAll operations state
  have hfinal : final = Action.performAll actions state := by
    rw [← Operation.performAll_eq]
    exact (Operation.performAll_stepsAll operations state).symm
  have hlog : ∀ event, .log event ∈ actions → event.isProgress = true :=
    fun _ => Operation.isProgress_of_mem_actionsAll hsteps
  have hattempts : actions.filterMap Action.attempt? = attempts :=
    Operation.filterMap_attempt?_actionsAll hsteps state
  have hcalls : actions.filterMap Action.call? = calls :=
    Operation.filterMap_call?_actionsAll hsteps state
  have hdeliveries : gained.deliveries = Action.gather Action.deliveries actions state :=
    Action.deliveries_gather_entries actions state
  have hevents : gained.events = Action.gather Action.events actions state :=
    Action.events_gather_entries actions state
  refine ⟨⟨hfinal, ?_, hattempts, hcalls⟩, ?_, ?_, fun _ => ⟨rfl, rfl⟩, fun _ => ⟨rfl, rfl⟩, ?_,
    ?_, ?_, ?_, ?_, ?_⟩
  · rw [hfinal, Action.journal_performAll]
  · intro emitter notice stackLevel location moment next left
    rw [show left = _ from (Action.entries_warn emitter notice stackLevel location moment).symm,
      Action.deliveries_entries]
    exact ⟨Action.journal_perform _ moment,
      fun buffer => Action.warnings_perform Action.noConfusion moment⟩
  · intro wrapper location moment next left
    rw [show left = _ from (Action.entries_announce wrapper location moment).symm,
      Action.deliveries_entries]
    exact ⟨Action.journal_perform _ moment,
      fun buffer => Action.warnings_perform Action.noConfusion moment⟩
  · rintro ⟨source, sink, warning⟩
    cases sink with
    | log withLocation => exact ⟨.warned warning withLocation, rfl, rfl, rfl, rfl⟩
    | capture buffer => rfl
    | discard => rfl
  · rw [hdeliveries, hevents, Action.filter_gather_events hlog]
  · rw [hdeliveries, hevents, ← hattempts, Action.length_attempts actions state]
    exact Action.countP_gather_fates .notices rfl hlog state
  · rw [hdeliveries, hevents, ← hcalls, Action.length_calls actions state]
    exact Action.countP_gather_fates .wrappers rfl hlog state
  · rw [hfinal]
    exact Action.notices_performAll actions state
  · intro among
    rw [hdeliveries, Action.countP_gather_deliveries (p := Source.isNoticeOf among) rfl]
    exact Action.countP_gather_registered among actions state

end Deprecation
