import Deprecation.Proofs.Accounting
import Deprecation.Proofs.Attribution
import Deprecation.Proofs.Latches

/-!
What an operation leaves alone.  A state has registries, sinks and latches, and operations may share
them in any way.  A step touches the registry before which it brings a notice, the sink of its
emitter or the buffer that it empties, and the latch that it fires; all the rest is the same
afterwards.  What it touches, it only adds to, unless it empties it.  Asking touches nothing.
-/

namespace Deprecation

def Journal.deliveriesTo (sink : Sink) (journal : Journal) : List Delivery :=
  journal.deliveries.filter fun delivery => delivery.sink = sink

/-- What operations may share. -/
inductive Part where
  | registry (address : Address Registry)
  | sink (target : Sink)
  | latch (address : Address Latch)
deriving DecidableEq, Repr

namespace Part

/-- A part is the same in two states.  A sink is the same if it retains the same warnings and was
given the same deliveries. -/
def Same : Part → State → State → Prop
  | .registry address, before, after => after.registry address = before.registry address
  | .sink target, before, after =>
      after.captured target = before.captured target ∧
        after.journal.deliveriesTo target = before.journal.deliveriesTo target
  | .latch address, before, after => after.latch address = before.latch address

theorem Same.refl (part : Part) (state : State) : part.Same state state := by
  cases part with
  | registry address => exact Eq.refl _
  | sink sink => exact ⟨rfl, rfl⟩
  | latch address => exact Eq.refl _

theorem Same.trans {part : Part} {first second third : State} (h : part.Same first second)
    (hnext : part.Same second third) : part.Same first third := by
  cases part with
  | registry address => exact Eq.trans hnext h
  | sink sink => exact ⟨hnext.1.trans h.1, hnext.2.trans h.2⟩
  | latch address => exact Eq.trans hnext h

end Part

theorem Registry.mem_gained_iff {before after : Registry} {gained : List Notice}
    (h : after.notices = before.notices ++ gained) {notice : Notice} :
    notice ∈ gained ↔ notice ∉ before ∧ notice ∈ after := by
  have hnodup := after.nodup
  rw [h, List.nodup_append] at hnodup
  rw [Registry.mem_def, Registry.mem_def, h, List.mem_append]
  constructor
  · intro hgained
    exact ⟨fun hheld => hnodup.2.2 notice hheld notice hgained rfl, Or.inr hgained⟩
  · rintro ⟨hnew, hheld | hgained⟩
    · exact absurd hheld hnew
    · exact hgained

namespace Action

/-- What an action brings before a registry. -/
def brought? : Action → Option (Address Registry × Notice)
  | .insert registry notice => some (registry, notice)
  | .warn emitter notice _ _ => some (emitter.registry, notice)
  | _ => none

/-- The emitter that an action delivers through, at a state. -/
def emitter? : Action → State → Option Emitter
  | .warn emitter _ _ _, _ => some emitter
  | .emit emitter _ _ _, _ => some emitter
  | .announce wrapper _, state => some (state.resolve wrapper.route).2
  | _, _ => none

theorem puts_iff {action : Action} {registry : Address Registry} {notice : Notice} :
    action.Puts registry notice ↔ action.brought? = some (registry, notice) := by
  cases action <;> simp [Puts, brought?]

theorem brought?_of_isQuiet {action : Action} (h : action.isQuiet = true) :
    action.brought? = none := by
  rcases isQuiet_cases h with rfl | ⟨event, rfl, -⟩ | ⟨enumeration, member, rfl⟩ <;> rfl

theorem emitter?_of_isQuiet {action : Action} (h : action.isQuiet = true) (state : State) :
    action.emitter? state = none := by
  rcases isQuiet_cases h with rfl | ⟨event, rfl, -⟩ | ⟨enumeration, member, rfl⟩ <;> rfl

theorem exists_emitter_of_mem_deliveries {action : Action} {state : State} {delivery : Delivery}
    (h : delivery ∈ action.deliveries state) :
    ∃ emitter, action.emitter? state = some emitter ∧ emitter.enabled = true ∧
      delivery.sink = emitter.sink := by
  cases action with
  | warn emitter notice stackLevel location =>
      rw [deliveries] at h
      split at h
      · next hshown =>
        obtain rfl := List.mem_singleton.mp h
        exact ⟨emitter, rfl, hshown.2, rfl⟩
      · exact absurd h List.not_mem_nil
  | emit emitter text stackLevel location =>
      rw [deliveries] at h
      split at h
      · next henabled =>
        obtain rfl := List.mem_singleton.mp h
        exact ⟨emitter, rfl, henabled, rfl⟩
      · exact absurd h List.not_mem_nil
  | announce wrapper location =>
      rw [deliveries, State.resolve_fire_snd] at h
      split at h
      · next hshown =>
        obtain rfl := List.mem_singleton.mp h
        exact ⟨_, rfl, hshown.2, rfl⟩
      · exact absurd h List.not_mem_nil
  | _ => exact absurd h List.not_mem_nil

theorem exists_gained (actions : List Action) (state : State) (registry : Address Registry) :
    ∃ gained, ((performAll actions state).registry registry).notices =
        (state.registry registry).notices ++ gained ∧
      ∀ notice, notice ∈ gained ↔ notice ∉ state.registry registry ∧
        ∃ action ∈ actions, action.Puts registry notice := by
  have hgained := notices_performAll actions state registry
  refine ⟨_, hgained, fun notice => ?_⟩
  rw [Registry.mem_gained_iff hgained, mem_registry_performAll_iff]
  constructor
  · rintro ⟨hnew, hheld | hput⟩
    · exact absurd hheld hnew
    · exact ⟨hnew, hput⟩
  · rintro ⟨hnew, hput⟩
    exact ⟨hnew, Or.inr hput⟩

end Action

namespace Operation

/-- The emitter that a step goes through, at a state. -/
def emitter? : Operation → State → Option Emitter
  | .warn route _ _ _, state | .warnUnchanged route _ _ _ _ _ _, state
  | .emit route _ _ _, state => some (state.resolve route).2
  | .rename renamer _ _ _, state => some (state.resolve renamer.route).2
  | .callRenamed function _ _ _, state => some (state.resolve function.renamer.route).2
  | .call wrapper _ _, state => some (state.resolve wrapper.route).2
  | _, _ => none

/-- What a step brings before registries, in order. -/
def brought (step : Operation) (state : State) : List (Address Registry × Notice) :=
  (step.deeds state).filterMap Action.brought?

/-- The parts that a step may change. -/
inductive Touches (step : Operation) (state : State) : Part → Prop where
  | registry {address : Address Registry} {notice : Notice}
      (h : (address, notice) ∈ step.brought state) : Touches step state (.registry address)
  | sink {emitter : Emitter} (h : step.emitter? state = some emitter) :
      Touches step state (.sink emitter.sink)
  | emptied {buffer : Address Buffer} (h : step = .take buffer) :
      Touches step state (.sink (.capture buffer))
  | latch {address : Address Latch} (h : step.latch? = some address) :
      Touches step state (.latch address)

/-- The step itself has something to deliver on behalf of a source. -/
def Says (step : Operation) (state : State) : Source → Prop
  | .notice registry notice =>
      ∃ emitter, (emitter, notice) ∈ step.attempts state ∧ emitter.registry = registry
  | .wrapper latch =>
      ∃ wrapper location body, step = .call wrapper location body ∧ wrapper.latch = latch
  | .direct => ∃ route text stackLevel location, step = .emit route text stackLevel location

/-- Some step of a run touches a part. -/
def Touched : List Operation → State → Part → Prop
  | [], _, _ => False
  | step :: rest, state, part =>
      step.Touches state part ∨ Touched rest (step.perform state).1 part

theorem exists_puts_iff {step : Operation} (h : step.IsStep) {state : State}
    {registry : Address Registry} {notice : Notice} :
    (∃ action ∈ step.actions state, action.Puts registry notice) ↔
      (registry, notice) ∈ step.brought state := by
  rw [brought, ← deedsOf_actions h, Action.filterMap_deedsOf Action.brought?_of_isQuiet,
    List.mem_filterMap]
  simp only [Action.puts_iff]

theorem mem_brought_cases {step : Operation} {state : State} {registry : Address Registry}
    {notice : Notice} (h : (registry, notice) ∈ step.brought state) :
    (∃ emitter, (emitter, notice) ∈ step.attempts state ∧ emitter.registry = registry) ∨
      step = .insert registry notice := by
  obtain ⟨action, haction, hbrought⟩ := List.mem_filterMap.mp h
  cases action with
  | warn emitter put stackLevel location =>
      obtain ⟨rfl, rfl⟩ := Prod.mk.inj (Option.some.inj hbrought)
      exact Or.inl ⟨emitter, List.mem_filterMap.mpr ⟨_, haction, rfl⟩, rfl⟩
  | insert target put =>
      obtain ⟨rfl, rfl⟩ := Prod.mk.inj (Option.some.inj hbrought)
      cases canDo_of_mem_deeds haction
      exact Or.inr rfl
  | _ => cases hbrought

theorem mem_brought_of_mem_attempts {step : Operation} {state : State} {emitter : Emitter}
    {notice : Notice} (h : (emitter, notice) ∈ step.attempts state) :
    (emitter.registry, notice) ∈ step.brought state := by
  obtain ⟨stackLevel, location, hdeed⟩ := exists_of_mem_attempts h
  exact List.mem_filterMap.mpr ⟨_, hdeed, rfl⟩

theorem emitter?_of_mem_deeds {step : Operation} (h : step.call? = none) {state : State}
    {action : Action} (haction : action ∈ step.deeds state) (moment : State) :
    action.emitter? moment = step.emitter? state := by
  cases step with
  | rename renamer function location kwargs =>
      obtain ⟨notice, rfl⟩ := Renamer.exists_of_mem_deeds haction
      rfl
  | callRenamed function location kwargs body =>
      obtain ⟨notice, rfl⟩ := Renamer.exists_of_mem_deeds haction
      rfl
  | call wrapper location body => cases h
  | configure config =>
      cases canDo_of_mem_deeds haction
      rfl
  | access declaration hooks lookup => exact absurd haction List.not_mem_nil
  | resolve => exact absurd haction List.not_mem_nil
  | _ =>
      obtain rfl := List.mem_singleton.mp haction
      rfl

theorem emitter?_of_mem_attempts {step : Operation} {state : State} {emitter : Emitter}
    {notice : Notice} (h : (emitter, notice) ∈ step.attempts state) :
    step.emitter? state = some emitter := by
  obtain ⟨stackLevel, location, hdeed⟩ := exists_of_mem_attempts h
  have hcall : step.call? = none := (canDo_of_mem_deeds hdeed).call?_eq.symm
  exact (emitter?_of_mem_deeds hcall hdeed state).symm

theorem mem_attempts_of_emitter? {step : Operation} {state : State} {emitter : Emitter}
    (h : step.emitter? state = some emitter) {registry : Address Registry} {notice : Notice}
    (hbrought : (registry, notice) ∈ step.brought state) :
    (emitter, notice) ∈ step.attempts state ∧ emitter.registry = registry := by
  rcases mem_brought_cases hbrought with ⟨other, hattempt, hregistry⟩ | rfl
  · obtain rfl := Option.some.inj ((emitter?_of_mem_attempts hattempt).symm.trans h)
    exact ⟨hattempt, hregistry⟩
  · cases h

theorem exists_emitter_of_mem_delivered {step : Operation} (hstep : step.IsStep) {state : State}
    {delivery : Delivery} (h : delivery ∈ step.delivered state) :
    ∃ emitter, step.emitter? state = some emitter ∧ emitter.enabled = true ∧
      delivery.sink = emitter.sink := by
  cases hcall : step.call? with
  | some called =>
      cases step with
      | call wrapper location body =>
          -- The emitter is looked for when the wrapper warns, which is all that the step does.
          obtain rfl : body = [] := hstep
          rw [delivered, actions, actionsAll, Action.gather, Action.gather, List.append_nil] at h
          exact Action.exists_emitter_of_mem_deliveries h
      | _ => cases hcall
  | none =>
      obtain ⟨action, haction, moment, hdelivered⟩ := Action.exists_of_mem_gather h
      obtain ⟨emitter, hemitter, hsink⟩ := Action.exists_emitter_of_mem_deliveries hdelivered
      rcases mem_actions_cases hstep haction with hquiet | hdeed
      · rw [Action.emitter?_of_isQuiet hquiet] at hemitter
        cases hemitter
      · rw [emitter?_of_mem_deeds hcall hdeed] at hemitter
        exact ⟨emitter, hemitter, hsink⟩

theorem says_of_mem_delivered {step : Operation} (hstep : step.IsStep) {state : State}
    {delivery : Delivery} (h : delivery ∈ step.delivered state) :
    step.Says state delivery.source := by
  obtain ⟨action, haction, moment, hdelivered⟩ := Action.exists_of_mem_gather h
  rcases Action.mem_deliveries_cases hdelivered with
    ⟨emitter, notice, stackLevel, location, rfl, -, -, rfl⟩ |
    ⟨emitter, text, stackLevel, location, rfl, rfl⟩ | ⟨wrapper, location, sink, rfl, -, rfl⟩ <;>
  rcases mem_actions_cases hstep haction with hquiet | hdeed
  · cases hquiet
  · exact ⟨emitter, List.mem_filterMap.mpr ⟨_, hdeed, rfl⟩, rfl⟩
  · cases hquiet
  · cases canDo_of_mem_deeds hdeed
    exact ⟨_, _, _, _, rfl⟩
  · cases hquiet
  · cases canDo_of_mem_deeds hdeed
    exact ⟨_, _, _, rfl, rfl⟩

theorem touches_cases_of_emitter? {step : Operation} {state : State} {emitter : Emitter}
    (h : step.emitter? state = some emitter) {part : Part} (htouches : step.Touches state part) :
    part = .registry emitter.registry ∨ part = .sink emitter.sink ∨
      ∃ latch, step.latch? = some latch ∧ part = .latch latch := by
  cases htouches with
  | registry hbrought =>
      obtain ⟨-, rfl⟩ := mem_attempts_of_emitter? h hbrought
      exact Or.inl rfl
  | sink hemitter =>
      obtain rfl := Option.some.inj (hemitter.symm.trans h)
      exact Or.inr (Or.inl rfl)
  | emptied htake =>
      subst htake
      cases h
  | latch hlatch => exact Or.inr (Or.inr ⟨_, hlatch, rfl⟩)

theorem eq_of_touches_emit {route : Route} {text : String} {stackLevel : UInt64} {location : Location}
    {state : State} {part : Part} (h : (emit route text stackLevel location).Touches state part) :
    part = .sink (state.resolve route).2.sink := by
  rcases touches_cases_of_emitter? rfl h with rfl | rfl | ⟨latch, hlatch, -⟩
  · cases h with
    | registry hbrought => exact absurd hbrought List.not_mem_nil
  · rfl
  · cases hlatch

theorem touches_call_cases {wrapper : Wrapper} {location : Location} {body : List Operation}
    {state : State} {part : Part} (h : (call wrapper location body).Touches state part) :
    part = .latch wrapper.latch ∨ part = .sink (state.resolve wrapper.route).2.sink := by
  rcases touches_cases_of_emitter? rfl h with rfl | rfl | ⟨latch, hlatch, rfl⟩
  · cases h with
    | registry hbrought => exact absurd hbrought List.not_mem_nil
  · exact Or.inr rfl
  · obtain rfl := Option.some.inj hlatch
    exact Or.inl rfl

theorem eq_of_touches_insert {registry : Address Registry} {notice : Notice} {state : State}
    {part : Part} (h : (insert registry notice).Touches state part) :
    part = .registry registry := by
  cases h with
  | registry hbrought =>
      obtain ⟨rfl, -⟩ := Prod.mk.inj (List.mem_singleton.mp hbrought)
      rfl
  | sink hemitter => cases hemitter
  | emptied htake => cases htake
  | latch hlatch => cases hlatch

theorem eq_of_touches_take {buffer : Address Buffer} {state : State} {part : Part}
    (h : (take buffer).Touches state part) : part = .sink (.capture buffer) := by
  cases h with
  | registry hbrought => exact absurd hbrought List.not_mem_nil
  | sink hemitter => cases hemitter
  | emptied htake =>
      obtain rfl := Operation.take.inj htake
      rfl
  | latch hlatch => cases hlatch

theorem registry_perform_of_not_touches {step : Operation} (hstep : step.IsStep) {state : State}
    {address : Address Registry} (h : ¬ step.Touches state (.registry address)) :
    (step.perform state).1.registry address = state.registry address := by
  rw [perform_fst]
  obtain ⟨gained, hnotices, hgained⟩ := Action.exists_gained (step.actions state) state address
  have hnone : gained = [] := by
    refine List.eq_nil_iff_forall_not_mem.mpr fun notice hmem => h ?_
    exact .registry ((exists_puts_iff hstep).mp ((hgained notice).mp hmem).2)
  apply Registry.ext
  rw [hnotices, hnone, List.append_nil]

theorem sink_ne_of_not_touches {step : Operation} (hstep : step.IsStep) {state : State}
    {sink : Sink} (h : ¬ step.Touches state (.sink sink)) :
    ∀ delivery ∈ step.delivered state, delivery.sink ≠ sink := by
  rintro delivery hdelivery rfl
  obtain ⟨emitter, hemitter, -, hsink⟩ := exists_emitter_of_mem_delivered hstep hdelivery
  rw [hsink] at h
  exact h (.sink hemitter)

theorem captured_perform_of_not_touches {step : Operation} (hstep : step.IsStep) {state : State}
    {sink : Sink} (h : ¬ step.Touches state (.sink sink)) :
    (step.perform state).1.captured sink = state.captured sink := by
  cases sink with
  | capture buffer =>
      have hnone : Delivery.warningsTo buffer (step.delivered state) = [] :=
        List.filterMap_eq_nil_iff.mpr fun delivery hdelivery =>
          if_neg (sink_ne_of_not_touches hstep h delivery hdelivery)
      change ((step.perform state).1.buffer buffer).warnings = (state.buffer buffer).warnings
      rw [warnings_perform hstep (fun htake => h (.emptied htake)), hnone, List.append_nil]
  | log withLocation => rfl
  | discard => rfl

theorem deliveriesTo_perform_of_not_touches {step : Operation} (hstep : step.IsStep)
    {state : State} {sink : Sink} (h : ¬ step.Touches state (.sink sink)) :
    (step.perform state).1.journal.deliveriesTo sink = state.journal.deliveriesTo sink := by
  have hnone : (step.delivered state).filter (fun delivery => delivery.sink = sink) = [] := by
    refine List.filter_eq_nil_iff.mpr fun delivery hdelivery => ?_
    simpa using sink_ne_of_not_touches hstep h delivery hdelivery
  rw [Journal.deliveriesTo, deliveries_perform, List.filter_append, hnone, List.append_nil,
    Journal.deliveriesTo]

theorem latch_perform_of_not_touches {step : Operation} (hstep : step.IsStep) {state : State}
    {address : Address Latch} (h : ¬ step.Touches state (.latch address)) :
    (step.perform state).1.latch address = state.latch address := by
  rw [perform_fst]
  refine Action.latch_performAll_of_ne (fun action haction hlatch => h (.latch ?_)) state
  exact (exists_latch?_iff hstep state address).mp ⟨action, haction, hlatch⟩

theorem hasWarned_perform_call {wrapper : Wrapper} {location : Location} {body : List Operation}
    (hstep : (call wrapper location body).IsStep) (state : State) :
    wrapper.hasWarned ((call wrapper location body).perform state).1 = true := by
  rw [Wrapper.hasWarned, perform_fst, Action.fired_performAll_iff]
  exact Or.inr ((exists_latch?_iff hstep state wrapper.latch).mpr rfl)

/-- A step leaves every part as it is that it does not touch. -/
theorem same_of_not_touches {step : Operation} (hstep : step.IsStep) {state : State} {part : Part}
    (h : ¬ step.Touches state part) : part.Same state (step.perform state).1 := by
  cases part with
  | registry address => exact registry_perform_of_not_touches hstep h
  | sink sink =>
      exact ⟨captured_perform_of_not_touches hstep h, deliveriesTo_perform_of_not_touches hstep h⟩
  | latch address => exact latch_perform_of_not_touches hstep h

theorem same_of_not_touched {steps : List Operation} (hsteps : ∀ step ∈ steps, step.IsStep)
    {state : State} {part : Part} (h : ¬ Touched steps state part) :
    part.Same state (performAll steps state) := by
  induction steps generalizing state with
  | nil =>
      rw [performAll]
      exact .refl part state
  | cons step rest ih =>
      rw [List.forall_mem_cons] at hsteps
      rw [Touched, not_or] at h
      rw [performAll]
      exact (same_of_not_touches hsteps.1 h.1).trans (ih hsteps.2 h.2)

theorem exists_gained_of_emitter? {step : Operation} (hstep : step.IsStep) {state : State}
    {emitter : Emitter} (h : step.emitter? state = some emitter) :
    ∃ gained, ((step.perform state).1.registry emitter.registry).notices =
        (state.registry emitter.registry).notices ++ gained ∧
      ∀ notice, notice ∈ gained ↔ notice ∉ state.registry emitter.registry ∧
        (emitter, notice) ∈ step.attempts state := by
  obtain ⟨gained, hnotices, hgained⟩ :=
    Action.exists_gained (step.actions state) state emitter.registry
  rw [perform_fst]
  refine ⟨gained, hnotices, fun notice => ?_⟩
  rw [hgained, exists_puts_iff hstep]
  refine and_congr_right fun hnew => ⟨fun hbrought => ?_, mem_brought_of_mem_attempts⟩
  exact (mem_attempts_of_emitter? h hbrought).1

theorem exists_delivered_of_emitter? {step : Operation} (hstep : step.IsStep) {state : State}
    {emitter : Emitter} (h : step.emitter? state = some emitter) :
    let next := (step.perform state).1
    ∃ left : Journal, next.journal = state.journal ++ left ∧
      (∀ delivery ∈ left.deliveries, emitter.enabled = true ∧ delivery.sink = emitter.sink ∧
        step.Says state delivery.source) ∧
      left.events.filter (fun event => event.severity = .warn) =
        left.deliveries.flatMap Delivery.events ∧
      ∀ buffer, emitter.sink = .capture buffer → (next.buffer buffer).warnings =
        (state.buffer buffer).warnings ++ left.deliveries.map Delivery.warning := by
  intro next
  have hnext : next = Action.performAll (step.actions state) state := perform_fst step state
  have hdelivered : ∀ delivery ∈ step.delivered state,
      emitter.enabled = true ∧ delivery.sink = emitter.sink ∧ step.Says state delivery.source := by
    intro delivery hdelivery
    obtain ⟨other, hother, henabled, hsink⟩ := exists_emitter_of_mem_delivered hstep hdelivery
    obtain rfl := Option.some.inj (hother.symm.trans h)
    exact ⟨henabled, hsink, says_of_mem_delivered hstep hdelivery⟩
  have hleft : Journal.deliveries (Action.gather Action.entries (step.actions state) state) =
      step.delivered state :=
    Action.deliveries_gather_entries (step.actions state) state
  refine ⟨Action.gather Action.entries (step.actions state) state, ?_, ?_, ?_, ?_⟩
  · rw [hnext, Action.journal_performAll]
  · rw [hleft]
    exact hdelivered
  · rw [hleft, Action.events_gather_entries]
    refine Action.filter_gather_events (fun event hevent => ?_) state
    rcases mem_actions_cases hstep hevent with hquiet | hdeed
    · exact hquiet
    · nomatch canDo_of_mem_deeds hdeed
  · intro buffer hbuffer
    have htake : step ≠ .take buffer := by
      rintro rfl
      cases h
    rw [hleft, show next = _ from rfl, warnings_perform hstep htake,
      Delivery.warningsTo_of_forall fun delivery hdelivery =>
        (hdelivered delivery hdelivery).2.1.trans hbuffer]

end Operation

/-- A question about the state of warnings or about an enumeration, with the type of its answer. -/
inductive Query : Type → Type 1 where
  | contains (registry : Address Registry) (notice : Notice) : Query Bool
  | registrySize (registry : Address Registry) : Query Nat
  | registryIsEmpty (registry : Address Registry) : Query Bool
  | notices (registry : Address Registry) : Query (List Notice)
  | captured (sink : Sink) : Query (List Warning)
  | texts (buffer : Address Buffer) : Query (List String)
  | bufferSize (buffer : Address Buffer) : Query Nat
  | bufferIsEmpty (buffer : Address Buffer) : Query Bool
  | hasWarned (wrapper : Wrapper) : Query Bool
  | hasFired (latch : Address Latch) : Query Bool
  | members {α : Type} (enumeration : Enumeration α) : Query (List (Member α))
  | enumerationSize {α : Type} (enumeration : Enumeration α) : Query Nat
  | enumerationIsEmpty {α : Type} (enumeration : Enumeration α) : Query Bool

namespace Query

def answer {β : Type} : Query β → State → β
  | .contains registry notice, state => (state.registry registry).contains notice
  | .registrySize registry, state => (state.registry registry).size
  | .registryIsEmpty registry, state => (state.registry registry).isEmpty
  | .notices registry, state => (state.registry registry).notices
  | .captured sink, state => state.captured sink
  | .texts buffer, state => (state.buffer buffer).texts
  | .bufferSize buffer, state => (state.buffer buffer).size
  | .bufferIsEmpty buffer, state => (state.buffer buffer).isEmpty
  | .hasWarned wrapper, state => wrapper.hasWarned state
  | .hasFired latch, state => (state.latch latch).fired
  | .members enumeration, _ => enumeration.members
  | .enumerationSize enumeration, _ => enumeration.size
  | .enumerationIsEmpty enumeration, _ => enumeration.isEmpty

/-- Asking gives an answer, and the state as it was. -/
def ask {β : Type} (query : Query β) (state : State) : State × β :=
  (state, query.answer state)

/-- The part that a question is about; the members of an enumeration belong to no state. -/
def part? {β : Type} : Query β → Option Part
  | .contains registry _ | .registrySize registry | .registryIsEmpty registry
  | .notices registry => some (.registry registry)
  | .captured sink => some (.sink sink)
  | .texts buffer | .bufferSize buffer | .bufferIsEmpty buffer => some (.sink (.capture buffer))
  | .hasWarned wrapper => some (.latch wrapper.latch)
  | .hasFired latch => some (.latch latch)
  | .members _ | .enumerationSize _ | .enumerationIsEmpty _ => none

theorem answer_of_same {β : Type} {query : Query β} {before after : State}
    (h : ∀ part ∈ query.part?, part.Same before after) :
    query.answer after = query.answer before := by
  cases query with
  | contains registry notice => exact congrArg (·.contains notice) (h _ rfl)
  | registrySize registry => exact congrArg Registry.size (h _ rfl)
  | registryIsEmpty registry => exact congrArg Registry.isEmpty (h _ rfl)
  | notices registry => exact congrArg Registry.notices (h _ rfl)
  | captured sink => exact (h _ rfl).1
  | texts buffer => exact congrArg (List.map Warning.text) (h _ rfl).1
  | bufferSize buffer => exact congrArg List.length (h _ rfl).1
  | bufferIsEmpty buffer => exact congrArg List.isEmpty (h _ rfl).1
  | hasWarned wrapper => exact congrArg Latch.fired (h _ rfl)
  | hasFired latch => exact congrArg Latch.fired (h _ rfl)
  | members enumeration => rfl
  | enumerationSize enumeration => rfl
  | enumerationIsEmpty enumeration => rfl

end Query

/-- A run is its steps, and what wrapped callables and hooks do while they run are steps of their
own.  A part that no step of a run touches is the same after the run.  A step through an emitter
changes nothing but the registry and the sink of the emitter and the latch that the step fires: the
registry gains the notices that the step attempts and that are new, and the sink is given the
deliveries of the step after what it was given before.  An emission changes the sink alone, the call
of a wrapper the sink and the latch of the wrapper; inserting changes the registry alone, and
emptying a buffer that buffer alone.  A question changes nothing, and its answer stays the same
unless a step touches what it is about. -/
theorem steps_touch_only_their_own (operations : List Operation) (state : State) :
    let steps := Operation.stepsAll operations state
    let final := Operation.performAll operations state
    Operation.performAll steps state = final ∧
      (∀ part, ¬ Operation.Touched steps state part → part.Same state final) ∧
      ∀ before step after, steps = before ++ step :: after →
        let moment := Operation.performAll before state
        let next := (step.perform moment).1
        (∀ part, ¬ step.Touches moment part → part.Same moment next) ∧
          (∀ emitter, step.emitter? moment = some emitter →
            (∀ part : Part, part ≠ .registry emitter.registry → part ≠ .sink emitter.sink →
              (∀ latch, step.latch? = some latch → part ≠ .latch latch) →
                part.Same moment next) ∧
              (∃ gained, (next.registry emitter.registry).notices =
                  (moment.registry emitter.registry).notices ++ gained ∧
                ∀ notice, notice ∈ gained ↔ notice ∉ moment.registry emitter.registry ∧
                  (emitter, notice) ∈ step.attempts moment) ∧
              ∃ left : Journal, next.journal = moment.journal ++ left ∧
                (∀ delivery ∈ left.deliveries, emitter.enabled = true ∧
                  delivery.sink = emitter.sink ∧ step.Says moment delivery.source) ∧
                left.events.filter (fun event => event.severity = .warn) =
                  left.deliveries.flatMap Delivery.events ∧
                ∀ buffer, emitter.sink = .capture buffer → (next.buffer buffer).warnings =
                  (moment.buffer buffer).warnings ++ left.deliveries.map Delivery.warning) ∧
          (∀ route text stackLevel location, step = .emit route text stackLevel location →
            ∀ part : Part, part ≠ .sink (moment.resolve route).2.sink → part.Same moment next) ∧
          (∀ wrapper location body, step = .call wrapper location body →
            wrapper.hasWarned next = true ∧
              ∀ part : Part, part ≠ .latch wrapper.latch →
                part ≠ .sink (moment.resolve wrapper.route).2.sink → part.Same moment next) ∧
          (∀ registry notice, step = .insert registry notice →
            next.journal = moment.journal ∧
              ∀ part : Part, part ≠ .registry registry → part.Same moment next) ∧
          (∀ buffer, step = .take buffer →
            (next.buffer buffer).warnings = [] ∧ next.journal = moment.journal ∧
              ∀ part : Part, part ≠ .sink (.capture buffer) → part.Same moment next) ∧
          ∀ β (query : Query β), (query.ask moment).1 = moment ∧
            ((∀ part ∈ query.part?, ¬ step.Touches moment part) →
              query.answer next = query.answer moment) := by
  intro steps final
  have hsteps : ∀ step ∈ steps, step.IsStep := Operation.isStep_of_mem_stepsAll operations state
  have hfinal : Operation.performAll steps state = final :=
    Operation.performAll_stepsAll operations state
  refine ⟨hfinal, ?_, ?_⟩
  · rw [← hfinal]
    exact fun part => Operation.same_of_not_touched hsteps
  intro before step after hsplit moment next
  have hstep : step.IsStep := hsteps step (by rw [hsplit]; simp)
  have hsame : ∀ part, ¬ step.Touches moment part → part.Same moment next :=
    fun part => Operation.same_of_not_touches hstep
  refine ⟨hsame, ?_, ?_, ?_, ?_, ?_, ?_⟩
  · intro emitter hemitter
    refine ⟨?_, Operation.exists_gained_of_emitter? hstep hemitter,
      Operation.exists_delivered_of_emitter? hstep hemitter⟩
    intro part hregistry hsink hlatch
    refine hsame part fun htouches => ?_
    rcases Operation.touches_cases_of_emitter? hemitter htouches with
      rfl | rfl | ⟨latch, hfires, rfl⟩
    · exact hregistry rfl
    · exact hsink rfl
    · exact hlatch latch hfires rfl
  · rintro route text stackLevel location rfl part hsink
    exact hsame part fun htouches => hsink (Operation.eq_of_touches_emit htouches)
  · rintro wrapper location body rfl
    refine ⟨Operation.hasWarned_perform_call hstep moment, fun part hlatch hsink => ?_⟩
    refine hsame part fun htouches => ?_
    rcases Operation.touches_call_cases htouches with rfl | rfl
    · exact hlatch rfl
    · exact hsink rfl
  · rintro registry notice rfl
    refine ⟨State.journal_insert moment registry notice, fun part hregistry => ?_⟩
    exact hsame part fun htouches => hregistry (Operation.eq_of_touches_insert htouches)
  · rintro buffer rfl
    refine ⟨?_, State.journal_take moment buffer, fun part hsink => ?_⟩
    · exact congrArg Buffer.warnings ((State.buffer_take moment buffer buffer).trans (if_pos rfl))
    · exact hsame part fun htouches => hsink (Operation.eq_of_touches_take htouches)
  · intro β query
    exact ⟨rfl, fun hnot => Query.answer_of_same fun part hpart => hsame part (hnot part hpart)⟩

end Deprecation
