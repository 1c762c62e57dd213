import Deprecation.State

/-!
Emitters.  An emitter shows a notice the first time its registry sees it, and sends the warning to
its sink unless it is switched off; a notice that a switched-off emitter has seen counts as seen all
the same.  One emitter serves the whole process.  It is made when it is first needed, from the
settings that the environment gives, unless one was installed before.
-/

namespace Deprecation

namespace Emitter

/-- The frames between an emitter and the reported use, unless given otherwise. -/
def defaultStackLevel : UInt64 := 2

/-- Makes an emitter over the registry of the process, as the settings say. -/
def ofConfig (config : Config) (state : State) : State × Emitter :=
  match config.channel with
  | .tracing => (state, ⟨Registry.shared, .log config.includeLocation, config.enabled⟩)
  | .discard => (state, ⟨Registry.shared, .discard, config.enabled⟩)
  | .capture =>
    let (state, buffer) := state.newBuffer
    (state, ⟨Registry.shared, .capture buffer, config.enabled⟩)

/-- The emitter that settings ask for, given a buffer for what it retains. -/
def made (config : Config) (buffer : Address Buffer) : Emitter where
  registry := Registry.shared
  sink :=
    match config.channel with
    | .tracing => .log config.includeLocation
    | .capture => .capture buffer
    | .discard => .discard
  enabled := config.enabled

/-- Delivers a text without asking the registry, unless the emitter is switched off. -/
def send (emitter : Emitter) (source : Source) (warning : Warning) (state : State) : State :=
  if emitter.enabled then state.deliver ⟨source, emitter.sink, warning⟩ else state

def emit (emitter : Emitter) (text : String) (stackLevel : UInt64) (location : Location)
    (state : State) : State :=
  emitter.send .direct ⟨text, stackLevel, location⟩ state

def warn (emitter : Emitter) (notice : Notice) (stackLevel : UInt64) (location : Location)
    (state : State) : State :=
  match state.insert emitter.registry notice with
  | (state, true) =>
    emitter.send (.notice emitter.registry notice) ⟨notice.text, stackLevel, location⟩ state
  | (state, false) => state.log (.alreadyReported notice)

/-- The stack level one frame further up.  Levels are machine words, so the last one is followed by
zero. -/
def levelAbove (stackLevel : UInt64) : UInt64 := stackLevel + 1

/-- The notice for an element that keeps its kind and its name but changes in a version. -/
def unchangedNotice (version : String) (kind : Kind) (name : String) (note : Option String) :
    Notice :=
  ⟨version, kind, name, some kind, some name, note⟩

/-- Shows the notice for an element that keeps its kind and its name, attributed one frame further
up. -/
def warnUnchanged (emitter : Emitter) (version : String) (kind : Kind) (name : String)
    (note : Option String) (stackLevel : UInt64) (location : Location) (state : State) : State :=
  emitter.warn (unchangedNotice version kind name note) (levelAbove stackLevel) location state

theorem toNat_levelAbove (stackLevel : UInt64) :
    (levelAbove stackLevel).toNat =
      if stackLevel.toNat + 1 = UInt64.size then 0 else stackLevel.toNat + 1 := by
  have hbound : stackLevel.toNat < UInt64.size := stackLevel.toNat_lt_size
  have hsum : (levelAbove stackLevel).toNat = (stackLevel.toNat + 1) % UInt64.size :=
    UInt64.toNat_add stackLevel 1
  rw [hsum]
  by_cases hlast : stackLevel.toNat + 1 = UInt64.size
  · rw [if_pos hlast, hlast, Nat.mod_self]
  · rw [if_neg hlast, Nat.mod_eq_of_lt (by omega)]

example : levelAbove 18446744073709551615 = 0 := by decide

theorem send_of_enabled {emitter : Emitter} (h : emitter.enabled = true) (source : Source)
    (warning : Warning) (state : State) :
    emitter.send source warning state = state.deliver ⟨source, emitter.sink, warning⟩ := by
  simp [send, h]

theorem send_of_disabled {emitter : Emitter} (h : emitter.enabled = false) (source : Source)
    (warning : Warning) (state : State) : emitter.send source warning state = state := by
  simp [send, h]

@[simp] theorem registry_send (emitter : Emitter) (source : Source) (warning : Warning)
    (state : State) (address : Address Registry) :
    (emitter.send source warning state).registry address = state.registry address := by
  unfold send
  split <;> simp

@[simp] theorem latch_send (emitter : Emitter) (source : Source) (warning : Warning)
    (state : State) (address : Address Latch) :
    (emitter.send source warning state).latch address = state.latch address := by
  unfold send
  split <;> simp

@[simp] theorem latches_send (emitter : Emitter) (source : Source) (warning : Warning)
    (state : State) : (emitter.send source warning state).latches = state.latches := by
  unfold send
  split <;> rfl

@[simp] theorem shared_send (emitter : Emitter) (source : Source) (warning : Warning)
    (state : State) : (emitter.send source warning state).shared = state.shared := by
  unfold send
  split <;> simp

@[simp] theorem environment_send (emitter : Emitter) (source : Source) (warning : Warning)
    (state : State) : (emitter.send source warning state).environment = state.environment := by
  unfold send
  split <;> rfl

theorem buffer_send (emitter : Emitter) (source : Source) (warning : Warning) (state : State)
    (address : Address Buffer) :
    (emitter.send source warning state).buffer address =
      if emitter.enabled = true ∧ emitter.sink = .capture address then
        (state.buffer address).push warning
      else state.buffer address := by
  cases h : emitter.enabled with
  | false => simp [send_of_disabled h]
  | true => simp [send_of_enabled h, State.buffer_deliver]

theorem journal_send (emitter : Emitter) (source : Source) (warning : Warning)
    (state : State) :
    (emitter.send source warning state).journal =
      state.journal ++
        if emitter.enabled then Delivery.entries ⟨source, emitter.sink, warning⟩ else [] := by
  unfold send
  split <;> simp

theorem deliveries_send (emitter : Emitter) (source : Source) (warning : Warning)
    (state : State) :
    (emitter.send source warning state).journal.deliveries =
      state.journal.deliveries ++
        if emitter.enabled = true then [⟨source, emitter.sink, warning⟩] else [] := by
  rw [journal_send, Journal.deliveries_append]
  split
  · rw [Journal.deliveries_entries]
  · rfl

theorem warningsOf_send (emitter : Emitter) (source about : Source) (warning : Warning)
    (state : State) :
    (emitter.send source warning state).journal.warningsOf about =
      state.journal.warningsOf about ++
        if emitter.enabled && source = about then [warning] else [] := by
  rw [Journal.warningsOf, deliveries_send, Delivery.warningsOf_append]
  by_cases h : source = about <;>
    cases emitter.enabled <;> simp [Journal.warningsOf, Delivery.warningsOf, h]

theorem warn_of_mem {emitter : Emitter} {notice : Notice} {state : State}
    (h : notice ∈ state.registry emitter.registry) (stackLevel : UInt64) (location : Location) :
    emitter.warn notice stackLevel location state = state.log (.alreadyReported notice) := by
  simp [warn, State.insert_of_mem h]

theorem warn_of_not_mem {emitter : Emitter} {notice : Notice} {state : State}
    (h : notice ∉ state.registry emitter.registry) (stackLevel : UInt64) (location : Location) :
    emitter.warn notice stackLevel location state =
      emitter.send (.notice emitter.registry notice) ⟨notice.text, stackLevel, location⟩
        (state.insert emitter.registry notice).1 := by
  simp [warn, State.insert_of_not_mem h]

theorem registry_warn (emitter : Emitter) (notice : Notice) (stackLevel : UInt64)
    (location : Location) (state : State) (address : Address Registry) :
    (emitter.warn notice stackLevel location state).registry address =
      if address = emitter.registry then (state.registry emitter.registry).add notice
      else state.registry address := by
  by_cases h : notice ∈ state.registry emitter.registry
  · rw [warn_of_mem h, State.registry_log, Registry.add_of_mem h]
    split
    · next haddress => rw [haddress]
    · rfl
  · rw [warn_of_not_mem h, registry_send, State.registry_insert]

@[simp] theorem latch_warn (emitter : Emitter) (notice : Notice) (stackLevel : UInt64)
    (location : Location) (state : State) (address : Address Latch) :
    (emitter.warn notice stackLevel location state).latch address = state.latch address := by
  by_cases h : notice ∈ state.registry emitter.registry
  · simp [warn_of_mem h]
  · simp [warn_of_not_mem h]

@[simp] theorem latches_warn (emitter : Emitter) (notice : Notice) (stackLevel : UInt64)
    (location : Location) (state : State) :
    (emitter.warn notice stackLevel location state).latches = state.latches := by
  by_cases h : notice ∈ state.registry emitter.registry
  · simp [warn_of_mem h]
  · simp [warn_of_not_mem h]

@[simp] theorem shared_warn (emitter : Emitter) (notice : Notice) (stackLevel : UInt64)
    (location : Location) (state : State) :
    (emitter.warn notice stackLevel location state).shared = state.shared := by
  by_cases h : notice ∈ state.registry emitter.registry
  · simp [warn_of_mem h]
  · simp [warn_of_not_mem h]

@[simp] theorem environment_warn (emitter : Emitter) (notice : Notice) (stackLevel : UInt64)
    (location : Location) (state : State) :
    (emitter.warn notice stackLevel location state).environment = state.environment := by
  by_cases h : notice ∈ state.registry emitter.registry
  · rw [warn_of_mem h]
    rfl
  · rw [warn_of_not_mem h, environment_send, State.environment_insert]

theorem buffer_warn (emitter : Emitter) (notice : Notice) (stackLevel : UInt64)
    (location : Location) (state : State) (address : Address Buffer) :
    (emitter.warn notice stackLevel location state).buffer address =
      if (notice ∉ state.registry emitter.registry ∧ emitter.enabled = true) ∧
          emitter.sink = .capture address then
        (state.buffer address).push ⟨notice.text, stackLevel, location⟩
      else state.buffer address := by
  by_cases h : notice ∈ state.registry emitter.registry
  · simp [warn_of_mem h, h]
  · simp [warn_of_not_mem h, buffer_send, h]

@[simp] theorem hooks_warn (emitter : Emitter) (notice : Notice) (stackLevel : UInt64)
    (location : Location) (state : State) :
    (emitter.warn notice stackLevel location state).journal.hooks = state.journal.hooks := by
  by_cases h : notice ∈ state.registry emitter.registry
  · rw [warn_of_mem h, State.journal_log, Journal.hooks_append]
    exact List.append_nil _
  · rw [warn_of_not_mem h, journal_send, State.journal_insert, Journal.hooks_append]
    cases emitter.enabled with
    | true => exact (congrArg _ (Journal.hooks_entries _)).trans (List.append_nil _)
    | false => exact List.append_nil _

theorem deliveries_warn (emitter : Emitter) (notice : Notice) (stackLevel : UInt64)
    (location : Location) (state : State) :
    (emitter.warn notice stackLevel location state).journal.deliveries =
      state.journal.deliveries ++
        if notice ∉ state.registry emitter.registry ∧ emitter.enabled = true then
          [⟨.notice emitter.registry notice, emitter.sink, ⟨notice.text, stackLevel, location⟩⟩]
        else [] := by
  by_cases h : notice ∈ state.registry emitter.registry
  · simp [warn_of_mem h, h]
  · simp [warn_of_not_mem h, deliveries_send, h]

end Emitter

/-- The emitter that an operation goes through: one of its own, or that of the process. -/
inductive Route where
  | own (emitter : Emitter)
  | shared
deriving DecidableEq, Repr

namespace State

/-- The emitter of the process, which is made now if it does not exist. -/
def sharedEmitter (state : State) : State × Emitter :=
  match state.shared with
  | some emitter => (state, emitter)
  | none =>
    let (state, emitter) := Emitter.ofConfig (({} : Config).override state.environment) state
    ({ state with shared := some emitter }, emitter)

/-- Makes an emitter that of the process; this fails once the process has one. -/
def install (state : State) (emitter : Emitter) : State × Except Error Emitter :=
  match state.shared with
  | some _ => (state, .error .emitterAlreadyInstalled)
  | none => ({ state with shared := some emitter }, .ok emitter)

def resolve (state : State) : Route → State × Emitter
  | .own emitter => (state, emitter)
  | .shared => state.sharedEmitter

theorem sharedEmitter_of_some {state : State} {emitter : Emitter}
    (h : state.shared = some emitter) : state.sharedEmitter = (state, emitter) := by
  simp [sharedEmitter, h]

theorem ofConfig_snd (config : Config) (state : State) :
    (Emitter.ofConfig config state).2 = Emitter.made config state.buffers.fresh := by
  unfold Emitter.ofConfig Emitter.made
  cases config.channel <;> rfl

theorem sharedEmitter_snd (state : State) :
    state.sharedEmitter.2 = state.shared.getD
      (Emitter.made (({} : Config).override state.environment) state.buffers.fresh) := by
  cases h : state.shared with
  | some emitter => rw [sharedEmitter_of_some h, Option.getD_some]
  | none => simp only [sharedEmitter, h, ofConfig_snd, Option.getD_none]

@[simp] theorem shared_sharedEmitter (state : State) :
    state.sharedEmitter.1.shared = some state.sharedEmitter.2 := by
  unfold sharedEmitter
  split
  · next emitter h => exact h
  · rfl

@[simp] theorem registry_ofConfig (config : Config) (state : State)
    (address : Address Registry) :
    (Emitter.ofConfig config state).1.registry address = state.registry address := by
  unfold Emitter.ofConfig
  split <;> rfl

@[simp] theorem buffer_ofConfig (config : Config) (state : State) (address : Address Buffer) :
    (Emitter.ofConfig config state).1.buffer address = state.buffer address := by
  unfold Emitter.ofConfig
  split
  · rfl
  · rfl
  · exact buffer_newBuffer state address

@[simp] theorem latch_ofConfig (config : Config) (state : State) (address : Address Latch) :
    (Emitter.ofConfig config state).1.latch address = state.latch address := by
  unfold Emitter.ofConfig
  split <;> rfl

@[simp] theorem latches_ofConfig (config : Config) (state : State) :
    (Emitter.ofConfig config state).1.latches = state.latches := by
  unfold Emitter.ofConfig
  split <;> rfl

@[simp] theorem journal_ofConfig (config : Config) (state : State) :
    (Emitter.ofConfig config state).1.journal = state.journal := by
  unfold Emitter.ofConfig
  split <;> rfl

@[simp] theorem shared_ofConfig (config : Config) (state : State) :
    (Emitter.ofConfig config state).1.shared = state.shared := by
  unfold Emitter.ofConfig
  split <;> rfl

@[simp] theorem environment_ofConfig (config : Config) (state : State) :
    (Emitter.ofConfig config state).1.environment = state.environment := by
  unfold Emitter.ofConfig
  split <;> rfl

@[simp] theorem registry_sharedEmitter (state : State) (address : Address Registry) :
    state.sharedEmitter.1.registry address = state.registry address := by
  unfold sharedEmitter
  split
  · rfl
  · exact registry_ofConfig _ _ _

@[simp] theorem buffer_sharedEmitter (state : State) (address : Address Buffer) :
    state.sharedEmitter.1.buffer address = state.buffer address := by
  unfold sharedEmitter
  split
  · rfl
  · exact buffer_ofConfig _ _ _

@[simp] theorem latch_sharedEmitter (state : State) (address : Address Latch) :
    state.sharedEmitter.1.latch address = state.latch address := by
  unfold sharedEmitter
  split
  · rfl
  · exact latch_ofConfig _ _ _

@[simp] theorem latches_sharedEmitter (state : State) :
    state.sharedEmitter.1.latches = state.latches := by
  unfold sharedEmitter
  split
  · rfl
  · exact latches_ofConfig _ _

@[simp] theorem journal_sharedEmitter (state : State) :
    state.sharedEmitter.1.journal = state.journal := by
  unfold sharedEmitter
  split
  · rfl
  · exact journal_ofConfig _ _

@[simp] theorem environment_sharedEmitter (state : State) :
    state.sharedEmitter.1.environment = state.environment := by
  unfold sharedEmitter
  split
  · rfl
  · exact environment_ofConfig _ _

@[simp] theorem registry_resolve (state : State) (route : Route) (address : Address Registry) :
    (state.resolve route).1.registry address = state.registry address := by
  cases route with
  | own emitter => rfl
  | shared => exact registry_sharedEmitter state address

@[simp] theorem buffer_resolve (state : State) (route : Route) (address : Address Buffer) :
    (state.resolve route).1.buffer address = state.buffer address := by
  cases route with
  | own emitter => rfl
  | shared => exact buffer_sharedEmitter state address

@[simp] theorem latch_resolve (state : State) (route : Route) (address : Address Latch) :
    (state.resolve route).1.latch address = state.latch address := by
  cases route with
  | own emitter => rfl
  | shared => exact latch_sharedEmitter state address

@[simp] theorem latches_resolve (state : State) (route : Route) :
    (state.resolve route).1.latches = state.latches := by
  cases route with
  | own emitter => rfl
  | shared => exact latches_sharedEmitter state

@[simp] theorem journal_resolve (state : State) (route : Route) :
    (state.resolve route).1.journal = state.journal := by
  cases route with
  | own emitter => rfl
  | shared => exact journal_sharedEmitter state

@[simp] theorem environment_resolve (state : State) (route : Route) :
    (state.resolve route).1.environment = state.environment := by
  cases route with
  | own emitter => rfl
  | shared => exact environment_sharedEmitter state

theorem resolve_snd_congr (first second : State) (hshared : second.shared = first.shared)
    (henvironment : second.environment = first.environment)
    (hbuffers : second.buffers = first.buffers) (route : Route) :
    (second.resolve route).2 = (first.resolve route).2 := by
  cases route with
  | own emitter => rfl
  | shared =>
    change second.sharedEmitter.2 = first.sharedEmitter.2
    rw [sharedEmitter_snd, sharedEmitter_snd, hshared, henvironment, hbuffers]

@[simp] theorem resolve_fire_snd (state : State) (address : Address Latch) (route : Route) :
    ((state.fire address).1.resolve route).2 = (state.resolve route).2 :=
  resolve_snd_congr state (state.fire address).1 rfl rfl rfl route

end State

namespace Route

/-- Delivers a text as it is, through the emitter of a route. -/
def emit (route : Route) (text : String) (stackLevel : UInt64) (location : Location)
    (state : State) : State :=
  let (state, emitter) := state.resolve route
  emitter.emit text stackLevel location state

def warn (route : Route) (notice : Notice) (stackLevel : UInt64) (location : Location)
    (state : State) : State :=
  let (state, emitter) := state.resolve route
  emitter.warn notice stackLevel location state

/-- Shows the notice for an element that keeps its kind and its name, through the emitter of a
route. -/
def warnUnchanged (route : Route) (version : String) (kind : Kind) (name : String)
    (note : Option String) (stackLevel : UInt64) (location : Location) (state : State) : State :=
  let (state, emitter) := state.resolve route
  emitter.warnUnchanged version kind name note stackLevel location state

end Route

end Deprecation
