import Deprecation.Config.Override
import Deprecation.Journal

/-!
The state of warnings in a process, and the single steps that change it: entering a notice into a
registry, firing a latch, delivering a warning, emptying a buffer, and writing the journal.  The
views of a state are the contents of its registries, buffers and latches, and its journal; each
step comes with what it does to every view.
-/

namespace Deprecation

/-- An emitter: the registry it consults, the sink it writes to, and whether it writes at all. -/
structure Emitter where
  registry : Address Registry
  sink : Sink
  enabled : Bool := true
deriving DecidableEq, Repr

/-- The state of warnings in a process: the contents of all registries, buffers and latches, the
process-wide emitter once it exists, the environment, and the journal so far. -/
structure State where
  registries : Cells Registry := ⟨[Registry.empty]⟩
  buffers : Cells Buffer := {}
  latches : Cells Latch := {}
  shared : Option Emitter := none
  environment : Environment := {}
  journal : Journal := []

/-- The registry of the whole process. -/
def Registry.shared : Address Registry := ⟨0⟩

namespace State

def note (state : State) (entry : Entry) : State :=
  { state with journal := state.journal ++ [entry] }

def log (state : State) (event : Event) : State :=
  state.note (.logged event)

def registry (state : State) (address : Address Registry) : Registry :=
  state.registries.get address

def buffer (state : State) (address : Address Buffer) : Buffer :=
  state.buffers.get address

def latch (state : State) (address : Address Latch) : Latch :=
  state.latches.get address

def newRegistry (state : State) : State × Address Registry :=
  let (registries, address) := state.registries.alloc Registry.empty
  ({ state with registries }, address)

def newBuffer (state : State) : State × Address Buffer :=
  let (buffers, address) := state.buffers.alloc {}
  ({ state with buffers }, address)

def newLatch (state : State) : State × Address Latch :=
  let (latches, address) := state.latches.alloc {}
  ({ state with latches }, address)

/-- Enters a notice into a registry, and answers whether it is new there. -/
def insert (state : State) (address : Address Registry) (notice : Notice) : State × Bool :=
  match (state.registry address).insert notice with
  | (true, registry) =>
    ({ state with registries := state.registries.set address registry }, true)
  | (false, _) => (state, false)

/-- Fires a latch, and answers whether it fires for the first time. -/
def fire (state : State) (address : Address Latch) : State × Bool :=
  let (isFirst, latch) := (state.latch address).fire
  ({ state with latches := state.latches.set address latch }, isFirst)

/-- Empties a buffer, and answers what it retained. -/
def take (state : State) (address : Address Buffer) : State × List Warning :=
  ({ state with buffers := state.buffers.set address {} }, (state.buffer address).warnings)

def deliver (state : State) (delivery : Delivery) : State :=
  { state with
    journal := state.journal ++ delivery.entries
    buffers :=
      match delivery.sink with
      | .capture address =>
        state.buffers.update address fun buffer => buffer.push delivery.warning
      | _ => state.buffers }

/-- The warnings that a sink retains; only buffers retain any. -/
def captured (state : State) : Sink → List Warning
  | .capture address => (state.buffer address).warnings
  | _ => []

@[simp] theorem journal_note (state : State) (entry : Entry) :
    (state.note entry).journal = state.journal ++ [entry] := rfl

@[simp] theorem registry_note (state : State) (entry : Entry) (address : Address Registry) :
    (state.note entry).registry address = state.registry address := rfl

@[simp] theorem buffer_note (state : State) (entry : Entry) (address : Address Buffer) :
    (state.note entry).buffer address = state.buffer address := rfl

@[simp] theorem latch_note (state : State) (entry : Entry) (address : Address Latch) :
    (state.note entry).latch address = state.latch address := rfl

@[simp] theorem shared_note (state : State) (entry : Entry) :
    (state.note entry).shared = state.shared := rfl

@[simp] theorem journal_log (state : State) (event : Event) :
    (state.log event).journal = state.journal ++ [.logged event] := rfl

@[simp] theorem registry_log (state : State) (event : Event) (address : Address Registry) :
    (state.log event).registry address = state.registry address := rfl

@[simp] theorem buffer_log (state : State) (event : Event) (address : Address Buffer) :
    (state.log event).buffer address = state.buffer address := rfl

@[simp] theorem latch_log (state : State) (event : Event) (address : Address Latch) :
    (state.log event).latch address = state.latch address := rfl

@[simp] theorem latches_log (state : State) (event : Event) :
    (state.log event).latches = state.latches := rfl

@[simp] theorem shared_log (state : State) (event : Event) :
    (state.log event).shared = state.shared := rfl

theorem insert_of_mem {state : State} {address : Address Registry} {notice : Notice}
    (h : notice ∈ state.registry address) : state.insert address notice = (state, false) := by
  have hcontains := Registry.contains_iff.mpr h
  simp [insert, Registry.insert, hcontains]

theorem insert_of_not_mem {state : State} {address : Address Registry} {notice : Notice}
    (h : notice ∉ state.registry address) :
    state.insert address notice =
      ({ state with
          registries := state.registries.set address ((state.registry address).add notice) },
        true) := by
  have hcontains := Registry.contains_eq_false_iff.mpr h
  simp [insert, Registry.insert, hcontains]

theorem insert_snd (state : State) (address : Address Registry) (notice : Notice) :
    (state.insert address notice).2 = !(state.registry address).contains notice := by
  by_cases h : notice ∈ state.registry address
  · rw [insert_of_mem h, Registry.contains_iff.mpr h]
    rfl
  · rw [insert_of_not_mem h, Registry.contains_eq_false_iff.mpr h]
    rfl

theorem registry_insert (state : State) (address other : Address Registry) (notice : Notice) :
    (state.insert address notice).1.registry other =
      if other = address then (state.registry address).add notice else state.registry other := by
  by_cases h : notice ∈ state.registry address
  · rw [insert_of_mem h, Registry.add_of_mem h]
    split
    · next hother => rw [hother]
    · rfl
  · rw [insert_of_not_mem h]
    exact Cells.get_set _ _ _ _

@[simp] theorem buffer_insert (state : State) (address : Address Registry) (notice : Notice)
    (buffer : Address Buffer) :
    (state.insert address notice).1.buffer buffer = state.buffer buffer := by
  by_cases h : notice ∈ state.registry address
  · rw [insert_of_mem h]
  · rw [insert_of_not_mem h]
    rfl

@[simp] theorem latch_insert (state : State) (address : Address Registry) (notice : Notice)
    (latch : Address Latch) :
    (state.insert address notice).1.latch latch = state.latch latch := by
  by_cases h : notice ∈ state.registry address
  · rw [insert_of_mem h]
  · rw [insert_of_not_mem h]
    rfl

@[simp] theorem latches_insert (state : State) (address : Address Registry) (notice : Notice) :
    (state.insert address notice).1.latches = state.latches := by
  by_cases h : notice ∈ state.registry address
  · rw [insert_of_mem h]
  · rw [insert_of_not_mem h]

@[simp] theorem shared_insert (state : State) (address : Address Registry) (notice : Notice) :
    (state.insert address notice).1.shared = state.shared := by
  by_cases h : notice ∈ state.registry address
  · rw [insert_of_mem h]
  · rw [insert_of_not_mem h]

@[simp] theorem environment_insert (state : State) (address : Address Registry)
    (notice : Notice) : (state.insert address notice).1.environment = state.environment := by
  by_cases h : notice ∈ state.registry address
  · rw [insert_of_mem h]
  · rw [insert_of_not_mem h]

@[simp] theorem journal_insert (state : State) (address : Address Registry) (notice : Notice) :
    (state.insert address notice).1.journal = state.journal := by
  by_cases h : notice ∈ state.registry address
  · rw [insert_of_mem h]
  · rw [insert_of_not_mem h]

@[simp] theorem fire_snd (state : State) (address : Address Latch) :
    (state.fire address).2 = !(state.latch address).fired := rfl

theorem latch_fire (state : State) (address other : Address Latch) :
    (state.fire address).1.latch other =
      if other = address then ⟨true⟩ else state.latch other :=
  Cells.get_set _ _ _ _

@[simp] theorem registry_fire (state : State) (address : Address Latch)
    (registry : Address Registry) :
    (state.fire address).1.registry registry = state.registry registry := rfl

@[simp] theorem buffer_fire (state : State) (address : Address Latch)
    (buffer : Address Buffer) :
    (state.fire address).1.buffer buffer = state.buffer buffer := rfl

@[simp] theorem shared_fire (state : State) (address : Address Latch) :
    (state.fire address).1.shared = state.shared := rfl

@[simp] theorem journal_fire (state : State) (address : Address Latch) :
    (state.fire address).1.journal = state.journal := rfl

@[simp] theorem journal_deliver (state : State) (delivery : Delivery) :
    (state.deliver delivery).journal = state.journal ++ delivery.entries := rfl

@[simp] theorem registry_deliver (state : State) (delivery : Delivery)
    (address : Address Registry) :
    (state.deliver delivery).registry address = state.registry address := rfl

@[simp] theorem latch_deliver (state : State) (delivery : Delivery) (address : Address Latch) :
    (state.deliver delivery).latch address = state.latch address := rfl

@[simp] theorem shared_deliver (state : State) (delivery : Delivery) :
    (state.deliver delivery).shared = state.shared := rfl

theorem buffer_deliver (state : State) (delivery : Delivery) (address : Address Buffer) :
    (state.deliver delivery).buffer address =
      if delivery.sink = .capture address then (state.buffer address).push delivery.warning
      else state.buffer address := by
  obtain ⟨source, sink, warning⟩ := delivery
  cases sink with
  | capture target =>
    by_cases h : address = target
    · subst h
      simp [deliver, State.buffer, Cells.update]
    · have hne : Sink.capture target ≠ .capture address := by
        intro heq
        exact h (Sink.capture.inj heq).symm
      simp [deliver, State.buffer, Cells.update, Cells.get_set_of_ne _ _ h, hne]
  | log withLocation => simp [deliver, State.buffer]
  | discard => simp [deliver, State.buffer]

@[simp] theorem take_snd (state : State) (address : Address Buffer) :
    (state.take address).2 = (state.buffer address).warnings := rfl

theorem buffer_take (state : State) (address other : Address Buffer) :
    (state.take address).1.buffer other = if other = address then {} else state.buffer other :=
  Cells.get_set _ _ _ _

@[simp] theorem registry_take (state : State) (address : Address Buffer)
    (registry : Address Registry) :
    (state.take address).1.registry registry = state.registry registry := rfl

@[simp] theorem journal_take (state : State) (address : Address Buffer) :
    (state.take address).1.journal = state.journal := rfl

@[simp] theorem registry_newRegistry (state : State) (address : Address Registry) :
    state.newRegistry.1.registry address = state.registry address :=
  Cells.get_alloc_default _ _

@[simp] theorem buffer_newBuffer (state : State) (address : Address Buffer) :
    state.newBuffer.1.buffer address = state.buffer address :=
  Cells.get_alloc_default _ _

@[simp] theorem latch_newLatch (state : State) (address : Address Latch) :
    state.newLatch.1.latch address = state.latch address :=
  Cells.get_alloc_default _ _

theorem latch_newLatch_snd (state : State) : state.newLatch.1.latch state.newLatch.2 = {} :=
  (latch_newLatch state _).trans (Cells.get_fresh _)

end State

end Deprecation
