import Deprecation.Arguments

/-!
Callables that announce their deprecation.  A wrapper of a method or a function warns on its first
call, whatever any registry has seen, and keeps a latch of its own for that.  A renamed function
renames its keyword arguments before each call, and is not called when they conflict.
-/

namespace Deprecation

/-- A callable as far as warnings are concerned: what it answers, which does not depend on any
warning, and what it does to the state of warnings while it runs. -/
structure Callable (α β : Type) where
  answer : α → β
  effect : α → State → State := fun _ state => state

def Callable.run {α β : Type} (callable : Callable α β) (arguments : α) (state : State) :
    State × β :=
  (callable.effect arguments state, callable.answer arguments)

/-- What is announced about a method or a function, before its name is known. -/
structure CallableDeprecation where
  kind : Kind
  version : String
  replacement : Replacement
  note : Option String := none
  stackLevel : UInt64
  route : Route := .shared
deriving DecidableEq, Repr

/-- A wrapper around a method or a function.  The text is made once, when the wrapper is made. -/
structure Wrapper where
  name : String
  text : String
  stackLevel : UInt64
  route : Route
  latch : Address Latch
deriving DecidableEq, Repr

namespace CallableDeprecation

/-- The text for a method or a function of a name.  It shows the replacement even when the name of
the replacement is empty. -/
def text (deprecation : CallableDeprecation) (name : String) : String :=
  sentence deprecation.version deprecation.kind name (some deprecation.replacement)
    deprecation.note

/-- Makes a wrapper with a latch of its own. -/
def wrap (deprecation : CallableDeprecation) (name : String) (state : State) :
    State × Wrapper :=
  let (state, latch) := state.newLatch
  (state, ⟨name, deprecation.text name, deprecation.stackLevel, deprecation.route, latch⟩)

theorem wrap_snd (deprecation : CallableDeprecation) (name : String) (state : State) :
    (deprecation.wrap name state).2 =
      ⟨name, deprecation.text name, deprecation.stackLevel, deprecation.route,
        state.newLatch.2⟩ := rfl

theorem text_wrap (deprecation : CallableDeprecation) (name : String) (state : State) :
    (deprecation.wrap name state).2.text = deprecation.text name := by
  rw [wrap_snd]

end CallableDeprecation

namespace Wrapper

def hasWarned (wrapper : Wrapper) (state : State) : Bool :=
  (state.latch wrapper.latch).fired

/-- Warns at the first call; every later call is only logged. -/
def announce (wrapper : Wrapper) (location : Location) (state : State) : State :=
  let (state, isFirst) := state.fire wrapper.latch
  if isFirst then
    let (state, emitter) := state.resolve wrapper.route
    emitter.send (.wrapper wrapper.latch) ⟨wrapper.text, wrapper.stackLevel, location⟩ state
  else state.log (.alreadyShown wrapper.name)

/-- Calls what is wrapped, after the warning. -/
def call {α β : Type} (wrapper : Wrapper) (callable : Callable α β) (arguments : α)
    (location : Location) (state : State) : State × β :=
  callable.run arguments (wrapper.announce location state)

theorem announce_of_hasWarned {wrapper : Wrapper} {state : State}
    (h : wrapper.hasWarned state = true) (location : Location) :
    wrapper.announce location state =
      (state.fire wrapper.latch).1.log (.alreadyShown wrapper.name) := by
  have hfired : (state.latch wrapper.latch).fired = true := h
  simp [announce, hfired]

theorem announce_of_not_hasWarned {wrapper : Wrapper} {state : State}
    (h : wrapper.hasWarned state = false) (location : Location) :
    wrapper.announce location state =
      ((state.fire wrapper.latch).1.resolve wrapper.route).2.send (.wrapper wrapper.latch)
        ⟨wrapper.text, wrapper.stackLevel, location⟩
        ((state.fire wrapper.latch).1.resolve wrapper.route).1 := by
  have hfired : (state.latch wrapper.latch).fired = false := h
  simp [announce, hfired]

@[simp] theorem registry_announce (wrapper : Wrapper) (location : Location) (state : State)
    (address : Address Registry) :
    (wrapper.announce location state).registry address = state.registry address := by
  cases h : wrapper.hasWarned state with
  | true => rw [announce_of_hasWarned h, State.registry_log, State.registry_fire]
  | false =>
    rw [announce_of_not_hasWarned h, Emitter.registry_send, State.registry_resolve,
      State.registry_fire]

theorem latches_announce (wrapper : Wrapper) (location : Location) (state : State) :
    (wrapper.announce location state).latches = state.latches.set wrapper.latch ⟨true⟩ := by
  cases h : wrapper.hasWarned state with
  | true =>
    rw [announce_of_hasWarned h]
    rfl
  | false =>
    rw [announce_of_not_hasWarned h, Emitter.latches_send, State.latches_resolve]
    rfl

@[simp] theorem environment_announce (wrapper : Wrapper) (location : Location) (state : State) :
    (wrapper.announce location state).environment = state.environment := by
  cases h : wrapper.hasWarned state with
  | true =>
    rw [announce_of_hasWarned h]
    rfl
  | false =>
    rw [announce_of_not_hasWarned h, Emitter.environment_send, State.environment_resolve]
    rfl

end Wrapper

/-- A function whose keyword arguments are renamed before each call. -/
structure RenamedFunction where
  renamer : Renamer
  name : String

namespace RenamedFunction

/-- Calls what is wrapped with the renamed arguments; a refused call does not reach it. -/
def call {α β γ : Type} (function : RenamedFunction) (callable : Callable (α × KwArgs β) γ)
    (arguments : α) (kwargs : KwArgs β) (location : Location) (state : State) :
    State × Except Error γ :=
  match function.renamer.rename function.name location kwargs state with
  | (state, .error error) => (state, .error error)
  | (state, .ok kwargs) =>
    let (state, result) := callable.run (arguments, kwargs) state
    (state, .ok result)

end RenamedFunction

end Deprecation
