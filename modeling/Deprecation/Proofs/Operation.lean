import Deprecation.Enumeration
import Deprecation.Proofs.Action
import Deprecation.Proofs.Renaming.Moves

/-!
Runs of operations.  An operation is a call of the library, and a wrapped callable or the hook of a
member may call the library again, so that operations form trees.  The main statement is that a run
performs a plain list of actions, one after the other; what is proved for all lists of actions holds
for every run.
-/

namespace Deprecation

/-- An enumeration as it is declared: the names and the values of its members. -/
structure Declaration (α : Type) where
  name : String
  members : List (String × α)
  display : α → String
  nodup : (members.map Prod.fst).Nodup

inductive Lookup (α : Type) where
  | member (name : String) (value : α)
  | name (name : String)
  | value (value : α)
  | all

/-- What a caller sees of an answer: the error, if it is one. -/
def answered {β : Type} : State × Except Error β → State × Option Error
  | (state, .ok _) => (state, none)
  | (state, .error error) => (state, some error)

theorem answered_fst {β : Type} (answer : State × Except Error β) :
    (answered answer).1 = answer.1 := by
  obtain ⟨state, error | value⟩ := answer <;> rfl

theorem answered_snd_iff {β : Type} {answer : State × Except Error β} {error : Error} :
    (answered answer).2 = some error ↔ answer.2 = .error error := by
  obtain ⟨state, cause | value⟩ := answer <;> simp [answered]

namespace Declaration

variable {α : Type}

def toMember (hook : String → State → State) (member : String × α) : Member α :=
  ⟨member.1, member.2, hook member.1⟩

/-- The enumeration in which each member has the hook for its name. -/
def withHooks (declaration : Declaration α) (hook : String → State → State) : Enumeration α where
  name := declaration.name
  members := declaration.members.map (toMember hook)
  display := declaration.display
  nodup := by
    rw [List.map_map]
    exact declaration.nodup

def lookUp [BEq α] (declaration : Declaration α) (hook : String → State → State) :
    Lookup α → State → State × Option Error
  | .member name value, state =>
      (((declaration.withHooks hook).byMember (toMember hook (name, value)) state).1, none)
  | .name name, state => answered ((declaration.withHooks hook).byName name state)
  | .value value, state => answered ((declaration.withHooks hook).byValue value state)
  | .all, state => (((declaration.withHooks hook).list state).1, none)

def accessed [BEq α] (declaration : Declaration α) : Lookup α → List String
  | .member name _ => ((declaration.members.find? fun member => member.1 == name).map (·.1)).toList
  | .name name => ((declaration.members.find? fun member => member.1 == name).map (·.1)).toList
  | .value value =>
      ((declaration.members.find? fun member => member.2 == value).map (·.1)).toList
  | .all => declaration.members.map (·.1)

/-- A member of a name is accessed, and its hook is about to run. -/
def enter (declaration : Declaration α) (name : String) (state : State) : State :=
  (state.log (.memberAccessed declaration.name name)).note (.hookFired declaration.name name)

theorem find?_withHooks (declaration : Declaration α) (hook : String → State → State)
    (name : String) :
    (declaration.withHooks hook).find? name =
      (declaration.members.find? fun member => member.1 == name).map (toMember hook) :=
  List.find?_map

theorem lookUp_fst [BEq α] (declaration : Declaration α) (hook : String → State → State)
    (lookup : Lookup α) (state : State) :
    (declaration.lookUp hook lookup state).1 =
      (declaration.accessed lookup).foldl
        (fun state name => hook name (declaration.enter name state)) state := by
  cases lookup with
  | member name value =>
      simp only [lookUp, accessed, Enumeration.byMember, find?_withHooks,
        show (toMember hook (name, value)).name = name from rfl]
      cases declaration.members.find? fun member => member.1 == name <;> rfl
  | name name =>
      simp only [lookUp, accessed, Enumeration.byName, find?_withHooks]
      cases declaration.members.find? fun member => member.1 == name <;> rfl
  | value value =>
      have hfind :
          (declaration.withHooks hook).members.find? (fun member => member.value == value) =
            (declaration.members.find? fun member => member.2 == value).map (toMember hook) :=
        List.find?_map
      simp only [lookUp, accessed, Enumeration.byValue, hfind]
      cases declaration.members.find? fun member => member.2 == value <;> rfl
  | all =>
      simp only [lookUp, accessed, Enumeration.list, withHooks, List.foldl_map]
      rfl

end Declaration

/-- A call of the library.  What a wrapped callable or a hook does while it runs is given as the
operations that it performs: for a function with renamed arguments they depend on the arguments, for
the members of an enumeration on the name. -/
inductive Operation : Type 1 where
  | warn (route : Route) (notice : Notice) (stackLevel : UInt64) (location : Location)
  | warnUnchanged (route : Route) (version : String) (kind : Kind) (name : String)
      (note : Option String) (stackLevel : UInt64) (location : Location)
  | emit (route : Route) (text : String) (stackLevel : UInt64) (location : Location)
  | insert (registry : Address Registry) (notice : Notice)
  | rename {α : Type} (renamer : Renamer) (function : String) (location : Location)
      (kwargs : KwArgs α)
  | callRenamed {α : Type} (function : RenamedFunction) (location : Location)
      (kwargs : KwArgs α) (body : KwArgs α → List Operation)
  | call (wrapper : Wrapper) (location : Location) (body : List Operation)
  | access {α : Type} [BEq α] (declaration : Declaration α) (hooks : String → List Operation)
      (lookup : Lookup α)
  | fire (latch : Address Latch)
  | take (buffer : Address Buffer)
  | resolve
  | install (emitter : Emitter)
  | configure (config : Config)
  | wrap (deprecation : CallableDeprecation) (name : String)
  | newRegistry
  | newBuffer
  | newLatch

namespace Operation

mutual

/-- The state after an operation, and the error if it answers with one. -/
def perform : Operation → State → State × Option Error
  | .warn route notice stackLevel location, state =>
      (route.warn notice stackLevel location state, none)
  | .warnUnchanged route version kind name note stackLevel location, state =>
      (route.warnUnchanged version kind name note stackLevel location state, none)
  | .emit route text stackLevel location, state =>
      (route.emit text stackLevel location state, none)
  | .insert registry notice, state => ((state.insert registry notice).1, none)
  | .rename renamer function location kwargs, state =>
      let outcome := renamer.renameInPlace function location kwargs state
      (outcome.state, outcome.error)
  | .callRenamed function location kwargs body, state =>
      answered (function.call
        ⟨fun _ => (), fun arguments => performAll (body arguments.2)⟩ () kwargs location state)
  | .call wrapper location body, state =>
      ((wrapper.call ⟨fun _ => (), fun _ => performAll body⟩ () location state).1, none)
  | @access _ _ declaration hooks lookup, state =>
      declaration.lookUp (fun name => performAll (hooks name)) lookup state
  | .fire latch, state => ((state.fire latch).1, none)
  | .take buffer, state => ((state.take buffer).1, none)
  | .resolve, state => (state.sharedEmitter.1, none)
  | .install emitter, state => answered (state.install emitter)
  | .configure config, state => ((Emitter.ofConfig config state).1, none)
  | .wrap deprecation name, state => ((deprecation.wrap name state).1, none)
  | .newRegistry, state => (state.newRegistry.1, none)
  | .newBuffer, state => (state.newBuffer.1, none)
  | .newLatch, state => (state.newLatch.1, none)

def performAll : List Operation → State → State
  | [], state => state
  | operation :: rest, state => performAll rest (operation.perform state).1

end

theorem performAll_append (first second : List Operation) (state : State) :
    performAll (first ++ second) state = performAll second (performAll first state) := by
  induction first generalizing state with
  | nil => rw [performAll]; rfl
  | cons operation rest ih =>
      rw [List.cons_append, performAll, performAll, ih]

end Operation

def Route.actions : Route → List Action
  | .own _ => []
  | .shared => [.resolve]

theorem Route.resolve_fst (route : Route) (state : State) :
    (state.resolve route).1 = Action.performAll route.actions state := by
  cases route <;> rfl

namespace Renamer

variable {α : Type}

/-- What a renamer does to the state of warnings for the pairs that fire. -/
def pairActions (renamer : Renamer) (emitter : Emitter) (function : String)
    (location : Location) (pairs : List (String × String)) : List Action :=
  pairs.flatMap fun pair =>
    [.log (.argumentRenamed function pair.1 pair.2),
      .warn emitter (renamer.notice pair.1 pair.2) renamer.stackLevel location]

/-- What a renamer does to the state of warnings: nothing for a call without arguments or one that
is refused. -/
def actions (renamer : Renamer) (function : String) (location : Location) (kwargs : KwArgs α)
    (state : State) : List Action :=
  if kwargs.isEmpty then []
  else
    match conflict? renamer.pairs.entries kwargs.keys with
    | some _ => []
    | none =>
        renamer.route.actions ++
          renamer.pairActions (state.resolve renamer.route).2 function location
            (kwargs.fired renamer.pairs.entries)

theorem applyPairs_fst (renamer : Renamer) (emitter : Emitter) (function : String)
    (location : Location) (pairs : List (String × String)) (kwargs : KwArgs α) (state : State) :
    (renamer.applyPairs emitter function location pairs kwargs state).1 =
      Action.performAll (renamer.pairActions emitter function location (kwargs.fired pairs))
        state := by
  induction pairs generalizing kwargs state with
  | nil => rfl
  | cons pair rest ih =>
      rw [applyPairs]
      cases h : kwargs.get? pair.1 with
      | none =>
          have habsent := Dict.get?_eq_none_iff.mp h
          rw [ih, Dict.fired, if_neg habsent, Dict.movePair_of_not_mem habsent, List.nil_append]
      | some value =>
          rw [Dict.fired, if_pos (Dict.mem_of_get? h), Dict.movePair_of_get? h]
          exact ih _ _

theorem state_renameInPlace (renamer : Renamer) (function : String) (location : Location)
    (kwargs : KwArgs α) (state : State) :
    (renamer.renameInPlace function location kwargs state).state =
      Action.performAll (renamer.actions function location kwargs state) state := by
  rw [actions]
  cases hempty : kwargs.isEmpty with
  | true => rw [renameInPlace_of_isEmpty renamer function location hempty, if_pos rfl]; rfl
  | false =>
      rw [if_neg Bool.false_ne_true]
      cases h : conflict? renamer.pairs.entries kwargs.keys with
      | some pair => rw [renameInPlace_of_conflict renamer function location hempty h]; rfl
      | none =>
          rw [renameInPlace_of_accepted renamer function location hempty h,
            Action.performAll_append, ← Route.resolve_fst]
          exact applyPairs_fst _ _ _ _ _ _ _

end Renamer

namespace Declaration

variable {α : Type}

/-- What happens when members are accessed, given what their hooks do. -/
def accessActions (declaration : Declaration α) (hook : String → State → State)
    (hookActions : String → State → List Action) : List String → State → List Action
  | [], _ => []
  | name :: rest, state =>
      let entered := declaration.enter name state
      .log (.memberAccessed declaration.name name) :: .fireHook declaration.name name ::
        (hookActions name entered ++
          accessActions declaration hook hookActions rest (hook name entered))

theorem foldl_enter (declaration : Declaration α) {hook : String → State → State}
    {hookActions : String → State → List Action}
    (h : ∀ name state, hook name state = Action.performAll (hookActions name state) state)
    (names : List String) (state : State) :
    names.foldl (fun state name => hook name (declaration.enter name state)) state =
      Action.performAll (declaration.accessActions hook hookActions names state) state := by
  induction names generalizing state with
  | nil => rfl
  | cons name rest ih =>
      have hentered : Action.performAll (hookActions name (declaration.enter name state))
          (declaration.enter name state) = hook name (declaration.enter name state) :=
        (h name _).symm
      rw [List.foldl_cons, ih, accessActions]
      change _ = Action.performAll _ (declaration.enter name state)
      rw [Action.performAll_append, hentered]

end Declaration

namespace Operation

mutual

/-- The actions that an operation performs at a state, those of callables and hooks included. -/
def actions : Operation → State → List Action
  | .warn route notice stackLevel location, state =>
      route.actions ++ [.warn (state.resolve route).2 notice stackLevel location]
  | .warnUnchanged route version kind name note stackLevel location, state =>
      route.actions ++
        [.warn (state.resolve route).2 (Emitter.unchangedNotice version kind name note)
          (Emitter.levelAbove stackLevel) location]
  | .emit route text stackLevel location, state =>
      route.actions ++ [.emit (state.resolve route).2 text stackLevel location]
  | .insert registry notice, _ => [.insert registry notice]
  | .rename renamer function location kwargs, state =>
      renamer.actions function location kwargs state
  | .callRenamed function location kwargs body, state =>
      function.renamer.actions function.name location kwargs state ++
        match function.renamer.rename function.name location kwargs state with
        | (_, .error _) => []
        | (state, .ok renamed) => actionsAll (body renamed) state
  | .call wrapper location body, state =>
      .announce wrapper location :: actionsAll body (wrapper.announce location state)
  | @access _ _ declaration hooks lookup, state =>
      declaration.accessActions (fun name => performAll (hooks name))
        (fun name => actionsAll (hooks name)) (declaration.accessed lookup) state
  | .fire latch, _ => [.fire latch]
  | .take buffer, _ => [.take buffer]
  | .resolve, _ => [.resolve]
  | .install emitter, _ => [.install emitter]
  | .configure config, _ =>
      match config.channel with
      | .capture => [.newBuffer]
      | _ => []
  | .wrap _ _, _ => [.newLatch]
  | .newRegistry, _ => [.newRegistry]
  | .newBuffer, _ => [.newBuffer]
  | .newLatch, _ => [.newLatch]

def actionsAll : List Operation → State → List Action
  | [], _ => []
  | operation :: rest, state =>
      operation.actions state ++ actionsAll rest (operation.perform state).1

end

mutual

/-- An operation performs its actions, one after the other. -/
theorem perform_fst : ∀ (operation : Operation) (state : State),
    (operation.perform state).1 = Action.performAll (operation.actions state) state
  | .warn route notice stackLevel location, state => by
      rw [perform, actions, Action.performAll_append, ← Route.resolve_fst]
      rfl
  | .warnUnchanged route version kind name note stackLevel location, state => by
      rw [perform, actions, Action.performAll_append, ← Route.resolve_fst]
      rfl
  | .emit route text stackLevel location, state => by
      rw [perform, actions, Action.performAll_append, ← Route.resolve_fst]
      rfl
  | .insert registry notice, state => by rw [perform, actions]; rfl
  | .rename renamer function location kwargs, state => by
      rw [perform, actions, Renamer.state_renameInPlace]
  | .callRenamed function location kwargs body, state => by
      have hrename : (function.renamer.rename function.name location kwargs state).1 =
          Action.performAll (function.renamer.actions function.name location kwargs state)
            state := by
        rw [Renamer.rename, Renamer.Outcome.answer_fst, Renamer.state_renameInPlace]
      rw [perform, actions, answered_fst, RenamedFunction.call, Action.performAll_append,
        ← hrename]
      obtain ⟨renamedState, error | renamed⟩ :=
        function.renamer.rename function.name location kwargs state
      · rfl
      · exact performAll_eq (body renamed) renamedState
  | .call wrapper location body, state => by
      rw [perform, actions, Action.performAll_cons]
      exact performAll_eq body (wrapper.announce location state)
  | @access _ _ declaration hooks lookup, state => by
      rw [perform, actions, Declaration.lookUp_fst]
      exact declaration.foldl_enter (fun name => performAll_eq (hooks name)) _ state
  | .fire latch, state => by rw [perform, actions]; rfl
  | .take buffer, state => by rw [perform, actions]; rfl
  | .resolve, state => by rw [perform, actions]; rfl
  | .install emitter, state => by rw [perform, actions, answered_fst]; rfl
  | .configure config, state => by
      rw [perform, actions, Emitter.ofConfig]
      cases config.channel <;> rfl
  | .wrap deprecation name, state => by rw [perform, actions]; rfl
  | .newRegistry, state => by rw [perform, actions]; rfl
  | .newBuffer, state => by rw [perform, actions]; rfl
  | .newLatch, state => by rw [perform, actions]; rfl

theorem performAll_eq : ∀ (operations : List Operation) (state : State),
    performAll operations state = Action.performAll (actionsAll operations state) state
  | [], state => by rw [performAll, actionsAll]; rfl
  | operation :: rest, state => by
      rw [performAll, actionsAll, Action.performAll_append, ← perform_fst operation state]
      exact performAll_eq rest (operation.perform state).1

end

end Operation

end Deprecation
