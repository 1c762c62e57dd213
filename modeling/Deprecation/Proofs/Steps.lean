import Deprecation.Proofs.Operation

/-!
Runs as plain lists of steps.  What wrapped callables and hooks do while they run are steps of their
own, in the order in which they happen, so that a step is an operation in which nothing else is
performed.  The main statement is that a run and its steps leave the same state; what is proved for
lists of such steps holds for every run, also at the moments in between.
-/

namespace Deprecation

namespace Operation

/-- Nothing else is performed while an operation runs. -/
def IsStep : Operation → Prop
  | .callRenamed _ _ _ body => ∀ renamed, body renamed = []
  | .call _ _ body => body = []
  | @access _ _ _ hooks _ => ∀ name, hooks name = []
  | _ => True

end Operation

namespace Declaration

variable {α : Type} [BEq α]

/-- The steps of accesses one after the other, given the steps of the hooks. -/
def accessSteps (declaration : Declaration α) (hook : String → State → State)
    (hookSteps : String → State → List Operation) : List String → State → List Operation
  | [], _ => []
  | name :: rest, state =>
      let entered := declaration.enter name state
      .access declaration (fun _ => []) (.name name) ::
        (hookSteps name entered ++
          accessSteps declaration hook hookSteps rest (hook name entered))

omit [BEq α] in
theorem find?_name_of_mem {declaration : Declaration α} {name : String}
    (h : name ∈ declaration.members.map Prod.fst) :
    (declaration.members.find? fun member => member.1 == name).map Prod.fst = some name := by
  obtain ⟨member, hmember, rfl⟩ := List.mem_map.mp h
  cases hfind : declaration.members.find? fun other => other.1 == member.1 with
  | none => simpa using List.find?_eq_none.mp hfind member hmember
  | some found =>
      have hname := List.find?_some hfind
      rw [Option.map_some, beq_iff_eq.mp hname]

theorem mem_members_of_accessed {declaration : Declaration α} {lookup : Lookup α} {name : String}
    (h : name ∈ declaration.accessed lookup) : name ∈ declaration.members.map Prod.fst := by
  have hfound : ∀ {test : String × α → Bool},
      name ∈ ((declaration.members.find? test).map Prod.fst).toList →
        name ∈ declaration.members.map Prod.fst := by
    intro test hmem
    obtain ⟨member, hmember, rfl⟩ := Option.map_eq_some_iff.mp (Option.mem_toList.mp hmem)
    exact List.mem_map_of_mem (List.mem_of_find?_eq_some hmember)
  cases lookup with
  | member _ _ => exact hfound h
  | name _ => exact hfound h
  | value _ => exact hfound h
  | all => exact h

theorem accessed_name {declaration : Declaration α} {name : String}
    (h : name ∈ declaration.members.map Prod.fst) :
    declaration.accessed (.name name) = [name] := by
  rw [accessed, find?_name_of_mem h, Option.toList_some]

theorem perform_access_name {declaration : Declaration α} {name : String}
    (h : name ∈ declaration.members.map Prod.fst) (state : State) :
    (Operation.perform (.access declaration (fun _ => []) (.name name)) state).1 =
      declaration.enter name state := by
  rw [Operation.perform, lookUp_fst, accessed_name h, List.foldl_cons, Operation.performAll,
    List.foldl_nil]

theorem performAll_accessSteps (declaration : Declaration α) {hook : String → State → State}
    {hookSteps : String → State → List Operation}
    (h : ∀ name state, Operation.performAll (hookSteps name state) state = hook name state)
    {names : List String} (hnames : ∀ name ∈ names, name ∈ declaration.members.map Prod.fst)
    (state : State) :
    Operation.performAll (declaration.accessSteps hook hookSteps names state) state =
      names.foldl (fun state name => hook name (declaration.enter name state)) state := by
  induction names generalizing state with
  | nil => rw [accessSteps, Operation.performAll]; rfl
  | cons name rest ih =>
      rw [List.forall_mem_cons] at hnames
      rw [accessSteps, Operation.performAll, perform_access_name hnames.1,
        Operation.performAll_append, h, ih hnames.2, List.foldl_cons]

theorem isStep_of_mem_accessSteps (declaration : Declaration α) {hook : String → State → State}
    {hookSteps : String → State → List Operation}
    (h : ∀ name state, ∀ step ∈ hookSteps name state, step.IsStep) (names : List String)
    (state : State) : ∀ step ∈ declaration.accessSteps hook hookSteps names state, step.IsStep := by
  induction names generalizing state with
  | nil => simp [accessSteps]
  | cons name rest ih =>
      rw [accessSteps, List.forall_mem_cons, List.forall_mem_append]
      exact ⟨fun _ => rfl, h name _, ih _⟩

end Declaration

namespace Operation

mutual

/-- The steps of an operation at a state.  A look-up that fails has none. -/
def steps : Operation → State → List Operation
  | .callRenamed function location kwargs body, state =>
      .callRenamed function location kwargs (fun _ => []) ::
        match function.renamer.rename function.name location kwargs state with
        | (_, .error _) => []
        | (state, .ok renamed) => stepsAll (body renamed) state
  | .call wrapper location body, state =>
      .call wrapper location [] :: stepsAll body (wrapper.announce location state)
  | @access _ _ declaration hooks lookup, state =>
      declaration.accessSteps (fun name => performAll (hooks name))
        (fun name => stepsAll (hooks name)) (declaration.accessed lookup) state
  | operation, _ => [operation]

def stepsAll : List Operation → State → List Operation
  | [], _ => []
  | operation :: rest, state =>
      operation.steps state ++ stepsAll rest (operation.perform state).1

end

mutual

theorem performAll_steps : ∀ (operation : Operation) (state : State),
    performAll (operation.steps state) state = (operation.perform state).1
  | .callRenamed function location kwargs body, state => by
      rw [steps, performAll, perform, perform, answered_fst, answered_fst, RenamedFunction.call,
        RenamedFunction.call]
      obtain ⟨renamedState, error | renamed⟩ :=
        function.renamer.rename function.name location kwargs state
      · rw [performAll]
      · exact performAll_stepsAll (body renamed) renamedState
  | .call wrapper location body, state => by
      rw [steps, performAll]
      exact performAll_stepsAll body (wrapper.announce location state)
  | @access _ _ declaration hooks lookup, state => by
      rw [steps, perform, Declaration.lookUp_fst]
      exact declaration.performAll_accessSteps
        (fun name state => performAll_stepsAll (hooks name) state)
        (fun _ => Declaration.mem_members_of_accessed) state
  | .warn .., state | .warnUnchanged .., state | .emit .., state | .insert .., state
  | .rename .., state | .fire _, state | .take _, state | .resolve, state | .install _, state
  | .configure _, state | .wrap .., state | .newRegistry, state | .newBuffer, state
  | .newLatch, state => by simp [steps, performAll]

/-- A run leaves the state that its steps leave. -/
theorem performAll_stepsAll : ∀ (operations : List Operation) (state : State),
    performAll (stepsAll operations state) state = performAll operations state
  | [], state => by rw [stepsAll]
  | operation :: rest, state => by
      rw [stepsAll, performAll_append, performAll_steps operation state, performAll]
      exact performAll_stepsAll rest (operation.perform state).1

end

mutual

theorem isStep_of_mem_steps : ∀ (operation : Operation) (state : State),
    ∀ step ∈ operation.steps state, step.IsStep
  | .callRenamed function location kwargs body, state => by
      rw [steps, List.forall_mem_cons]
      refine ⟨fun _ => rfl, ?_⟩
      split
      · simp
      · next renamedState renamed h => exact isStep_of_mem_stepsAll (body renamed) renamedState
  | .call wrapper location body, state => by
      rw [steps, List.forall_mem_cons]
      exact ⟨rfl, isStep_of_mem_stepsAll body (wrapper.announce location state)⟩
  | @access _ _ declaration hooks lookup, state => by
      rw [steps]
      exact declaration.isStep_of_mem_accessSteps
        (fun name state => isStep_of_mem_stepsAll (hooks name) state) _ state
  | .warn .., state | .warnUnchanged .., state | .emit .., state | .insert .., state
  | .rename .., state | .fire _, state | .take _, state | .resolve, state | .install _, state
  | .configure _, state | .wrap .., state | .newRegistry, state | .newBuffer, state
  | .newLatch, state => by simp [steps, IsStep]

theorem isStep_of_mem_stepsAll : ∀ (operations : List Operation) (state : State),
    ∀ step ∈ stepsAll operations state, step.IsStep
  | [], state => by rw [stepsAll]; simp
  | operation :: rest, state => by
      rw [stepsAll, List.forall_mem_append]
      exact ⟨isStep_of_mem_steps operation state,
        isStep_of_mem_stepsAll rest (operation.perform state).1⟩

end

theorem perform_callRenamed_of_isStep {α : Type} {function : RenamedFunction}
    {location : Location} {kwargs : KwArgs α} {body : KwArgs α → List Operation}
    (h : (callRenamed function location kwargs body).IsStep) (state : State) :
    ((callRenamed function location kwargs body).perform state).1 =
      (function.renamer.renameInPlace function.name location kwargs state).state := by
  rw [perform, answered_fst, RenamedFunction.call, ← Renamer.Outcome.answer_fst]
  change _ = (function.renamer.rename function.name location kwargs state).1
  obtain ⟨renamedState, error | renamed⟩ :=
    function.renamer.rename function.name location kwargs state
  · rfl
  · change performAll (body renamed) renamedState = renamedState
    rw [h renamed, performAll]

theorem perform_access_of_isStep {α : Type} [BEq α] {declaration : Declaration α}
    {hooks : String → List Operation} {lookup : Lookup α}
    (h : (access declaration hooks lookup).IsStep) (state : State) :
    ((access declaration hooks lookup).perform state).1 =
      (declaration.accessed lookup).foldl (fun state name => declaration.enter name state)
        state := by
  rw [perform, Declaration.lookUp_fst]
  congr 1
  funext state name
  rw [h name, performAll]

theorem steps_call (wrapper : Wrapper) (location : Location) (body : List Operation)
    (state : State) :
    (call wrapper location body).steps state =
      .call wrapper location [] ::
        stepsAll body ((call wrapper location []).perform state).1 := by
  rw [steps, perform]
  change _ = _ :: stepsAll body (performAll [] (wrapper.announce location state))
  rw [performAll]

theorem steps_callRenamed {α : Type} (function : RenamedFunction) (location : Location)
    (kwargs : KwArgs α) (body : KwArgs α → List Operation) (state : State) :
    (callRenamed function location kwargs body).steps state =
      .callRenamed function location kwargs (fun _ => []) ::
        match (function.renamer.rename function.name location kwargs state).2 with
        | .error _ => []
        | .ok renamed =>
            stepsAll (body renamed)
              ((callRenamed function location kwargs fun _ => []).perform state).1 := by
  have hcall : (callRenamed function location kwargs fun _ => []).IsStep := fun _ => rfl
  have hstate : ((callRenamed function location kwargs fun _ => []).perform state).1 =
      (function.renamer.rename function.name location kwargs state).1 := by
    rw [perform_callRenamed_of_isStep hcall, Renamer.rename, Renamer.Outcome.answer_fst]
  rw [steps, hstate]
  obtain ⟨renamedState, error | renamed⟩ :=
    function.renamer.rename function.name location kwargs state <;> rfl

theorem steps_access_name {α : Type} [BEq α] {declaration : Declaration α} {name : String}
    (h : name ∈ declaration.members.map Prod.fst) (hooks : String → List Operation)
    (state : State) :
    (access declaration hooks (.name name)).steps state =
      .access declaration (fun _ => []) (.name name) ::
        stepsAll (hooks name)
          ((access declaration (fun _ => []) (.name name)).perform state).1 := by
  rw [steps, Declaration.accessed_name h, Declaration.accessSteps, Declaration.accessSteps,
    List.append_nil, Declaration.perform_access_name h]

theorem accessSteps_eq {α : Type} [BEq α] {declaration : Declaration α}
    (hooks : String → List Operation) {names : List String}
    (hnames : ∀ name ∈ names, name ∈ declaration.members.map Prod.fst) (state : State) :
    declaration.accessSteps (fun name => performAll (hooks name))
        (fun name => stepsAll (hooks name)) names state =
      stepsAll (names.map fun name => .access declaration hooks (.name name)) state := by
  induction names generalizing state with
  | nil => rw [List.map_nil, stepsAll, Declaration.accessSteps]
  | cons name rest ih =>
      rw [List.forall_mem_cons] at hnames
      have hstate : ((access declaration hooks (.name name)).perform state).1 =
          performAll (hooks name) (declaration.enter name state) := by
        rw [perform, Declaration.lookUp_fst, Declaration.accessed_name hnames.1]
        rfl
      rw [List.map_cons, stepsAll, steps_access_name hnames.1, hstate, ← ih hnames.2,
        Declaration.accessSteps, Declaration.perform_access_name hnames.1]
      rfl

theorem steps_access {α : Type} [BEq α] (declaration : Declaration α)
    (hooks : String → List Operation) (lookup : Lookup α) (state : State) :
    (access declaration hooks lookup).steps state =
      stepsAll ((declaration.accessed lookup).map fun name =>
        .access declaration hooks (.name name)) state := by
  rw [steps]
  exact accessSteps_eq hooks (fun _ => Declaration.mem_members_of_accessed) state

end Operation

end Deprecation
