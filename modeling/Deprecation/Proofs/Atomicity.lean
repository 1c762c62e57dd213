import Deprecation.Proofs.Operation

/-!
Errors leave no trace.  An operation that answers with an error has read the state and written
nothing, so that it can be struck from any run; in particular no process-wide emitter was made, no
hook has fired, nothing was logged, and a wrapped function was not called.
-/

namespace Deprecation

theorem Renamer.rename_of_error {α : Type} {renamer : Renamer} {function : String}
    {location : Location} {kwargs : KwArgs α} {state : State} {error : Error}
    (h : (renamer.rename function location kwargs state).2 = .error error) :
    renamer.rename function location kwargs state = (state, .error error) := by
  have herror : (renamer.renameInPlace function location kwargs state).error = some error := by
    rw [rename] at h
    cases houtcome : renamer.renameInPlace function location kwargs state with
    | mk renamedState renamed cause =>
        rw [houtcome] at h
        cases cause with
        | none => cases h
        | some cause =>
            cases h
            rfl
  rw [rename, renameInPlace_of_error herror]
  rfl

theorem RenamedFunction.call_of_error {α β γ : Type} {function : RenamedFunction}
    {callable : Callable (α × KwArgs β) γ} {arguments : α} {kwargs : KwArgs β}
    {location : Location} {state : State} {error : Error}
    (h : (function.call callable arguments kwargs location state).2 = .error error)
    (other : Callable (α × KwArgs β) γ) :
    function.call other arguments kwargs location state = (state, .error error) := by
  have hrename : (function.renamer.rename function.name location kwargs state).2 =
      .error error := by
    rw [call] at h
    cases hanswer : function.renamer.rename function.name location kwargs state with
    | mk renamedState answer =>
        rw [hanswer] at h
        cases answer with
        | error cause =>
            cases h
            rfl
        | ok renamed => cases h
  rw [call, Renamer.rename_of_error hrename]

namespace Enumeration

variable {α : Type} {enumeration : Enumeration α} {state : State} {error : Error}

theorem byName_of_error {name : String} (h : (enumeration.byName name state).2 = .error error) :
    enumeration.byName name state = (state, .error (.unknownMemberName enumeration.name name)) := by
  rw [byName] at h ⊢
  cases hfind : enumeration.find? name with
  | some found =>
      rw [hfind] at h
      cases h
  | none => rfl

theorem byValue_of_error [BEq α] {value : α}
    (h : (enumeration.byValue value state).2 = .error error) :
    enumeration.byValue value state =
      (state, .error (.unknownMemberValue enumeration.name (enumeration.display value))) := by
  rw [byValue] at h ⊢
  cases hfind : enumeration.members.find? fun member => member.value == value with
  | some found =>
      rw [hfind] at h
      cases h
  | none => rfl

end Enumeration

theorem State.install_of_error {state : State} {emitter : Emitter} {error : Error}
    (h : (state.install emitter).2 = .error error) :
    state.install emitter = (state, .error .emitterAlreadyInstalled) := by
  rw [install] at h ⊢
  cases hshared : state.shared with
  | some installed => rfl
  | none =>
      rw [hshared] at h
      cases h

theorem Declaration.lookUp_fst_of_error {α : Type} [BEq α] {declaration : Declaration α}
    {hook : String → State → State} {lookup : Lookup α} {state : State} {error : Error}
    (h : (declaration.lookUp hook lookup state).2 = some error) :
    (declaration.lookUp hook lookup state).1 = state := by
  cases lookup with
  | member name value => cases h
  | name name =>
      rw [lookUp, answered_fst, Enumeration.byName_of_error (answered_snd_iff.mp h)]
  | value value =>
      rw [lookUp, answered_fst, Enumeration.byValue_of_error (answered_snd_iff.mp h)]
  | all => cases h

namespace Operation

theorem perform_fst_of_error {operation : Operation} {state : State} {error : Error}
    (h : (operation.perform state).2 = some error) : (operation.perform state).1 = state := by
  cases operation with
  | rename renamer function location kwargs =>
      rw [perform] at h ⊢
      rw [Renamer.renameInPlace_of_error h]
  | callRenamed function location kwargs body =>
      rw [perform] at h ⊢
      rw [answered_fst, RenamedFunction.call_of_error (answered_snd_iff.mp h)]
  | access declaration hooks lookup =>
      rw [perform] at h ⊢
      exact Declaration.lookUp_fst_of_error h
  | install emitter =>
      rw [perform] at h ⊢
      rw [answered_fst, State.install_of_error (answered_snd_iff.mp h)]
  | _ =>
      rw [perform] at h
      cases h

theorem performAll_strike {before after : List Operation} {operation : Operation} {state : State}
    {error : Error} (h : (operation.perform (performAll before state)).2 = some error) :
    performAll (before ++ operation :: after) state = performAll (before ++ after) state := by
  rw [performAll_append, performAll_append, performAll, perform_fst_of_error h]

end Operation

/-- Whatever answers with an error leaves the state as it was, and the arguments where some were
given.  This holds for the operations of a run, from which a refused one can be struck, and with any
hooks and any wrapped callable: a refused call answers the same with another callable, since none is
run. -/
theorem refused_changes_nothing :
    (∀ (operation : Operation) (state : State) (error : Error),
        (operation.perform state).2 = some error → (operation.perform state).1 = state) ∧
      (∀ (before after : List Operation) (operation : Operation) (state : State) (error : Error),
        (operation.perform (Operation.performAll before state)).2 = some error →
          Operation.performAll (before ++ operation :: after) state =
            Operation.performAll (before ++ after) state) ∧
      (∀ {α : Type} (renamer : Renamer) (function : String) (location : Location)
          (kwargs : KwArgs α) (state : State) (error : Error),
        (renamer.renameInPlace function location kwargs state).error = some error →
          renamer.renameInPlace function location kwargs state = ⟨state, kwargs, some error⟩) ∧
      (∀ {α β γ : Type} (function : RenamedFunction) (callable : Callable (α × KwArgs β) γ)
          (arguments : α) (kwargs : KwArgs β) (location : Location) (state : State)
          (error : Error),
        (function.call callable arguments kwargs location state).2 = .error error →
          ∀ other : Callable (α × KwArgs β) γ,
            function.call other arguments kwargs location state = (state, .error error)) ∧
      (∀ {α : Type} (enumeration : Enumeration α) (name : String) (state : State) (error : Error),
        (enumeration.byName name state).2 = .error error →
          enumeration.byName name state =
            (state, .error (.unknownMemberName enumeration.name name))) ∧
      (∀ {α : Type} [BEq α] (enumeration : Enumeration α) (value : α) (state : State)
          (error : Error),
        (enumeration.byValue value state).2 = .error error →
          enumeration.byValue value state =
            (state, .error
              (.unknownMemberValue enumeration.name (enumeration.display value)))) ∧
      ∀ (emitter : Emitter) (state : State) (error : Error),
        (state.install emitter).2 = .error error →
          state.install emitter = (state, .error .emitterAlreadyInstalled) := by
  refine ⟨?_, ?_, ?_, ?_, ?_, ?_, ?_⟩
  · intro operation state error h
    exact Operation.perform_fst_of_error h
  · intro before after operation state error h
    exact Operation.performAll_strike h
  · intro α renamer function location kwargs state error h
    exact Renamer.renameInPlace_of_error h
  · intro α β γ function callable arguments kwargs location state error h other
    exact RenamedFunction.call_of_error h other
  · intro α enumeration name state error h
    exact Enumeration.byName_of_error h
  · intro α _ enumeration value state error h
    exact Enumeration.byValue_of_error h
  · intro emitter state error h
    exact State.install_of_error h

/-- The second pair meets both its names, when the first one would have warned already. -/
theorem refused_chain_changes_nothing :
    let renamer : Renamer :=
      { version := "2.0.0", pairs := Dict.ofList [("a", "b"), ("b", "c")], stackLevel := 3 }
    let kwargs : KwArgs Nat := Dict.ofList [("a", 1), ("c", 2)]
    renamer.renameInPlace "f" ⟨"main.rs", 1⟩ kwargs {} =
      ⟨{}, kwargs, some (.conflictingArguments "f" "c" "b")⟩ :=
  refused_changes_nothing.2.2.1 _ _ _ _ _ _ (by decide)

end Deprecation
