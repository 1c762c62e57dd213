import Deprecation.Proofs.Steps

/-!
The life of the process-wide emitter.  It comes into being once, with the first step that asks for
it or installs one, and it is never replaced; whether an installation fails depends on the steps
before it and on nothing else.  One that is made because a step asks for it follows the environment.
-/

namespace Deprecation

namespace State

theorem shared_resolve_cases (state : State) (route : Route) :
    (route = .shared ∧ (state.resolve route).1.shared = some state.sharedEmitter.2) ∨
      (route ≠ .shared ∧ (state.resolve route).1.shared = state.shared) := by
  cases route with
  | own emitter => exact Or.inr ⟨Route.noConfusion, rfl⟩
  | shared => exact Or.inl ⟨rfl, shared_sharedEmitter state⟩

end State

/-- A renamer without an emitter of its own asks for that of the process once there are arguments
and none of them conflict, whether or not a pair fires. -/
def Renamer.Resolves {α : Type} (renamer : Renamer) (kwargs : KwArgs α) : Prop :=
  renamer.route = .shared ∧ kwargs.isEmpty = false ∧
    conflict? renamer.pairs.entries kwargs.keys = none

namespace Operation

/-- The step asks for the emitter of the process. -/
def Resolves : Operation → State → Prop
  | .resolve, _ => True
  | .warn route _ _ _, _ | .warnUnchanged route _ _ _ _ _ _, _ | .emit route _ _ _, _ =>
      route = .shared
  | .rename renamer _ _ kwargs, _ => renamer.Resolves kwargs
  | .callRenamed function _ kwargs _, _ => function.renamer.Resolves kwargs
  | .call wrapper _ _, state => wrapper.route = .shared ∧ wrapper.hasWarned state = false
  | _, _ => False

/-- The emitter that a step is given to install. -/
def installed? : Operation → Option Emitter
  | .install emitter => some emitter
  | _ => none

/-- Among some steps there is one that asks for the emitter of the process, or one that installs an
emitter and does not fail. -/
def Settles (steps : List Operation) (state : State) : Prop :=
  ∃ before step after, steps = before ++ step :: after ∧
    (step.Resolves (performAll before state) ∨
      step.installed?.isSome = true ∧ (step.perform (performAll before state)).2 = none)

end Operation

theorem Renamer.shared_pairActions (renamer : Renamer) (emitter : Emitter) (function : String)
    (location : Location) (pairs : List (String × String)) (state : State) :
    (Action.performAll (renamer.pairActions emitter function location pairs) state).shared =
      state.shared := by
  induction pairs generalizing state with
  | nil => rfl
  | cons pair rest ih =>
      let logged := state.log (.argumentRenamed function pair.1 pair.2)
      let next := emitter.warn (renamer.notice pair.1 pair.2) renamer.stackLevel location logged
      exact (ih next).trans (Emitter.shared_warn _ _ _ _ logged)

theorem Renamer.shared_renameInPlace_cases {α : Type} (renamer : Renamer) (function : String)
    (location : Location) (kwargs : KwArgs α) (state : State) :
    let after := (renamer.renameInPlace function location kwargs state).state
    (renamer.Resolves kwargs ∧ after.shared = some state.sharedEmitter.2) ∨
      (¬ renamer.Resolves kwargs ∧ after.shared = state.shared) := by
  intro after
  cases hempty : kwargs.isEmpty with
  | true =>
      refine Or.inr ⟨fun h => Bool.noConfusion (hempty.symm.trans h.2.1), ?_⟩
      rw [show after = _ from congrArg Outcome.state
        (renameInPlace_of_isEmpty renamer function location hempty state)]
  | false =>
      cases hconflict : conflict? renamer.pairs.entries kwargs.keys with
      | some pair =>
          refine Or.inr ⟨fun h => Option.some_ne_none _ (hconflict.symm.trans h.2.2), ?_⟩
          rw [show after = _ from congrArg Outcome.state
            (renameInPlace_of_conflict renamer function location hempty hconflict state)]
      | none =>
          have hafter : after.shared = (state.resolve renamer.route).1.shared := by
            rw [show after = _ from congrArg Outcome.state
              (renameInPlace_of_accepted renamer function location hempty hconflict state)]
            change (applyPairs ..).1.shared = _
            rw [applyPairs_fst, shared_pairActions]
          rw [hafter]
          rcases state.shared_resolve_cases renamer.route with h | h
          · exact Or.inl ⟨⟨h.1, hempty, hconflict⟩, h.2⟩
          · exact Or.inr ⟨fun hresolves => h.1 hresolves.1, h.2⟩

theorem Declaration.shared_foldl_enter {α : Type} (declaration : Declaration α)
    (names : List String) (state : State) :
    (names.foldl (fun state name => declaration.enter name state) state).shared = state.shared := by
  induction names generalizing state with
  | nil => rfl
  | cons name rest ih => exact ih (declaration.enter name state)

theorem Wrapper.shared_announce_cases (wrapper : Wrapper) (location : Location) (state : State) :
    let after := wrapper.announce location state
    let resolves := wrapper.route = .shared ∧ wrapper.hasWarned state = false
    (resolves ∧ after.shared = some state.sharedEmitter.2) ∨
      (¬ resolves ∧ after.shared = state.shared) := by
  intro after resolves
  cases hwarned : wrapper.hasWarned state with
  | true =>
      refine Or.inr ⟨fun h => Bool.noConfusion (hwarned.symm.trans h.2), ?_⟩
      rw [show after = _ from announce_of_hasWarned hwarned location]
      rfl
  | false =>
      have hafter : after.shared =
          ((state.fire wrapper.latch).1.resolve wrapper.route).1.shared := by
        rw [show after = _ from announce_of_not_hasWarned hwarned location, Emitter.shared_send]
      have hfire : (state.fire wrapper.latch).1.sharedEmitter.2 = state.sharedEmitter.2 :=
        State.resolve_fire_snd state wrapper.latch .shared
      rw [hafter, ← hfire]
      rcases State.shared_resolve_cases (state.fire wrapper.latch).1 wrapper.route with h | h
      · exact Or.inl ⟨⟨h.1, hwarned⟩, h.2⟩
      · exact Or.inr ⟨fun hresolves => h.1 hresolves.1, h.2⟩

namespace Operation

theorem shared_cases_of_not_install {step : Operation} {state : State}
    (hinstalled : step.installed? = none)
    (h : (step.Resolves state ∧ (step.perform state).1.shared = some state.sharedEmitter.2) ∨
      (¬ step.Resolves state ∧ (step.perform state).1.shared = state.shared)) :
    let after := (step.perform state).1
    (step.Resolves state ∧ after.shared = some state.sharedEmitter.2) ∨
      (¬ step.Resolves state ∧ after.shared = state.shared.or step.installed?) := by
  intro after
  rw [hinstalled, Option.or_none]
  exact h

theorem shared_cases_of_route {step : Operation} {state : State} {route : Route}
    (hinstalled : step.installed? = none) (hresolves : step.Resolves state ↔ route = .shared)
    (hafter : (step.perform state).1.shared = (state.resolve route).1.shared) :
    let after := (step.perform state).1
    (step.Resolves state ∧ after.shared = some state.sharedEmitter.2) ∨
      (¬ step.Resolves state ∧ after.shared = state.shared.or step.installed?) := by
  apply shared_cases_of_not_install hinstalled
  rw [hresolves, hafter]
  exact state.shared_resolve_cases route

theorem shared_perform_cases {step : Operation} (h : step.IsStep) (state : State) :
    let after := (step.perform state).1
    (step.Resolves state ∧ after.shared = some state.sharedEmitter.2) ∨
      (¬ step.Resolves state ∧ after.shared = state.shared.or step.installed?) := by
  cases step with
  | warn route notice stackLevel location =>
      refine shared_cases_of_route rfl Iff.rfl ?_
      rw [perform]
      exact Emitter.shared_warn _ _ _ _ _
  | warnUnchanged route version kind name note stackLevel location =>
      refine shared_cases_of_route rfl Iff.rfl ?_
      rw [perform]
      exact Emitter.shared_warn _ _ _ _ _
  | emit route text stackLevel location =>
      refine shared_cases_of_route rfl Iff.rfl ?_
      rw [perform]
      exact Emitter.shared_send _ _ _ _
  | rename renamer function location kwargs =>
      apply shared_cases_of_not_install rfl
      rw [perform]
      exact renamer.shared_renameInPlace_cases function location kwargs state
  | callRenamed function location kwargs body =>
      apply shared_cases_of_not_install rfl
      rw [perform_callRenamed_of_isStep h]
      exact function.renamer.shared_renameInPlace_cases function.name location kwargs state
  | call wrapper location body =>
      obtain rfl : body = [] := h
      apply shared_cases_of_not_install rfl
      rw [perform]
      exact wrapper.shared_announce_cases location state
  | resolve => exact Or.inl ⟨trivial, by rw [perform]; exact State.shared_sharedEmitter state⟩
  | install emitter =>
      refine Or.inr ⟨id, ?_⟩
      change _ = state.shared.or (some emitter)
      rw [perform, answered_fst, State.install]
      cases hshared : state.shared with
      | some present => exact hshared
      | none => rfl
  | access declaration hooks lookup =>
      refine shared_cases_of_not_install rfl (Or.inr ⟨id, ?_⟩)
      rw [perform_access_of_isStep h, Declaration.shared_foldl_enter]
  | insert registry notice =>
      refine shared_cases_of_not_install rfl (Or.inr ⟨id, ?_⟩)
      rw [perform, State.shared_insert]
  | configure config =>
      refine shared_cases_of_not_install rfl (Or.inr ⟨id, ?_⟩)
      rw [perform, State.shared_ofConfig]
  | fire latch => exact shared_cases_of_not_install rfl (Or.inr ⟨id, by rw [perform]; rfl⟩)
  | take buffer => exact shared_cases_of_not_install rfl (Or.inr ⟨id, by rw [perform]; rfl⟩)
  | wrap _ _ => exact shared_cases_of_not_install rfl (Or.inr ⟨id, by rw [perform]; rfl⟩)
  | newRegistry => exact shared_cases_of_not_install rfl (Or.inr ⟨id, by rw [perform]; rfl⟩)
  | newBuffer => exact shared_cases_of_not_install rfl (Or.inr ⟨id, by rw [perform]; rfl⟩)
  | newLatch => exact shared_cases_of_not_install rfl (Or.inr ⟨id, by rw [perform]; rfl⟩)

theorem shared_performAll_of_some {steps : List Operation} (hsteps : ∀ step ∈ steps, step.IsStep)
    {state : State} {emitter : Emitter} (h : state.shared = some emitter) :
    (performAll steps state).shared = some emitter := by
  induction steps generalizing state with
  | nil => rwa [performAll]
  | cons step rest ih =>
      rw [List.forall_mem_cons] at hsteps
      rw [performAll]
      apply ih hsteps.2
      rcases shared_perform_cases hsteps.1 state with ⟨-, hafter⟩ | ⟨-, hafter⟩
      · rw [hafter, State.sharedEmitter_of_some h]
      · rw [hafter, h, Option.some_or]

theorem perform_snd_of_installed? {step : Operation} {state : State} (h : state.shared = none)
    (hinstalled : step.installed?.isSome = true) : (step.perform state).2 = none := by
  cases step with
  | install emitter =>
      rw [perform, State.install, h]
      rfl
  | _ => cases hinstalled

theorem settles_cons_iff {step : Operation} {rest : List Operation} {state : State} :
    Settles (step :: rest) state ↔
      (step.Resolves state ∨ step.installed?.isSome = true ∧ (step.perform state).2 = none) ∨
        Settles rest (step.perform state).1 := by
  constructor
  · rintro ⟨before, settling, after, hsplit, hsettles⟩
    rcases before with _ | ⟨first, before⟩
    · obtain ⟨rfl, -⟩ := List.cons.inj hsplit
      rw [performAll] at hsettles
      exact Or.inl hsettles
    · obtain ⟨rfl, hrest⟩ := List.cons.inj hsplit
      rw [performAll] at hsettles
      exact Or.inr ⟨before, settling, after, hrest, hsettles⟩
  · rintro (hsettles | ⟨before, settling, after, rfl, hsettles⟩)
    · refine ⟨[], step, rest, rfl, ?_⟩
      rwa [performAll]
    · refine ⟨step :: before, settling, after, rfl, ?_⟩
      rwa [performAll]

theorem shared_perform_eq_none_iff {step : Operation} (hstep : step.IsStep) {state : State} :
    (step.perform state).1.shared = none ↔
      state.shared = none ∧
        ¬ (step.Resolves state ∨ step.installed?.isSome = true ∧ (step.perform state).2 = none) := by
  rcases shared_perform_cases hstep state with ⟨hresolves, hafter⟩ | ⟨hresolves, hafter⟩
  · rw [hafter]
    simp [hresolves]
  · rw [hafter, Option.or_eq_none_iff]
    refine and_congr_right fun hnone => ?_
    constructor
    · rintro hinstalled (h | ⟨h, -⟩)
      · exact hresolves h
      · rw [hinstalled] at h
        cases h
    · intro hkept
      rw [← Option.not_isSome_iff_eq_none]
      intro hinstalled
      exact hkept (Or.inr ⟨hinstalled, perform_snd_of_installed? hnone hinstalled⟩)

theorem shared_performAll_eq_none_iff {steps : List Operation}
    (hsteps : ∀ step ∈ steps, step.IsStep) (state : State) :
    (performAll steps state).shared = none ↔ state.shared = none ∧ ¬ Settles steps state := by
  induction steps generalizing state with
  | nil =>
      rw [performAll]
      refine (and_iff_left ?_).symm
      rintro ⟨before, step, after, hsplit, -⟩
      simp at hsplit
  | cons step rest ih =>
      rw [List.forall_mem_cons] at hsteps
      rw [performAll, ih hsteps.2, shared_perform_eq_none_iff hsteps.1, settles_cons_iff, and_assoc,
        ← not_or]

theorem environment_performAll (operations : List Operation) (state : State) :
    (performAll operations state).environment = state.environment := by
  rw [performAll_eq]
  exact Action.environment_performAll _ state

end Operation

/-- The life of the emitter of the process, at every moment of any run.  Once it is there it stays,
and it is what a step that asks for it gets.  Installing one fails exactly if there was one at the
start, or if an earlier step asked for it or installed one; otherwise it succeeds.  While there is
none, a step that asks for it makes it, over the registry of the process and as the environment
says, and no other step brings it into being but an installation. -/
theorem sharedEmitter_settled_once (operations : List Operation) (state : State) :
    let steps := Operation.stepsAll operations state
    let settings := ({} : Config).override state.environment
    Operation.performAll steps state = Operation.performAll operations state ∧
      (∀ before during after emitter, steps = before ++ during ++ after →
        (Operation.performAll before state).shared = some emitter →
          let later := Operation.performAll (before ++ during) state
          later.sharedEmitter = (later, emitter)) ∧
      (∀ before emitter after, steps = before ++ .install emitter :: after →
        let moment := Operation.performAll before state
        (state.shared ≠ none ∨ Operation.Settles before state →
            moment.install emitter = (moment, .error .emitterAlreadyInstalled)) ∧
          (state.shared = none ∧ ¬ Operation.Settles before state →
            moment.install emitter = ({ moment with shared := some emitter }, .ok emitter))) ∧
      ∀ before step after, steps = before ++ step :: after →
        let moment := Operation.performAll before state
        let next := (step.perform moment).1
        moment.shared = none →
          (step.Resolves moment →
            next.shared = some (Emitter.made settings moment.buffers.fresh)) ∧
          (¬ step.Resolves moment → next.shared = step.installed?) := by
  intro steps settings
  have hsteps : ∀ step ∈ steps, step.IsStep := Operation.isStep_of_mem_stepsAll operations state
  refine ⟨Operation.performAll_stepsAll operations state, ?_, ?_, ?_⟩
  · intro before during after emitter hsplit hshared later
    have hduring : ∀ step ∈ during, step.IsStep := fun step hstep =>
      hsteps step (by rw [hsplit]; simp [hstep])
    have hlater : later.shared = some emitter := by
      rw [show later = _ from Operation.performAll_append before during state]
      exact Operation.shared_performAll_of_some hduring hshared
    exact State.sharedEmitter_of_some hlater
  · intro before emitter after hsplit moment
    have hbefore : ∀ step ∈ before, step.IsStep := fun step hstep =>
      hsteps step (by rw [hsplit]; simp [hstep])
    have hmoment := Operation.shared_performAll_eq_none_iff hbefore state
    constructor
    · intro hsettled
      have hne : moment.shared ≠ none := by
        rw [Ne, hmoment]
        rintro ⟨hnone, hopen⟩
        exact hsettled.elim (fun hne => hne hnone) hopen
      obtain ⟨present, hpresent⟩ := Option.ne_none_iff_exists'.mp hne
      rw [State.install, hpresent]
    · intro hopen
      rw [State.install, hmoment.mpr hopen]
  · intro before step after hsplit moment next hnone
    have hstep : step.IsStep := hsteps step (by rw [hsplit]; simp)
    rcases Operation.shared_perform_cases hstep moment with ⟨hresolves, hnext⟩ | ⟨hresolves, hnext⟩
    · refine ⟨fun _ => ?_, fun hnot => (hnot hresolves).elim⟩
      rw [show next.shared = _ from hnext, State.sharedEmitter_snd, hnone,
        Operation.environment_performAll]
      rfl
    · refine ⟨fun h => (hresolves h).elim, fun _ => ?_⟩
      rw [show next.shared = _ from hnext, hnone, Option.none_or]

-- Arguments that no pair concerns make the emitter of the process, and conflicting ones do not.
example :
    let renamer : Renamer :=
      { version := "2.0.0", pairs := Dict.ofList [("a", "b")], stackLevel := 3 }
    let rename (kwargs : KwArgs Nat) := Operation.rename renamer "f" ⟨"main.rs", 1⟩ kwargs
    (Operation.performAll [rename (Dict.ofList [("c", 1)])] {}).shared.isSome = true ∧
      (Operation.performAll [rename (Dict.ofList [("a", 1), ("b", 2)])] {}).shared = none := by
  decide

end Deprecation
