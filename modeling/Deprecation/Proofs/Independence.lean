import Deprecation.Callable
import Deprecation.Proofs.Renaming.Moves

/-!
Warnings and what programs compute.  A program calls renamers and callables, which may be wrapped
and are programs themselves, and goes on from what they answer.  It never reads the state of
warnings, but may change it at any time.  The main statement is that two programs that differ only
in what concerns warnings, started in any two states of warnings, get the same answers one after the
other and come to the same result.
-/

namespace Deprecation

/-- A program, by the type of its result.  What a callable does is a program again; where it is not
wrapped it is called directly.  A receiver that a method changes is one of its arguments, and part
of what it answers. -/
inductive Program : Type → Type 1 where
  | done {β : Type} (result : β) : Program β
  /-- Changes the state of warnings, without looking at it. -/
  | affect {β : Type} (effect : State → State) (rest : Program β) : Program β
  | rename {α β : Type} (renamer : Renamer) (function : String) (location : Location)
      (kwargs : KwArgs α) (next : KwArgs α × Option Error → Program β) : Program β
  | callRenamed {α β γ δ : Type} (function : RenamedFunction) (body : α × KwArgs γ → Program δ)
      (arguments : α) (kwargs : KwArgs γ) (location : Location)
      (next : Except Error δ → Program β) : Program β
  | call {α β γ : Type} (wrapper : Option Wrapper) (body : α → Program γ) (arguments : α)
      (location : Location) (next : γ → Program β) : Program β

/-- An answer that a program gets. -/
structure Answer : Type 1 where
  {type : Type}
  value : type

/-- A callable as a program. -/
def Callable.program {α β : Type} (callable : Callable α β) (arguments : α) : Program β :=
  .affect (callable.effect arguments) (.done (callable.answer arguments))

namespace Program

/-- What a call does to the state of warnings before it reaches the callable. -/
def announce (wrapper : Option Wrapper) (location : Location) (state : State) : State :=
  match wrapper with
  | some wrapper => wrapper.announce location state
  | none => state

/-- The state of warnings that a program leaves, and its result. -/
def run {β : Type} : Program β → State → State × β
  | .done result, state => (state, result)
  | .affect effect rest, state => rest.run (effect state)
  | .rename renamer function location kwargs next, state =>
      let outcome := renamer.renameInPlace function location kwargs state
      (next (outcome.kwargs, outcome.error)).run outcome.state
  | .callRenamed function body arguments kwargs location next, state =>
      match function.renamer.rename function.name location kwargs state with
      | (state, .error error) => (next (.error error)).run state
      | (state, .ok kwargs) =>
          let called := (body (arguments, kwargs)).run state
          (next (.ok called.2)).run called.1
  | .call wrapper body arguments location next, state =>
      let called := (body arguments).run (announce wrapper location state)
      (next called.2).run called.1

/-- The answers that a program gets, those that its callables get included, in order. -/
def answers {β : Type} : Program β → State → List Answer
  | .done _, _ => []
  | .affect effect rest, state => rest.answers (effect state)
  | .rename renamer function location kwargs next, state =>
      let outcome := renamer.renameInPlace function location kwargs state
      let answer := (outcome.kwargs, outcome.error)
      ⟨answer⟩ :: (next answer).answers outcome.state
  | .callRenamed function body arguments kwargs location next, state =>
      match function.renamer.rename function.name location kwargs state with
      | (state, .error error) =>
          let answer := Except.error error
          ⟨answer⟩ :: (next answer).answers state
      | (state, .ok kwargs) =>
          let called := (body (arguments, kwargs)).run state
          let answer := Except.ok called.2
          (body (arguments, kwargs)).answers state ++ ⟨answer⟩ :: (next answer).answers called.1
  | .call wrapper body arguments location next, state =>
      let warned := announce wrapper location state
      let called := (body arguments).run warned
      (body arguments).answers warned ++ ⟨called.2⟩ :: (next called.2).answers called.1

/-- Programs that differ only in what concerns warnings: in their effects, in how notices are worded
and where they go, in the wrappers of callables and in whether there are any. -/
inductive Alike : {β : Type} → Program β → Program β → Prop where
  | done {β : Type} (result : β) : Alike (.done result) (.done result)
  | affectLeft {β : Type} {first second : Program β} (effect : State → State)
      (h : Alike first second) : Alike (.affect effect first) second
  | affectRight {β : Type} {first second : Program β} (effect : State → State)
      (h : Alike first second) : Alike first (.affect effect second)
  | rename {α β : Type} {first second : Renamer} (function : String) (kwargs : KwArgs α)
      (location other : Location) {firstNext secondNext : KwArgs α × Option Error → Program β}
      (hpairs : first.pairs = second.pairs)
      (hnext : ∀ answer, Alike (firstNext answer) (secondNext answer)) :
      Alike (.rename first function location kwargs firstNext)
        (.rename second function other kwargs secondNext)
  | callRenamed {α β γ δ : Type} {first second : RenamedFunction} (arguments : α)
      (kwargs : KwArgs γ) (location other : Location)
      {firstBody secondBody : α × KwArgs γ → Program δ}
      {firstNext secondNext : Except Error δ → Program β}
      (hname : first.name = second.name) (hpairs : first.renamer.pairs = second.renamer.pairs)
      (hbody : ∀ arguments, Alike (firstBody arguments) (secondBody arguments))
      (hnext : ∀ answer, Alike (firstNext answer) (secondNext answer)) :
      Alike (.callRenamed first firstBody arguments kwargs location firstNext)
        (.callRenamed second secondBody arguments kwargs other secondNext)
  | call {α β γ : Type} (first second : Option Wrapper) (arguments : α)
      (location other : Location) {firstBody secondBody : α → Program γ}
      {firstNext secondNext : γ → Program β}
      (hbody : ∀ arguments, Alike (firstBody arguments) (secondBody arguments))
      (hnext : ∀ answer, Alike (firstNext answer) (secondNext answer)) :
      Alike (.call first firstBody arguments location firstNext)
        (.call second secondBody arguments other secondNext)

/-- The program in which methods and functions are not wrapped. -/
def unwrapped {β : Type} : Program β → Program β
  | .done result => .done result
  | .affect effect rest => .affect effect rest.unwrapped
  | .rename renamer function location kwargs next =>
      .rename renamer function location kwargs fun answer => (next answer).unwrapped
  | .callRenamed function body arguments kwargs location next =>
      .callRenamed function (fun arguments => (body arguments).unwrapped) arguments kwargs location
        fun answer => (next answer).unwrapped
  | .call _ body arguments location next =>
      .call none (fun arguments => (body arguments).unwrapped) arguments location
        fun answer => (next answer).unwrapped

theorem Alike.refl {β : Type} (program : Program β) : program.Alike program := by
  induction program with
  | done result => exact .done result
  | affect effect rest ih => exact .affectLeft effect (.affectRight effect ih)
  | rename renamer function location kwargs next ih => exact .rename function kwargs _ _ rfl ih
  | callRenamed function body arguments kwargs location next hbody hnext =>
      exact .callRenamed arguments kwargs _ _ rfl rfl hbody hnext
  | call wrapper body arguments location next hbody hnext =>
      exact .call wrapper wrapper arguments _ _ hbody hnext

theorem alike_unwrapped {β : Type} (program : Program β) : program.Alike program.unwrapped := by
  induction program with
  | done result => exact .done result
  | affect effect rest ih => exact .affectLeft effect (.affectRight effect ih)
  | rename renamer function location kwargs next ih => exact .rename function kwargs _ _ rfl ih
  | callRenamed function body arguments kwargs location next hbody hnext =>
      exact .callRenamed arguments kwargs _ _ rfl rfl hbody hnext
  | call wrapper body arguments location next hbody hnext =>
      exact .call wrapper none arguments _ _ hbody hnext

end Program

namespace Renamer

variable {α : Type} {first second : Renamer}

theorem answer_renameInPlace_congr (hpairs : first.pairs = second.pairs) (function : String)
    (location other : Location) (kwargs : KwArgs α) (state otherState : State) :
    let outcome := first.renameInPlace function location kwargs state
    let otherOutcome := second.renameInPlace function other kwargs otherState
    outcome.kwargs = otherOutcome.kwargs ∧ outcome.error = otherOutcome.error := by
  intro outcome otherOutcome
  have hfirst := first.renameInPlace_cases function location kwargs state
  have hsecond := second.renameInPlace_cases function other kwargs otherState
  rw [← hpairs] at hsecond
  cases h : conflict? first.pairs.entries kwargs.keys with
  | some pair =>
      simp only [h] at hfirst hsecond
      simp only [outcome, otherOutcome, hfirst, hsecond, and_self]
  | none =>
      simp only [h] at hfirst hsecond
      exact ⟨hfirst.2.trans hsecond.2.symm, hfirst.1.trans hsecond.1.symm⟩

theorem Outcome.answer_snd (outcome : Outcome α) :
    outcome.answer.2 = match outcome.error with
      | none => .ok outcome.kwargs
      | some error => .error error := by
  obtain ⟨state, kwargs, _ | error⟩ := outcome <;> rfl

theorem answer_rename_congr (hpairs : first.pairs = second.pairs) (function : String)
    (location other : Location) (kwargs : KwArgs α) (state otherState : State) :
    (first.rename function location kwargs state).2 =
      (second.rename function other kwargs otherState).2 := by
  obtain ⟨hkwargs, herror⟩ :=
    answer_renameInPlace_congr hpairs function location other kwargs state otherState
  rw [rename, rename, Outcome.answer_snd, Outcome.answer_snd, hkwargs, herror]

end Renamer

namespace Program

theorem Alike.answers_eq {β : Type} {first second : Program β} (h : first.Alike second)
    (state other : State) :
    (first.run state).2 = (second.run other).2 ∧ first.answers state = second.answers other := by
  induction h generalizing state other with
  | done result => exact ⟨rfl, rfl⟩
  | affectLeft effect h ih => exact ih (effect state) other
  | affectRight effect h ih => exact ih state (effect other)
  | rename function kwargs location otherLocation hpairs hnext ih =>
      obtain ⟨hkwargs, herror⟩ := Renamer.answer_renameInPlace_congr hpairs function location
        otherLocation kwargs state other
      simp only [run, answers]
      rw [hkwargs, herror]
      obtain ⟨hrun, hanswers⟩ := ih _ _ _
      exact ⟨hrun, congrArg _ hanswers⟩
  | @callRenamed _ _ _ _ firstFunction secondFunction arguments kwargs location otherLocation
      firstBody secondBody firstNext secondNext hname hpairs hbody hnext ihbody ihnext =>
      have hrename := Renamer.answer_rename_congr hpairs firstFunction.name location otherLocation
        kwargs state other
      rw [run, run, answers, answers, ← hname]
      generalize firstFunction.renamer.rename firstFunction.name location kwargs state = first
        at hrename ⊢
      generalize secondFunction.renamer.rename firstFunction.name otherLocation kwargs other =
        second at hrename ⊢
      obtain ⟨firstState, firstAnswer⟩ := first
      obtain ⟨secondState, secondAnswer⟩ := second
      -- Both calls are refused, with the same error, or both go on with the same arguments.
      obtain rfl : firstAnswer = secondAnswer := hrename
      cases firstAnswer with
      | error error =>
          obtain ⟨hrun, hanswers⟩ := ihnext (.error error) firstState secondState
          exact ⟨hrun, congrArg _ hanswers⟩
      | ok renamed =>
          obtain ⟨hcalled, hinner⟩ := ihbody (arguments, renamed) firstState secondState
          obtain ⟨hrun, hanswers⟩ := ihnext (.ok ((firstBody (arguments, renamed)).run firstState).2)
            ((firstBody (arguments, renamed)).run firstState).1
            ((secondBody (arguments, renamed)).run secondState).1
          simp only [← hcalled]
          exact ⟨hrun, by rw [hinner, hanswers]⟩
  | call firstWrapper secondWrapper arguments location otherLocation hbody hnext ihbody ihnext =>
      obtain ⟨hcalled, hinner⟩ := ihbody arguments (announce firstWrapper location state)
        (announce secondWrapper otherLocation other)
      obtain ⟨hrun, hanswers⟩ := ihnext _ _ _
      simp only [run, answers]
      rw [← hcalled]
      exact ⟨hrun, by rw [hinner, hanswers]⟩

/-- What a program does, as a callable that can be wrapped. -/
def callable {α β : Type} (body : α → Program β) : Callable α β where
  answer arguments := ((body arguments).run {}).2
  effect arguments state := ((body arguments).run state).1

theorem run_callable {α β : Type} (body : α → Program β) (arguments : α) (state : State) :
    (callable body).run arguments state = (body arguments).run state :=
  Prod.ext rfl ((Alike.refl (body arguments)).answers_eq {} state).1

theorem run_call {α β : Type} (wrapper : Wrapper) (body : α → Program β) (arguments : α)
    (location : Location) (state : State) :
    (call (some wrapper) body arguments location .done).run state =
      wrapper.call (callable body) arguments location state := by
  rw [Wrapper.call, run_callable]
  rfl

theorem run_callRenamed {α β γ : Type} (function : RenamedFunction)
    (body : α × KwArgs β → Program γ) (arguments : α) (kwargs : KwArgs β) (location : Location)
    (state : State) :
    (callRenamed function body arguments kwargs location .done).run state =
      function.call (callable body) arguments kwargs location state := by
  rw [run, RenamedFunction.call]
  obtain ⟨renamedState, error | renamed⟩ :=
    function.renamer.rename function.name location kwargs state
  · rfl
  · simp only [run_callable]
    rfl

/-- Programs that differ only in what concerns warnings get the same answers, one after the other,
and have the same result, whatever the states of warnings are that they start in.  These are the
answers and the result when methods and functions are called directly.  What a program calls may be
any callable, also one that is a program, wrapped or not. -/
theorem results_independent_of_warnings {β : Type} {first second : Program β}
    (h : first.Alike second) (state other : State) :
    (first.answers state = second.answers other ∧ (first.run state).2 = (second.run other).2) ∧
      (first.answers state = first.unwrapped.answers other ∧
        (first.run state).2 = (first.unwrapped.run other).2) ∧
      (∀ (α γ : Type) (inner : Callable α γ) arguments moment,
        (inner.program arguments).run moment = inner.run arguments moment) ∧
      (∀ (α γ : Type) wrapper (body : α → Program γ) arguments location moment,
        (call (some wrapper) body arguments location .done).run moment =
          wrapper.call (callable body) arguments location moment) ∧
      ∀ (α γ δ : Type) function (body : α × KwArgs γ → Program δ) arguments kwargs location
        moment, (callRenamed function body arguments kwargs location .done).run moment =
          function.call (callable body) arguments kwargs location moment := by
  obtain ⟨hrun, hanswers⟩ := h.answers_eq state other
  obtain ⟨hdirect, hdirectAnswers⟩ := first.alike_unwrapped.answers_eq state other
  exact ⟨⟨hanswers, hrun⟩, ⟨hdirectAnswers, hdirect⟩, fun _ _ _ _ _ => rfl,
    fun _ _ => run_call, fun _ _ _ => run_callRenamed⟩

/-- A counter is bumped twice, and arguments are renamed.  In one run the method is wrapped and all
warnings go to the log; in the other it is called directly, and the notice was reported before. -/
theorem bumped_counter_unaffected :
    let place : Location := ⟨"main", 1⟩
    let bump : Callable (Nat × Nat) (Nat × Nat) :=
      { answer := fun arguments => (arguments.1 + arguments.2, arguments.1 + arguments.2) }
    let kwargs : KwArgs Nat := .ofList [("old", 7), ("other", 8)]
    let run (wrapper : Option Wrapper) (renamer : Renamer) : Program (Nat × List String) :=
      .call wrapper bump.program (0, 2) place fun first =>
        .call wrapper bump.program (first.1, 3) place fun second =>
          .rename renamer "f" place kwargs fun renamed => .done (second.1, renamed.1.keys)
    let loud := Route.own ⟨⟨1⟩, .log true, true⟩
    let renamer : Renamer := ⟨"1.0", .ofList [("old", "new")], none, 3, loud⟩
    let other : Renamer := { renamer with version := "2.0", stackLevel := 5, route := .shared }
    let first := run (some ⟨"bump", "The bump method is deprecated.", 2, loud, ⟨0⟩⟩) renamer
    let second := run none other
    let seen : State := (State.insert {} Registry.shared (other.notice "old" "new")).1
    first.Alike second ∧ first.answers {} = second.answers seen ∧
      (first.run {}).2 = (5, ["other", "new"]) := by
  intro place bump kwargs run loud renamer other first second seen
  have halike : first.Alike second :=
    .call _ _ _ _ _ (fun _ => .refl _) fun _ => .call _ _ _ _ _ (fun _ => .refl _) fun _ =>
      .rename _ _ _ _ rfl fun _ => .refl _
  exact ⟨halike, (results_independent_of_warnings halike {} seen).1.1, rfl⟩

end Program

end Deprecation
