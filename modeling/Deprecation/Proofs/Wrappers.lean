import Mathlib.Data.List.Nodup
import Deprecation.Proofs.Latches

/-!
Wrappers over whole runs.  A wrapper warns at its first call and at no other, whatever any registry
has seen, and its latch says whether it was called.  This rests on every wrapper having a latch of
its own: a run calls only wrappers that it has made, and fires only latches that it has made, so
that the latch of a wrapper changes with its calls and with nothing else.
-/

namespace Deprecation

/-- The wrappers and the latches that a run has made so far. -/
structure Handles where
  wrappers : List Wrapper := []
  latches : List (Address Latch) := []

namespace Handles

/-- The wrapper that a step calls, or the latch that it fires, is among those made. -/
def covers (handles : Handles) : Operation → Bool
  | .call wrapper _ _ => wrapper ∈ handles.wrappers
  | .fire latch => latch ∈ handles.latches
  | _ => true

def after (handles : Handles) : Operation → State → Handles
  | .wrap deprecation name, state =>
      { handles with wrappers := (deprecation.wrap name state).2 :: handles.wrappers }
  | .newLatch, state => { handles with latches := state.newLatch.2 :: handles.latches }
  | _, _ => handles

def afterAll (handles : Handles) : List Operation → State → Handles
  | [], _ => handles
  | step :: rest, state => (handles.after step state).afterAll rest (step.perform state).1

/-- Every step calls or fires only what was made before it. -/
def coversAll (handles : Handles) : List Operation → State → Bool
  | [], _ => true
  | step :: rest, state =>
      handles.covers step && (handles.after step state).coversAll rest (step.perform state).1

/-- Where the wrappers and the latches are: those of wrappers first. -/
def addresses (handles : Handles) : List (Address Latch) :=
  handles.wrappers.map Wrapper.latch ++ handles.latches

/-- The handles are those of latches that exist, each of them made once. -/
structure Valid (handles : Handles) (state : State) : Prop where
  allocated : ∀ address ∈ handles.addresses, address.index < state.latches.fresh.index
  nodup : handles.addresses.Nodup

theorem valid_empty (state : State) : ({} : Handles).Valid state where
  allocated := by simp [addresses]
  nodup := List.nodup_nil

theorem Valid.mono {handles : Handles} {state next : State} (h : handles.Valid state)
    (hnext : state.latches.fresh.index ≤ next.latches.fresh.index) : handles.Valid next where
  allocated := fun address haddress => Nat.lt_of_lt_of_le (h.allocated address haddress) hnext
  nodup := h.nodup

theorem Valid.of_newLatch {handles next : Handles} {state : State} (h : handles.Valid state)
    (hnext : next.addresses.Perm (state.newLatch.2 :: handles.addresses)) :
    next.Valid state.newLatch.1 where
  allocated := by
    intro address haddress
    have hfresh : state.latches.fresh.index < state.newLatch.1.latches.fresh.index :=
      Cells.fresh_lt_alloc _ _
    rcases List.mem_cons.mp (hnext.mem_iff.mp haddress) with rfl | hheld
    · exact hfresh
    · exact Nat.lt_trans (h.allocated address hheld) hfresh
  nodup := by
    refine hnext.nodup_iff.mpr (List.nodup_cons.mpr ⟨fun hheld => ?_, h.nodup⟩)
    exact Nat.lt_irrefl _ (h.allocated _ hheld)

theorem Valid.after {handles : Handles} {state : State} (h : handles.Valid state)
    (step : Operation) : (handles.after step state).Valid (step.perform state).1 := by
  cases step with
  | wrap deprecation name =>
      rw [Operation.perform]
      exact h.of_newLatch (List.Perm.refl _)
  | newLatch =>
      rw [Operation.perform]
      exact h.of_newLatch List.perm_middle
  | _ => exact h.mono (Operation.fresh_le_perform _ state)

theorem Valid.afterAll {handles : Handles} {state : State} (h : handles.Valid state)
    (steps : List Operation) :
    (handles.afterAll steps state).Valid (Operation.performAll steps state) := by
  induction steps generalizing handles state with
  | nil => rwa [Operation.performAll]
  | cons step rest ih =>
      rw [Operation.performAll]
      exact ih (h.after step)

theorem coversAll_append {handles : Handles} {first second : List Operation} {state : State} :
    handles.coversAll (first ++ second) state = true ↔
      handles.coversAll first state = true ∧
        (handles.afterAll first state).coversAll second (Operation.performAll first state) =
          true := by
  induction first generalizing handles state with
  | nil =>
      rw [Operation.performAll]
      exact (and_iff_right rfl).symm
  | cons step rest ih =>
      rw [Operation.performAll, List.cons_append, coversAll, coversAll, Bool.and_eq_true, ih,
        Bool.and_eq_true, and_assoc]
      rfl

theorem mem_wrappers_after {handles : Handles} {wrapper : Wrapper}
    (h : wrapper ∈ handles.wrappers) (step : Operation) (state : State) :
    wrapper ∈ (handles.after step state).wrappers := by
  cases step with
  | wrap deprecation name => exact List.mem_cons_of_mem _ h
  | _ => exact h

theorem mem_wrappers_afterAll {handles : Handles} {wrapper : Wrapper}
    (h : wrapper ∈ handles.wrappers) (steps : List Operation) (state : State) :
    wrapper ∈ (handles.afterAll steps state).wrappers := by
  induction steps generalizing handles state with
  | nil => exact h
  | cons step rest ih => exact ih (mem_wrappers_after h step state) (step.perform state).1

theorem Valid.eq_of_latch_eq {handles : Handles} {state : State} (h : handles.Valid state)
    {first second : Wrapper} (hfirst : first ∈ handles.wrappers)
    (hsecond : second ∈ handles.wrappers) (hlatch : first.latch = second.latch) :
    first = second :=
  List.inj_on_of_nodup_map (List.nodup_append.mp h.nodup).1 hfirst hsecond hlatch

theorem Valid.latch?_eq_some_iff {handles : Handles} {state : State} (h : handles.Valid state)
    {wrapper : Wrapper} (hmem : wrapper ∈ handles.wrappers) {step : Operation}
    (hstep : step.IsStep) (hcovers : handles.covers step = true) :
    step.latch? = some wrapper.latch ↔ ∃ location, .call wrapper location [] = step := by
  constructor
  · intro hlatch
    cases step with
    | call called location body =>
        obtain rfl : body = [] := hstep
        have hcalled : called ∈ handles.wrappers := of_decide_eq_true hcovers
        rw [h.eq_of_latch_eq hcalled hmem (Option.some.inj hlatch)]
        exact ⟨location, rfl⟩
    | fire latch =>
        have hfired : latch ∈ handles.latches := of_decide_eq_true hcovers
        have hwrapped : wrapper.latch ∈ handles.wrappers.map Wrapper.latch :=
          List.mem_map_of_mem hmem
        exact absurd (Option.some.inj hlatch).symm
          ((List.nodup_append.mp h.nodup).2.2 _ hwrapped _ hfired)
    | _ => cases hlatch
  · rintro ⟨location, rfl⟩
    rfl

theorem Valid.exists_latch?_iff {handles : Handles} {state : State} (h : handles.Valid state)
    {wrapper : Wrapper} (hmem : wrapper ∈ handles.wrappers) {steps : List Operation}
    (hsteps : ∀ step ∈ steps, step.IsStep) (hcovers : handles.coversAll steps state = true) :
    (∃ step ∈ steps, step.latch? = some wrapper.latch) ↔
      ∃ location, .call wrapper location [] ∈ steps := by
  induction steps generalizing handles state with
  | nil => simp
  | cons step rest ih =>
      rw [List.forall_mem_cons] at hsteps
      rw [coversAll, Bool.and_eq_true] at hcovers
      have hrest := ih (h.after step) (mem_wrappers_after hmem step state) hsteps.2 hcovers.2
      simp only [List.mem_cons, or_and_right, exists_or, exists_eq_left, hrest,
        h.latch?_eq_some_iff hmem hsteps.1 hcovers.1]

end Handles

/-- What a call of a wrapper delivers at a state. -/
def Wrapper.deliveries (wrapper : Wrapper) (location : Location) (state : State) : List Delivery :=
  let emitter := (state.resolve wrapper.route).2
  if wrapper.hasWarned state = false ∧ emitter.enabled = true then
    [⟨.wrapper wrapper.latch, emitter.sink, ⟨wrapper.text, wrapper.stackLevel, location⟩⟩]
  else []

theorem Wrapper.deliveries_announce (wrapper : Wrapper) (location : Location) (state : State) :
    (Action.announce wrapper location).deliveries state = wrapper.deliveries location state := by
  rw [Action.deliveries, State.resolve_fire_snd]
  rfl

theorem Operation.perform_call (wrapper : Wrapper) (location : Location) (state : State) :
    ((Operation.call wrapper location []).perform state).1 =
      (Action.announce wrapper location).perform state := by
  rw [perform]
  change performAll [] (wrapper.announce location state) = _
  rw [performAll]
  rfl

namespace Handles

variable {handles : Handles} {state : State} {wrapper : Wrapper} {steps : List Operation}

theorem valid_of_coversAll {before after : List Operation} {step : Operation}
    (hvalid : handles.Valid state)
    (h : handles.coversAll (before ++ step :: after) state = true) :
    let moment := Operation.performAll before state
    let held := handles.afterAll before state
    held.Valid moment ∧ held.covers step = true ∧
      (held.after step moment).coversAll after (step.perform moment).1 = true := by
  intro moment held
  obtain ⟨-, hrest⟩ := coversAll_append.mp h
  rw [coversAll, Bool.and_eq_true] at hrest
  exact ⟨hvalid.afterAll before, hrest⟩

theorem exists_of_wrap {before after : List Operation} {deprecation : CallableDeprecation}
    {name : String} (hvalid : handles.Valid state)
    (h : handles.coversAll (before ++ .wrap deprecation name :: after) state = true) :
    let made := deprecation.wrap name (Operation.performAll before state)
    made.2.hasWarned made.1 = false ∧
      ∃ held : Handles, held.Valid made.1 ∧ made.2 ∈ held.wrappers ∧
        held.coversAll after made.1 = true := by
  intro made
  have hmade : ((Operation.wrap deprecation name).perform
      (Operation.performAll before state)).1 = made.1 := by
    rw [Operation.perform]
  obtain ⟨hbefore, -, hafter⟩ := valid_of_coversAll hvalid h
  have hheld := hbefore.after (.wrap deprecation name)
  rw [hmade] at hafter hheld
  exact ⟨congrArg Latch.fired (State.latch_newLatch_snd _), _, hheld, List.mem_cons_self, hafter⟩

theorem Valid.hasWarned_performAll_iff (h : handles.Valid state)
    (hmem : wrapper ∈ handles.wrappers) (hsteps : ∀ step ∈ steps, step.IsStep)
    (hcovers : handles.coversAll steps state = true) :
    wrapper.hasWarned (Operation.performAll steps state) = true ↔
      wrapper.hasWarned state = true ∨ ∃ location, .call wrapper location [] ∈ steps := by
  rw [← h.exists_latch?_iff hmem hsteps hcovers]
  exact Operation.fired_performAll_iff hsteps state wrapper.latch

theorem Valid.warningsOf_performAll (h : handles.Valid state)
    (hmem : wrapper ∈ handles.wrappers) (hsteps : ∀ step ∈ steps, step.IsStep)
    (hcovers : handles.coversAll steps state = true)
    (hcalled : (∃ location, .call wrapper location [] ∈ steps) →
      wrapper.hasWarned state = true) :
    (Operation.performAll steps state).journal.warningsOf (.wrapper wrapper.latch) =
      state.journal.warningsOf (.wrapper wrapper.latch) := by
  apply Operation.warningsOf_performAll_of_latch? hsteps
  rwa [h.exists_latch?_iff hmem hsteps hcovers]

theorem warningsOf_call (hwarned : wrapper.hasWarned state = false) (location : Location) :
    ((Operation.call wrapper location []).perform state).1.journal.warningsOf
        (.wrapper wrapper.latch) =
      state.journal.warningsOf (.wrapper wrapper.latch) ++
        if (state.resolve wrapper.route).2.enabled then
          [⟨wrapper.text, wrapper.stackLevel, location⟩]
        else [] := by
  rw [Operation.perform_call, Action.warningsOf_perform, Wrapper.deliveries_announce,
    Wrapper.deliveries]
  cases (state.resolve wrapper.route).2.enabled <;> simp [hwarned, Delivery.warningsOf]

theorem Valid.warningsOf_performAll_of_first (h : handles.Valid state)
    (hmem : wrapper ∈ handles.wrappers) (hwarned : wrapper.hasWarned state = false)
    {first rest : List Operation} {location : Location}
    (hsteps : ∀ step ∈ first ++ .call wrapper location [] :: rest, step.IsStep)
    (hcovers : handles.coversAll (first ++ .call wrapper location [] :: rest) state = true)
    (hfirst : ∀ other, .call wrapper other [] ∉ first) :
    (Operation.performAll (first ++ .call wrapper location [] :: rest) state).journal.warningsOf
        (.wrapper wrapper.latch) =
      state.journal.warningsOf (.wrapper wrapper.latch) ++
        if ((Operation.performAll first state).resolve wrapper.route).2.enabled then
          [⟨wrapper.text, wrapper.stackLevel, location⟩]
        else [] := by
  rw [List.forall_mem_append, List.forall_mem_cons] at hsteps
  obtain ⟨hsteps, -, hrest⟩ := hsteps
  have hnone : ¬ ∃ other, .call wrapper other [] ∈ first := not_exists.mpr hfirst
  have hcoversFirst := (coversAll_append.mp hcovers).1
  obtain ⟨hvalid, -, hcoversRest⟩ := valid_of_coversAll h hcovers
  have hmoment : wrapper.hasWarned (Operation.performAll first state) = false := by
    rw [← Bool.not_eq_true, h.hasWarned_performAll_iff hmem hsteps hcoversFirst, hwarned]
    exact not_or.mpr ⟨Bool.false_ne_true, hnone⟩
  have hcalled : wrapper.hasWarned ((Operation.call wrapper location []).perform
      (Operation.performAll first state)).1 = true := by
    rw [Operation.perform_call]
    exact (Action.fired_perform_iff _ _ _).mpr (Or.inr rfl)
  have hafter := (hvalid.after (.call wrapper location [])).warningsOf_performAll
    (mem_wrappers_afterAll hmem first state) hrest hcoversRest fun _ => hcalled
  rw [Operation.performAll_append, Operation.performAll, hafter, warningsOf_call hmoment,
    h.warningsOf_performAll hmem hsteps hcoversFirst fun hsome => (hnone hsome).elim]

end Handles

/-- Each wrapper of a run warns at its first call and at no other, with the text made when it was
made and at the stack level of its builder, if its emitter is enabled then.  It has warned exactly
if it was called, shown or not.  A call changes no registry and asks none, and it changes the flag
of no other wrapper; what is wrapped runs after the warning. -/
theorem wrapper_warns_at_first_call (operations : List Operation) (state : State)
    (h : ({} : Handles).coversAll (Operation.stepsAll operations state) state = true) :
    let steps := Operation.stepsAll operations state
    Operation.performAll steps state = Operation.performAll operations state ∧
      (∀ before deprecation name during after,
        steps = before ++ .wrap deprecation name :: during ++ after →
          let made := deprecation.wrap name (Operation.performAll before state)
          let wrapper := made.2
          let final := Operation.performAll during made.1
          let shown (state : State) := state.journal.warningsOf (.wrapper wrapper.latch)
          (wrapper.text = deprecation.text name ∧ wrapper.stackLevel = deprecation.stackLevel ∧
              wrapper.route = deprecation.route) ∧
            (wrapper.hasWarned final = true ↔ ∃ location, .call wrapper location [] ∈ during) ∧
            ((∀ location, .call wrapper location [] ∉ during) → shown final = shown made.1) ∧
            ∀ first location rest, during = first ++ .call wrapper location [] :: rest →
              (∀ other, .call wrapper other [] ∉ first) →
                let moment := Operation.performAll first made.1
                shown final = shown made.1 ++
                  if (moment.resolve wrapper.route).2.enabled then
                    [⟨wrapper.text, wrapper.stackLevel, location⟩]
                  else []) ∧
      (∀ before wrapper location after, steps = before ++ .call wrapper location [] :: after →
        let moment := Operation.performAll before state
        let next := Operation.performAll (before ++ [.call wrapper location []]) state
        let delivered := wrapper.deliveries location moment
        next.journal.deliveries = moment.journal.deliveries ++ delivered ∧
          (∀ buffer, (next.buffer buffer).warnings =
            (moment.buffer buffer).warnings ++ Delivery.warningsTo buffer delivered) ∧
          (∀ registry, next.registry registry = moment.registry registry) ∧
          ∀ other ∈ (({} : Handles).afterAll before state).wrappers, other ≠ wrapper →
            other.hasWarned next = other.hasWarned moment) ∧
      (∀ before deprecation name between other otherName after,
        steps = before ++ .wrap deprecation name :: between ++ .wrap other otherName :: after →
          let first := deprecation.wrap name (Operation.performAll before state)
          let second := other.wrap otherName (Operation.performAll between first.1)
          first.2.latch ≠ second.2.latch) ∧
      ∀ wrapper location body moment,
        let warned := wrapper.announce location moment
        (Operation.call wrapper location body).steps moment =
            .call wrapper location [] :: Operation.stepsAll body warned ∧
          ((Operation.call wrapper location body).perform moment).1 =
            Operation.performAll body warned ∧
          warned.journal <+: ((Operation.call wrapper location body).perform moment).1.journal := by
  intro steps
  change ({} : Handles).coversAll steps state = true at h
  have hsteps : ∀ step ∈ steps, step.IsStep := Operation.isStep_of_mem_stepsAll operations state
  have hempty := Handles.valid_empty state
  refine ⟨Operation.performAll_stepsAll operations state, ?_, ?_, ?_, ?_⟩
  · intro before deprecation name during after hsplit made wrapper final shown
    rw [hsplit, List.append_assoc, List.cons_append] at h
    obtain ⟨hnew, held, hvalid, hmem, hcovers⟩ := Handles.exists_of_wrap hempty h
    have hcoversDuring := (Handles.coversAll_append.mp hcovers).1
    have hduring : ∀ step ∈ during, step.IsStep := fun step hstep =>
      hsteps step (by rw [hsplit]; simp [hstep])
    refine ⟨?_, ?_, ?_, ?_⟩
    · rw [show wrapper = _ from deprecation.wrap_snd name _]
      simp only [and_self]
    · rw [hvalid.hasWarned_performAll_iff hmem hduring hcoversDuring, hnew]
      exact or_iff_right Bool.false_ne_true
    · intro hnone
      exact hvalid.warningsOf_performAll hmem hduring hcoversDuring fun ⟨location, hlocation⟩ =>
        (hnone location hlocation).elim
    · rintro first location rest rfl hfirst
      exact hvalid.warningsOf_performAll_of_first hmem hnew hduring hcoversDuring hfirst
  · intro before wrapper location after hsplit moment next delivered
    rw [hsplit] at h
    obtain ⟨hvalid, hcovers, -⟩ := Handles.valid_of_coversAll hempty h
    have hnext : next = (Action.announce wrapper location).perform moment := by
      rw [show next = _ from Operation.performAll_append before _ state, Operation.performAll,
        Operation.performAll, Operation.perform_call]
    rw [hnext, show delivered = _ from (wrapper.deliveries_announce location moment).symm]
    refine ⟨Action.deliveries_perform _ moment,
      fun buffer => Action.warnings_perform Action.noConfusion moment,
      wrapper.registry_announce location moment, ?_⟩
    intro other hother hne
    have hlatch : ¬ (Action.announce wrapper location).latch? = some other.latch := fun hsame =>
      hne (hvalid.eq_of_latch_eq hother (of_decide_eq_true hcovers) (Option.some.inj hsame).symm)
    rw [Wrapper.hasWarned, Action.latch_perform, if_neg hlatch]
    rfl
  · intro before deprecation name between other otherName after hsplit first second
    rw [hsplit, List.append_assoc, List.cons_append] at h
    obtain ⟨-, held, hvalid, hmem, -⟩ := Handles.exists_of_wrap hempty h
    have hheld : first.2.latch ∈ held.addresses :=
      List.mem_append_left _ (List.mem_map_of_mem hmem)
    have hallocated := (hvalid.mono (Operation.fresh_le_performAll between first.1)).allocated
    intro hsame
    rw [hsame] at hheld
    exact Nat.lt_irrefl _ (hallocated _ hheld)
  · intro wrapper location body moment warned
    have hperform : ((Operation.call wrapper location body).perform moment).1 =
        Operation.performAll body warned := by
      rw [Operation.perform]
      rfl
    refine ⟨by rw [Operation.steps], hperform, ?_⟩
    rw [hperform, Operation.performAll_eq]
    exact Action.journal_prefix_performAll _ warned

/-- Of two wrappers that one builder makes for the same name, what one wraps calls the other, which
is called again later.  It warns once, and not because the first one did. -/
theorem nested_wrapper_warns_once :
    let deprecation : CallableDeprecation :=
      { kind := .function, version := "2.0.0", replacement := ⟨.function, "start"⟩,
        stackLevel := 2, route := .own ⟨Registry.shared, .discard, true⟩ }
    let place : Location := ⟨"main.rs", 1⟩
    let first := deprecation.wrap "run" {}
    let second := deprecation.wrap "run" first.1
    let operations : List Operation :=
      [.wrap deprecation "run", .wrap deprecation "run",
        .call first.2 place [.call second.2 place []], .call second.2 place []]
    let final := Operation.performAll operations {}
    ({} : Handles).coversAll (Operation.stepsAll operations {}) {} = true ∧
      second.2.hasWarned final = true ∧
      final.journal.warningsOf (.wrapper second.2.latch) = [⟨second.2.text, 2, place⟩] := by
  intro deprecation place first second operations final
  have hcovers : ({} : Handles).coversAll (Operation.stepsAll operations {}) {} = true := by
    simp [Handles.coversAll, Handles.covers, Handles.after, Operation.stepsAll, Operation.steps,
      Operation.perform, operations, first, second]
  obtain ⟨-, hmade, -⟩ := wrapper_warns_at_first_call operations {} hcovers
  have hsecond := hmade [.wrap deprecation "run"] deprecation "run"
    [.call first.2 place [], .call second.2 place [], .call second.2 place []] [] rfl
  rw [show Operation.performAll [.wrap deprecation "run"] {} = first.1 from rfl] at hsecond
  obtain ⟨-, hwarned, -, hshown⟩ := hsecond
  refine ⟨hcovers, hwarned.mpr ⟨place, List.mem_cons_of_mem _ List.mem_cons_self⟩, ?_⟩
  refine hshown [.call first.2 place []] place [.call second.2 place []] rfl ?_
  intro other hother
  have hsame : second.2 = first.2 := (Operation.call.inj (List.mem_singleton.mp hother)).1
  exact absurd (congrArg Wrapper.latch hsame) (by decide)

end Deprecation
