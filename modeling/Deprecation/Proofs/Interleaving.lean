import Deprecation.Proofs.SharedCalls

/-!
Threads that share registries and wrappers.  However the steps of their calls interleave, of all
calls about the same thing one is told that it is the first, and only that one delivers; once all
threads are done it has.  What carries this is that the answers so far account for everything that
was claimed, and that a delivery is the second step of a call which was told that it is the first.
-/

namespace Deprecation

/-- A thread: the call that it has claimed, with the answer, until that call is finished, and the
calls that it is still to make. -/
structure Thread where
  pending : Option (SharedCall × Bool) := none
  rest : List SharedCall
deriving DecidableEq, Repr

namespace Thread

def isDone (thread : Thread) : Bool :=
  thread.pending.isNone && thread.rest.isEmpty

end Thread

/-- Threads over one state.  The calls that were answered and those that are finished, each with its
answer, are kept in order. -/
structure Machine where
  state : State
  threads : List Thread
  answers : List (SharedCall × Bool) := []
  finished : List (SharedCall × Bool) := []

namespace Machine

def start (programs : List (List SharedCall)) (state : State) : Machine where
  state := state
  threads := programs.map fun program => { rest := program }

/-- A step of the thread at an index, which finishes its call or claims the next one.  There is no
step where there is no thread, or where a thread is done. -/
def step (machine : Machine) (index : Nat) : Machine :=
  match machine.threads[index]? with
  | some ⟨some (call, isFirst), rest⟩ =>
      { machine with
        state := call.finish isFirst machine.state
        threads := machine.threads.set index ⟨none, rest⟩
        finished := machine.finished ++ [(call, isFirst)] }
  | some ⟨none, call :: rest⟩ =>
      { machine with
        state := (call.claim machine.state).1
        threads := machine.threads.set index ⟨some (call, (call.claim machine.state).2), rest⟩
        answers := machine.answers ++ [(call, (call.claim machine.state).2)] }
  | _ => machine

/-- The steps of threads in the order that a schedule gives. -/
def run (machine : Machine) (schedule : List Nat) : Machine :=
  schedule.foldl step machine

def isDone (machine : Machine) : Bool :=
  machine.threads.all Thread.isDone

/-- The calls that are answered and not finished. -/
def pending (machine : Machine) : List (SharedCall × Bool) :=
  machine.threads.filterMap Thread.pending

/-- The calls that are still to be made. -/
def rest (machine : Machine) : List SharedCall :=
  machine.threads.flatMap Thread.rest

/-- The number of steps that are still to be taken. -/
def work (machine : Machine) : Nat :=
  2 * machine.rest.length + machine.pending.length

/-- How many calls about a source were told that they are the first. -/
def wins (source : Source) (answers : List (SharedCall × Bool)) : Nat :=
  answers.countP fun answer => answer.2 && answer.1.source = source

theorem wins_concat (source : Source) (answers : List (SharedCall × Bool)) (call : SharedCall)
    (isFirst : Bool) :
    wins source (answers ++ [(call, isFirst)]) =
      wins source answers + (isFirst && decide (call.source = source)).toNat := by
  rw [wins, List.countP_append, List.countP_singleton]
  cases isFirst && decide (call.source = source) <;> rfl

theorem exists_first_of_wins {source : Source} {answers : List (SharedCall × Bool)}
    (h : wins source answers = 1) : ∃ call, (call, true) ∈ answers ∧ call.source = source := by
  have hpos : 0 < wins source answers := by rw [h]; exact Nat.one_pos
  obtain ⟨⟨call, isFirst⟩, hanswer, hfirst⟩ := List.countP_pos_iff.mp hpos
  obtain ⟨rfl, hsource⟩ := (Bool.and_eq_true _ _).mp hfirst
  exact ⟨call, hanswer, of_decide_eq_true hsource⟩

theorem exists_split_of_getElem? {α : Type} {items : List α} {index : Nat} {item : α}
    (h : items[index]? = some item) :
    ∃ before after, items = before ++ item :: after ∧
      ∀ other, items.set index other = before ++ other :: after := by
  obtain ⟨hlt, rfl⟩ := List.getElem?_eq_some_iff.mp h
  refine ⟨items.take index, items.drop (index + 1), ?_, ?_⟩
  · rw [List.getElem_cons_drop, List.take_append_drop]
  · intro other
    rw [List.set_eq_take_append_cons_drop, if_pos hlt]

theorem step_cases (machine : Machine) (index : Nat) :
    (∃ before call isFirst rest after,
        machine.threads = before ++ ⟨some (call, isFirst), rest⟩ :: after ∧
        machine.step index =
          { machine with
            state := call.finish isFirst machine.state
            threads := before ++ ⟨none, rest⟩ :: after
            finished := machine.finished ++ [(call, isFirst)] }) ∨
      (∃ before call rest after isFirst, isFirst = (call.claim machine.state).2 ∧
        machine.threads = before ++ ⟨none, call :: rest⟩ :: after ∧
        machine.step index =
          { machine with
            state := (call.claim machine.state).1
            threads := before ++ ⟨some (call, isFirst), rest⟩ :: after
            answers := machine.answers ++ [(call, isFirst)] }) ∨
      machine.step index = machine := by
  unfold step
  split
  · next call isFirst rest h =>
    obtain ⟨before, after, hsplit, hset⟩ := exists_split_of_getElem? h
    exact Or.inl ⟨before, call, isFirst, rest, after, hsplit, by rw [hset]⟩
  · next call rest h =>
    obtain ⟨before, after, hsplit, hset⟩ := exists_split_of_getElem? h
    exact Or.inr (Or.inl ⟨before, call, rest, after, _, rfl, hsplit, by rw [hset]⟩)
  · exact Or.inr (Or.inr rfl)

/-- What holds of threads at every moment of a run from a state. -/
structure Inv (programs : List (List SharedCall)) (state : State) (machine : Machine) : Prop where
  calls : (machine.answers.map Prod.fst ++ machine.rest).Perm programs.flatten
  /-- A call that is answered is finished, or its thread is still to finish it. -/
  finished : (machine.finished ++ machine.pending).Perm machine.answers
  isClaimed : ∀ source, machine.state.isClaimed source =
    (state.isClaimed source || machine.answers.any fun answer => answer.1.source = source)
  /-- Whatever is claimed and was not at the start, one answer said so. -/
  wins : ∀ source, wins source machine.answers + (state.isClaimed source).toNat =
    (machine.state.isClaimed source).toNat
  isEnabled : ∀ route, machine.state.isEnabled route = state.isEnabled route
  warnings : ∀ source, machine.state.journal.warningsOf source =
    state.journal.warningsOf source ++ machine.finished.filterMap (SharedCall.shown? state source)

theorem inv_start (programs : List (List SharedCall)) (state : State) :
    Inv programs state (start programs state) where
  calls := by simp [start, rest, List.flatMap_map]
  finished := by simp [start, pending]
  isClaimed := by simp [start]
  wins := by simp [start, Machine.wins]
  isEnabled := fun _ => rfl
  warnings := by simp [start]

variable {programs : List (List SharedCall)} {state : State} {machine : Machine}

theorem Inv.finish {before after : List Thread} {call : SharedCall} {isFirst : Bool}
    {rest : List SharedCall} (h : Inv programs state machine)
    (hthreads : machine.threads = before ++ ⟨some (call, isFirst), rest⟩ :: after) :
    Inv programs state
      { machine with
        state := call.finish isFirst machine.state
        threads := before ++ ⟨none, rest⟩ :: after
        finished := machine.finished ++ [(call, isFirst)] } where
  calls := by
    have hcalls := h.calls
    simp only [Machine.rest, hthreads, List.flatMap_append, List.flatMap_cons] at hcalls ⊢
    exact hcalls
  finished := by
    refine List.Perm.trans ?_ h.finished
    simp only [pending, hthreads, List.filterMap_append, List.filterMap_cons, List.append_assoc,
      List.singleton_append]
    exact List.Perm.append_left _ List.perm_middle.symm
  isClaimed := fun source => (call.isClaimed_finish isFirst _ source).trans (h.isClaimed source)
  wins := fun source => by
    rw [SharedCall.isClaimed_finish]
    exact h.wins source
  isEnabled := fun route => (call.isEnabled_finish isFirst _ route).trans (h.isEnabled route)
  warnings := fun source => by
    rw [SharedCall.warningsOf_finish, h.warnings, SharedCall.shown?_congr h.isEnabled,
      List.filterMap_append, List.append_assoc, List.filterMap_cons]
    cases SharedCall.shown? state source (call, isFirst) <;> rfl

theorem Inv.claim {before after : List Thread} {call : SharedCall} {isFirst : Bool}
    {rest : List SharedCall} (h : Inv programs state machine)
    (hanswer : isFirst = (call.claim machine.state).2)
    (hthreads : machine.threads = before ++ ⟨none, call :: rest⟩ :: after) :
    Inv programs state
      { machine with
        state := (call.claim machine.state).1
        threads := before ++ ⟨some (call, isFirst), rest⟩ :: after
        answers := machine.answers ++ [(call, isFirst)] } where
  calls := by
    refine List.Perm.trans ?_ h.calls
    simp only [Machine.rest, hthreads, List.flatMap_append, List.flatMap_cons, List.map_append,
      List.map_singleton, List.append_assoc, List.cons_append, List.nil_append]
    exact List.Perm.append_left _ List.perm_middle.symm
  finished := by
    refine List.Perm.trans ?_ (h.finished.append_right [(call, isFirst)])
    simp only [pending, hthreads, List.filterMap_append, List.filterMap_cons, List.append_assoc]
    exact List.Perm.append_left _ (List.Perm.append_left _ (List.perm_append_singleton _ _).symm)
  isClaimed := fun source => by
    rw [SharedCall.isClaimed_claim, h.isClaimed, List.any_append, List.any_cons, List.any_nil,
      Bool.or_false, Bool.or_assoc]
  wins := fun source => by
    have hwins := h.wins source
    rw [wins_concat, SharedCall.isClaimed_claim, hanswer, SharedCall.claim_snd]
    -- only a call about the source changes anything, and only while nothing is claimed
    by_cases hsource : call.source = source
    · rw [hsource, decide_eq_true rfl, Bool.and_true, Bool.or_true, Nat.add_right_comm, hwins]
      cases machine.state.isClaimed source <;> rfl
    · rw [decide_eq_false hsource, Bool.and_false, Bool.or_false]
      exact hwins
  isEnabled := fun route => (call.isEnabled_claim _ route).trans (h.isEnabled route)
  warnings := fun source => by
    rw [Journal.warningsOf, SharedCall.journal_claim]
    exact h.warnings source

theorem Inv.step (h : Inv programs state machine) (index : Nat) :
    Inv programs state (machine.step index) := by
  rcases step_cases machine index with
    ⟨before, call, isFirst, rest, after, hthreads, hstep⟩ |
    ⟨before, call, rest, after, isFirst, hanswer, hthreads, hstep⟩ | hstep
  · rw [hstep]
    exact h.finish hthreads
  · rw [hstep]
    exact h.claim hanswer hthreads
  · rwa [hstep]

theorem Inv.run (h : Inv programs state machine) (schedule : List Nat) :
    Inv programs state (machine.run schedule) := by
  induction schedule generalizing machine with
  | nil => exact h
  | cons index rest ih => exact ih (h.step index)

theorem shown?_eq_some_iff {state : State} {source : Source} {call : SharedCall} {isFirst : Bool}
    {warning : Warning} :
    SharedCall.shown? state source (call, isFirst) = some warning ↔
      isFirst = true ∧ call.isEnabled state = true ∧ call.source = source ∧
        call.warning? = some warning := by
  simp [SharedCall.shown?, and_assoc]

theorem length_filterMap_shown?_le (state : State) (source : Source)
    (answers : List (SharedCall × Bool)) :
    (answers.filterMap (SharedCall.shown? state source)).length ≤ wins source answers := by
  rw [List.length_filterMap_eq_countP]
  refine List.countP_mono_left fun answer _ hshown => ?_
  obtain ⟨warning, hwarning⟩ := Option.isSome_iff_exists.mp hshown
  obtain ⟨hfirst, -, hsource, -⟩ := shown?_eq_some_iff.mp hwarning
  simp [hfirst, hsource]

theorem Inv.wins_le (h : Inv programs state machine) (source : Source) :
    Machine.wins source machine.answers ≤ if state.isClaimed source then 0 else 1 := by
  have hwins := h.wins source
  have hle : (machine.state.isClaimed source).toNat ≤ 1 := Bool.toNat_le _
  cases hclaimed : state.isClaimed source with
  | false =>
      rw [hclaimed, Bool.toNat_false] at hwins
      rw [if_neg Bool.false_ne_true]
      omega
  | true =>
      rw [hclaimed, Bool.toNat_true] at hwins
      rw [if_pos rfl]
      omega

theorem Inv.wins_finished_add (h : Inv programs state machine) (source : Source) :
    Machine.wins source machine.finished + Machine.wins source machine.pending =
      Machine.wins source machine.answers := by
  rw [Machine.wins, Machine.wins, ← List.countP_append]
  exact h.finished.countP_eq _

theorem Inv.exists_warningsOf (h : Inv programs state machine) (source : Source) :
    ∃ added, machine.state.journal.warningsOf source = state.journal.warningsOf source ++ added ∧
      added.length ≤ Machine.wins source machine.answers ∧
      ∀ warning ∈ added, ∃ call, (call, true) ∈ machine.answers ∧ call.source = source ∧
        call.warning? = some warning := by
  refine ⟨_, h.warnings source, ?_, ?_⟩
  · have hle := length_filterMap_shown?_le state source machine.finished
    have hadd := h.wins_finished_add source
    omega
  · intro warning hwarning
    obtain ⟨⟨call, isFirst⟩, hfinished, hshown⟩ := List.mem_filterMap.mp hwarning
    obtain ⟨rfl, -, hsource, hwarns⟩ := shown?_eq_some_iff.mp hshown
    exact ⟨call, h.finished.mem_iff.mp (List.mem_append_left _ hfinished), hsource, hwarns⟩

theorem pending_of_isDone (h : machine.isDone = true) : machine.pending = [] := by
  rw [pending, List.filterMap_eq_nil_iff]
  intro thread hthread
  have hdone := List.all_eq_true.mp h thread hthread
  rw [Thread.isDone, Bool.and_eq_true] at hdone
  exact Option.isNone_iff_eq_none.mp hdone.1

theorem rest_of_isDone (h : machine.isDone = true) : machine.rest = [] := by
  rw [rest, List.flatMap_eq_nil_iff]
  intro thread hthread
  have hdone := List.all_eq_true.mp h thread hthread
  rw [Thread.isDone, Bool.and_eq_true] at hdone
  exact List.isEmpty_iff.mp hdone.2

theorem Inv.perm_of_isDone (h : Inv programs state machine) (hdone : machine.isDone = true) :
    (machine.answers.map Prod.fst).Perm programs.flatten := by
  have hcalls := h.calls
  rwa [rest_of_isDone hdone, List.append_nil] at hcalls

theorem Inv.isClaimed_of_isDone (h : Inv programs state machine) (hdone : machine.isDone = true)
    (source : Source) :
    machine.state.isClaimed source = true ↔
      state.isClaimed source = true ∨ ∃ program ∈ programs, ∃ call ∈ program,
        call.source = source := by
  have hmentioned : (∃ answer ∈ machine.answers, answer.1.source = source) ↔
      ∃ program ∈ programs, ∃ call ∈ program, call.source = source := by
    have hperm : ∀ call, call ∈ machine.answers.map Prod.fst ↔ call ∈ programs.flatten :=
      fun call => (h.perm_of_isDone hdone).mem_iff
    simp only [List.mem_map, List.mem_flatten] at hperm
    constructor
    · rintro ⟨answer, hanswer, hsource⟩
      obtain ⟨program, hprogram, hcall⟩ := (hperm answer.1).mp ⟨answer, hanswer, rfl⟩
      exact ⟨program, hprogram, answer.1, hcall, hsource⟩
    · rintro ⟨program, hprogram, call, hcall, hsource⟩
      obtain ⟨answer, hanswer, rfl⟩ := (hperm call).mpr ⟨program, hprogram, hcall⟩
      exact ⟨answer, hanswer, hsource⟩
  rw [h.isClaimed, Bool.or_eq_true, List.any_eq_true, ← hmentioned]
  simp only [decide_eq_true_eq]

theorem Inv.wins_of_isDone (h : Inv programs state machine) (hdone : machine.isDone = true)
    {program : List SharedCall} (hprogram : program ∈ programs) {call : SharedCall}
    (hcall : call ∈ program) (hnew : state.isClaimed call.source = false) :
    Machine.wins call.source machine.answers = 1 := by
  have hwins := h.wins call.source
  rw [hnew, (h.isClaimed_of_isDone hdone call.source).mpr
    (Or.inr ⟨program, hprogram, call, hcall, rfl⟩)] at hwins
  exact hwins

theorem Inv.warningsOf_of_isDone (h : Inv programs state machine) (hdone : machine.isDone = true)
    {call : SharedCall} (hcall : (call, true) ∈ machine.answers)
    (henabled : call.isEnabled state = true) :
    machine.state.journal.warningsOf call.source =
      state.journal.warningsOf call.source ++ call.warning?.toList := by
  have hfinished : machine.finished.Perm machine.answers := by
    have hperm := h.finished
    rwa [pending_of_isDone hdone, List.append_nil] at hperm
  obtain ⟨before, after, hsplit⟩ := List.append_of_mem (hfinished.mem_iff.mpr hcall)
  have hwins : Machine.wins call.source machine.finished ≤ 1 := by
    rw [Machine.wins, hfinished.countP_eq]
    exact Nat.le_trans (h.wins_le call.source) (by split <;> omega)
  rw [hsplit, Machine.wins, List.countP_append, List.countP_cons_of_pos (by simp)] at hwins
  -- the calls that were told they came too late have shown nothing
  have hothers : ∀ answers, Machine.wins call.source answers = 0 →
      answers.filterMap (SharedCall.shown? state call.source) = [] := by
    intro answers hzero
    have hle := length_filterMap_shown?_le state call.source answers
    exact List.eq_nil_of_length_eq_zero (by omega)
  have hshown : SharedCall.shown? state call.source (call, true) = call.warning? := by
    simp [SharedCall.shown?, henabled]
  rw [h.warnings, hsplit, List.filterMap_append, List.filterMap_cons, hshown,
    hothers before (by rw [Machine.wins]; omega), hothers after (by rw [Machine.wins]; omega)]
  cases call.warning? <;> rfl

theorem run_append (machine : Machine) (first second : List Nat) :
    machine.run (first ++ second) = (machine.run first).run second :=
  List.foldl_append

theorem exists_work_step_lt (h : machine.isDone = false) :
    ∃ index, (machine.step index).work < machine.work := by
  obtain ⟨thread, hthread, hopen⟩ := List.all_eq_false.mp h
  obtain ⟨before, after, hsplit⟩ := List.append_of_mem hthread
  have hget : (before ++ thread :: after)[before.length]? = some thread := by simp
  have hset : ∀ other, (before ++ thread :: after).set before.length other =
      before ++ other :: after := by simp
  refine ⟨before.length, ?_⟩
  obtain ⟨_ | ⟨call, isFirst⟩, remaining⟩ := thread
  · cases remaining with
    | nil => exact absurd rfl hopen
    | cons call remaining =>
        simp only [work, rest, pending, step, hsplit, hget, hset, List.flatMap_append,
          List.flatMap_cons, List.filterMap_append, List.filterMap_cons, List.length_append,
          List.length_cons]
        omega
  · simp only [work, rest, pending, step, hsplit, hget, hset, List.flatMap_append,
      List.flatMap_cons, List.filterMap_append, List.filterMap_cons, List.length_append,
      List.length_cons]
    omega

theorem exists_run_isDone (machine : Machine) : ∃ more, (machine.run more).isDone = true := by
  induction hwork : machine.work using Nat.strongRecOn generalizing machine with
  | _ work ih =>
      cases hdone : machine.isDone with
      | true => exact ⟨[], hdone⟩
      | false =>
          obtain ⟨index, hlt⟩ := exists_work_step_lt hdone
          obtain ⟨more, hmore⟩ := ih _ (hwork ▸ hlt) (machine.step index) rfl
          exact ⟨index :: more, hmore⟩

theorem run_alone (program : List SharedCall) (machine : Machine)
    (h : machine.threads = [⟨none, program⟩]) :
    (machine.run (List.replicate (2 * program.length) 0)).state =
      Action.performAll (program.map SharedCall.action) machine.state := by
  induction program generalizing machine with
  | nil => rfl
  | cons call rest ih =>
      have hthreads : ((machine.step 0).step 0).threads = [⟨none, rest⟩] := by simp [step, h]
      have hstate : ((machine.step 0).step 0).state = call.action.perform machine.state := by
        rw [← call.finish_claim]
        simp [step, h]
      rw [List.map_cons, Action.performAll_cons, ← hstate, ← ih _ hthreads]
      rfl

end Machine

end Deprecation
