import Deprecation.Diagnostic
import Deprecation.Proofs.Deduplication
import Mathlib.Data.List.Nodup

/-!
Which hooks the accesses to enumerations fire, and what is shown if a hook shows a notice.  A look-up
that succeeds fires the hook of the member that it returns, and listing the members fires all their
hooks in the order of declaration; each access does so anew.  It is the registry of the emitter that
keeps a notice from being shown twice.
-/

namespace Deprecation

/-- An access to the members of an enumeration, or a look at the enumeration without an access. -/
inductive Access (α : Type) where
  | attr (member : Member α)
  | byName (name : String)
  | byValue (value : α)
  | list
  | size
  | isEmpty
  | describe
  | members

inductive Access.Answer (α : Type) where
  | member (found : Member α)
  | members (found : List (Member α))
  | size (count : Nat)
  | isEmpty (answer : Bool)
  | text (description : String)
  | error (error : Error)

namespace Enumeration

variable {α : Type} (enumeration : Enumeration α)

def perform [BEq α] : Access α → State → State × Access.Answer α
  | .attr member, state =>
      let (state, found) := enumeration.byMember member state
      (state, .member found)
  | .byName name, state =>
      match enumeration.byName name state with
      | (state, .ok found) => (state, .member found)
      | (state, .error error) => (state, .error error)
  | .byValue value, state =>
      match enumeration.byValue value state with
      | (state, .ok found) => (state, .member found)
      | (state, .error error) => (state, .error error)
  | .list, state =>
      let (state, found) := enumeration.list state
      (state, .members found)
  | .size, state => (state, .size enumeration.size)
  | .isEmpty, state => (state, .isEmpty enumeration.isEmpty)
  | .describe, state => (state, .text (Diagnostic.ofEnumeration enumeration))
  | .members, state => (state, .members enumeration.members)

/-- The members whose hooks an access fires, in order. -/
def fired [BEq α] : Access α → List (Member α)
  | .attr member => (enumeration.find? member.name).toList
  | .byName name => (enumeration.find? name).toList
  | .byValue value => (enumeration.members.find? fun member => member.value == value).toList
  | .list => enumeration.members
  | _ => []

/-- The members that an access hands out: the one that a look-up finds, or all of them when they are
listed.  A member at hand counts as found if the enumeration has its name. -/
def handedOut : Access α → Access.Answer α → List (Member α)
  | .attr member, .member found =>
      if member.name ∈ enumeration.members.map Member.name then [found] else []
  | .byName _, .member found => [found]
  | .byValue _, .member found => [found]
  | .list, .members found => found
  | _, _ => []

variable {enumeration}

theorem find?_name_of_mem {member : Member α} (h : member ∈ enumeration.members) :
    enumeration.find? member.name = some member := by
  rw [find?]
  cases hfind : enumeration.members.find? fun other => other.name == member.name with
  | none => simpa using List.find?_eq_none.mp hfind member h
  | some found =>
      have hname := List.find?_some hfind
      rw [List.inj_on_of_nodup_map enumeration.nodup (List.mem_of_find?_eq_some hfind) h
        (beq_iff_eq.mp hname)]

theorem find?_isSome_iff {name : String} :
    (enumeration.find? name).isSome = true ↔ name ∈ enumeration.members.map Member.name := by
  simp [find?, List.find?_isSome]

theorem perform_attr_of_mem [BEq α] {member : Member α} (h : member ∈ enumeration.members)
    (state : State) :
    enumeration.perform (.attr member) state =
      (enumeration.access member state, .member member) := by
  rw [perform, byMember, find?_name_of_mem h]

theorem perform_fst [BEq α] (access : Access α) (state : State) :
    (enumeration.perform access state).1 =
      (enumeration.fired access).foldl (fun state member => enumeration.access member state)
        state := by
  cases access with
  | attr member =>
      rw [perform, byMember, fired]
      cases enumeration.find? member.name <;> rfl
  | byName name =>
      rw [perform, byName, fired]
      cases enumeration.find? name <;> rfl
  | byValue value =>
      rw [perform, byValue, fired]
      cases enumeration.members.find? fun member => member.value == value <;> rfl
  | _ => rfl

theorem fired_eq_handedOut [BEq α] (access : Access α) (state : State) :
    enumeration.fired access =
      enumeration.handedOut access (enumeration.perform access state).2 := by
  cases access with
  | attr member =>
      rw [perform, byMember, fired, handedOut]
      have hfound : (enumeration.find? member.name).isSome = true ↔
          member.name ∈ enumeration.members.map Member.name := find?_isSome_iff
      cases hfind : enumeration.find? member.name with
      | none =>
          rw [hfind] at hfound
          exact (if_neg fun hname => Bool.noConfusion (hfound.mpr hname)).symm
      | some found =>
          rw [hfind] at hfound
          exact (if_pos (hfound.mp rfl)).symm
  | byName name =>
      rw [perform, byName, fired]
      cases enumeration.find? name <;> rfl
  | byValue value =>
      rw [perform, byValue, fired]
      cases enumeration.members.find? fun member => member.value == value <;> rfl
  | _ => rfl

theorem mem_members_of_mem_fired [BEq α] {access : Access α} {member : Member α}
    (h : member ∈ enumeration.fired access) : member ∈ enumeration.members := by
  cases access with
  | attr _ => exact List.mem_of_find?_eq_some (Option.mem_toList.mp h)
  | byName _ => exact List.mem_of_find?_eq_some (Option.mem_toList.mp h)
  | byValue _ => exact List.mem_of_find?_eq_some (Option.mem_toList.mp h)
  | list => exact h
  | _ => exact absurd h List.not_mem_nil

end Enumeration

/-- An access through some enumeration. -/
structure Visit : Type 1 where
  {α : Type}
  [beq : BEq α]
  enumeration : Enumeration α
  access : Access α

/-- A hook that fires, with the enumeration and the member that it belongs to. -/
structure Firing where
  enumeration : String
  member : String
  hook : State → State

namespace Firing

/-- The member is accessed, and its hook is about to run. -/
def enter (firing : Firing) (state : State) : State :=
  (state.log (.memberAccessed firing.enumeration firing.member)).note
    (.hookFired firing.enumeration firing.member)

def fire (firing : Firing) (state : State) : State :=
  firing.hook (firing.enter state)

def fireAll (firings : List Firing) (state : State) : State :=
  firings.foldl (fun state firing => firing.fire state) state

@[simp] theorem fireAll_nil (state : State) : fireAll [] state = state := rfl

@[simp] theorem fireAll_cons (firing : Firing) (rest : List Firing) (state : State) :
    fireAll (firing :: rest) state = fireAll rest (firing.fire state) := rfl

@[simp] theorem fireAll_append (first second : List Firing) (state : State) :
    fireAll (first ++ second) state = fireAll second (fireAll first state) :=
  List.foldl_append

end Firing

namespace Visit

instance (visit : Visit) : BEq visit.α := visit.beq

def perform (visit : Visit) (state : State) : State × Access.Answer visit.α :=
  visit.enumeration.perform visit.access state

def performAll (visits : List Visit) (state : State) : State :=
  visits.foldl (fun state visit => (visit.perform state).1) state

def fired (visit : Visit) : List (Member visit.α) :=
  visit.enumeration.fired visit.access

/-- The hooks that an access fires, in order. -/
def firings (visit : Visit) : List Firing :=
  visit.fired.map fun member => ⟨visit.enumeration.name, member.name, member.hook⟩

theorem perform_fst (visit : Visit) (state : State) :
    (visit.perform state).1 = Firing.fireAll visit.firings state := by
  rw [firings, Firing.fireAll, List.foldl_map]
  exact Enumeration.perform_fst visit.access state

theorem fired_of_attr {visit : Visit} {member : Member visit.α}
    (h : member ∈ visit.enumeration.members) (haccess : visit.access = .attr member)
    (state : State) : visit.fired = [member] ∧ (visit.perform state).2 = .member member := by
  rw [fired, perform, haccess]
  exact ⟨congrArg Option.toList (Enumeration.find?_name_of_mem h),
    congrArg Prod.snd (Enumeration.perform_attr_of_mem h state)⟩

theorem fired_of_list {visit : Visit} (haccess : visit.access = .list) (state : State) :
    visit.fired = visit.enumeration.members ∧
      (visit.perform state).2 = .members visit.enumeration.members := by
  rw [fired, perform, haccess]
  exact ⟨rfl, rfl⟩

theorem performAll_eq (visits : List Visit) (state : State) :
    performAll visits state = Firing.fireAll (visits.flatMap firings) state := by
  induction visits generalizing state with
  | nil => rfl
  | cons visit rest ih =>
      rw [List.flatMap_cons, Firing.fireAll_append, ← perform_fst, ← ih]
      rfl

end Visit

namespace Firing

variable {registry : Address Registry} {notice : Notice}

theorem hooks_fireAll {firings : List Firing}
    (h : ∀ firing ∈ firings, ∀ moment,
      (firing.hook moment).journal.hooks = moment.journal.hooks) (state : State) :
    (fireAll firings state).journal.hooks =
      state.journal.hooks ++ firings.map fun firing => (firing.enumeration, firing.member) := by
  induction firings generalizing state with
  | nil => exact (List.append_nil _).symm
  | cons firing rest ih =>
      rw [List.forall_mem_cons] at h
      have hfire : (firing.fire state).journal.hooks =
          state.journal.hooks ++ [(firing.enumeration, firing.member)] := by
        rw [fire, h.1, enter, State.journal_note, State.journal_log, Journal.hooks_append,
          Journal.hooks_append]
        exact congrArg (· ++ _) (List.append_nil _)
      rw [fireAll_cons, ih h.2, hfire, List.map_cons, List.append_assoc]
      rfl

end Firing

/-- The emitter of a route is enabled and over a registry that has not seen the notice. -/
def Route.Shows (registry : Address Registry) (notice : Notice) (route : Route) (state : State) :
    Prop :=
  let emitter := (state.resolve route).2
  emitter.registry = registry ∧ emitter.enabled = true ∧ notice ∉ state.registry registry

theorem Route.hooks_warn (route : Route) (notice : Notice) (stackLevel : UInt64)
    (location : Location) (state : State) :
    (route.warn notice stackLevel location state).journal.hooks = state.journal.hooks := by
  change ((state.resolve route).2.warn notice stackLevel location
    (state.resolve route).1).journal.hooks = _
  rw [Emitter.hooks_warn, State.journal_resolve]

theorem Route.resolve_warn_snd (route : Route) (notice : Notice) (stackLevel : UInt64)
    (location : Location) (state : State) :
    ((route.warn notice stackLevel location state).resolve route).2 = (state.resolve route).2 := by
  cases route with
  | own emitter => rfl
  | shared =>
      have hshared : (Route.shared.warn notice stackLevel location state).shared =
          some state.sharedEmitter.2 := by
        change (state.sharedEmitter.2.warn notice stackLevel location state.sharedEmitter.1).shared =
          _
        rw [Emitter.shared_warn, State.shared_sharedEmitter]
      change (Route.shared.warn notice stackLevel location state).sharedEmitter.2 =
        state.sharedEmitter.2
      rw [State.sharedEmitter_of_some hshared]

namespace Firing

variable {registry : Address Registry} {notice : Notice}

theorem resolve_enter_snd (firing : Firing) (route : Route) (state : State) :
    ((firing.enter state).resolve route).2 = (state.resolve route).2 :=
  State.resolve_snd_congr state (firing.enter state) rfl rfl rfl route

/-- What happens before the hook shows anything. -/
def entering (firing : Firing) (route : Route) : List Action :=
  .log (.memberAccessed firing.enumeration firing.member) ::
    .fireHook firing.enumeration firing.member :: route.actions

/-- What happens when a hook fires that shows a notice through a route. -/
def actions (firing : Firing) (route : Route) (notice : Notice) (stackLevel : UInt64)
    (location : Location) (state : State) : List Action :=
  firing.entering route ++ [.warn (state.resolve route).2 notice stackLevel location]

theorem performAll_entering (firing : Firing) (route : Route) (state : State) :
    Action.performAll (firing.entering route) state = ((firing.enter state).resolve route).1 :=
  (Route.resolve_fst route (firing.enter state)).symm

section

variable {firing : Firing} {route : Route} {stackLevel : UInt64} {location : Location}

theorem fire_eq (h : firing.hook = route.warn notice stackLevel location) (state : State) :
    firing.fire state =
      Action.performAll (firing.actions route notice stackLevel location state) state := by
  rw [fire, h, actions, Action.performAll_append, performAll_entering,
    ← resolve_enter_snd firing]
  rfl

theorem shownFirst_actions_iff {state : State} :
    Action.ShownFirst registry notice (firing.actions route notice stackLevel location state)
        state ↔
      route.Shows registry notice state := by
  have hquiet : ∀ action ∈ firing.entering route, ¬ action.Puts registry notice := by
    cases route <;> simp [entering, Route.actions, Action.Puts]
  have hsame : (Action.performAll (firing.entering route) state).registry registry =
      state.registry registry := by
    rw [performAll_entering, State.registry_resolve]
    rfl
  rw [actions, Action.shownFirst_append_iff,
    or_iff_right (Action.not_shownFirst_of_not_puts hquiet state), Action.shownFirst_cons_iff,
    or_iff_left Action.not_shownFirst_nil]
  constructor
  · rintro ⟨emitter, _, _, hwarn, hregistry, henabled, hnew⟩
    obtain ⟨rfl, -⟩ := Action.warn.inj hwarn
    exact ⟨hregistry, henabled, hsame ▸ hnew⟩
  · rintro ⟨hregistry, henabled, hnew⟩
    exact ⟨_, stackLevel, location, rfl, hregistry, henabled, hsame.symm ▸ hnew⟩

end

/-- The hooks show a notice, each through the route that it is given. -/
def Warn (notice : Notice) (route : Firing → Route) (firings : List Firing) : Prop :=
  ∀ firing ∈ firings, ∃ stackLevel location,
    firing.hook = (route firing).warn notice stackLevel location

/-- One of the hooks fires while its emitter is enabled and over a registry that has not seen the
notice. -/
def Shown (registry : Address Registry) (notice : Notice) (route : Firing → Route) :
    List Firing → State → Prop
  | [], _ => False
  | firing :: rest, state =>
      (route firing).Shows registry notice state ∨
        Shown registry notice route rest (firing.fire state)

theorem Warn.hooks_eq {route : Firing → Route} {firings : List Firing}
    (h : Warn notice route firings) :
    ∀ firing ∈ firings, ∀ moment,
      (firing.hook moment).journal.hooks = moment.journal.hooks := by
  intro firing hfiring moment
  obtain ⟨stackLevel, location, hhook⟩ := h firing hfiring
  rw [hhook, Route.hooks_warn]

theorem exists_actions {route : Firing → Route} {firings : List Firing}
    (h : Warn notice route firings) (registry : Address Registry) (state : State) :
    ∃ actions, fireAll firings state = Action.performAll actions state ∧
      (Action.ShownFirst registry notice actions state ↔
        Shown registry notice route firings state) := by
  induction firings generalizing state with
  | nil => exact ⟨[], rfl, iff_of_false Action.not_shownFirst_nil not_false⟩
  | cons firing rest ih =>
      rw [Warn, List.forall_mem_cons] at h
      obtain ⟨⟨stackLevel, location, hhook⟩, hrest⟩ := h
      obtain ⟨later, hlater, hshown⟩ := ih hrest (firing.fire state)
      have hfire := fire_eq hhook state
      refine ⟨firing.actions (route firing) notice stackLevel location state ++ later, ?_, ?_⟩
      · rw [fireAll_cons, hlater, Action.performAll_append, ← hfire]
      · rw [Action.shownFirst_append_iff, shownFirst_actions_iff, ← hfire, hshown, Shown]

/-- Over a sequence of hooks that show one notice, the notice is delivered once on behalf of a
registry if some hook finds it new there and its emitter enabled, and not at all otherwise. -/
theorem noticeCount_fireAll {route : Firing → Route} {firings : List Firing}
    (h : Warn notice route firings) (registry : Address Registry) (state : State) :
    let before := state.journal.noticeCount registry notice
    let after := (fireAll firings state).journal.noticeCount registry notice
    (Shown registry notice route firings state → after = before + 1) ∧
      (¬ Shown registry notice route firings state → after = before) := by
  intro before after
  obtain ⟨actions, hactions, hshown⟩ := exists_actions h registry state
  have hafter : after = (Action.performAll actions state).journal.noticeCount registry notice := by
    rw [← hactions]
  rw [← hshown, hafter]
  exact ⟨Action.noticeCount_performAll_of_shownFirst,
    Action.noticeCount_performAll_of_not_shownFirst⟩

theorem resolve_fire_snd {firing : Firing} {route : Route} {stackLevel : UInt64}
    {location : Location} (h : firing.hook = route.warn notice stackLevel location)
    (state : State) : ((firing.fire state).resolve route).2 = (state.resolve route).2 := by
  rw [fire, h, Route.resolve_warn_snd, resolve_enter_snd]

theorem shows_of_shows_fire {firing : Firing} {route : Route} {stackLevel : UInt64}
    {location : Location} (h : firing.hook = route.warn notice stackLevel location)
    {state : State} (hshows : route.Shows registry notice (firing.fire state)) :
    route.Shows registry notice state := by
  obtain ⟨hregistry, henabled, hnew⟩ := hshows
  -- the route leads to the same emitter before and after, and its registry has only gained
  rw [resolve_fire_snd h] at hregistry henabled
  refine ⟨hregistry, henabled, fun hheld => hnew ?_⟩
  rw [fire_eq h]
  exact Action.mem_registry_performAll_of_mem _ hheld

theorem shown_iff_of_route {route : Route} {firings : List Firing}
    (h : Warn notice (fun _ => route) firings) (state : State) :
    Shown registry notice (fun _ => route) firings state ↔
      firings ≠ [] ∧ route.Shows registry notice state := by
  induction firings generalizing state with
  | nil => exact iff_of_false not_false fun hfirings => hfirings.1 rfl
  | cons firing rest ih =>
      rw [Warn, List.forall_mem_cons] at h
      obtain ⟨⟨stackLevel, location, hhook⟩, hrest⟩ := h
      rw [Shown, ih hrest]
      constructor
      · rintro (hshows | ⟨-, hshows⟩)
        · exact ⟨List.cons_ne_nil _ _, hshows⟩
        · exact ⟨List.cons_ne_nil _ _, shows_of_shows_fire hhook hshows⟩
      · rintro ⟨-, hshows⟩
        exact Or.inl hshows

end Firing

/-- Every access through an enumeration fires the hooks of the members that it hands out: a look-up
that succeeds the hook of the member that it returns, listing the members all their hooks in the
order of declaration, and everything else none; a declared member is always found.  A sequence of
accesses fires these hooks one after the other, also where one has fired before.  If the hooks show
one notice, then it is delivered on behalf of a registry at most once over the sequence: once if
some hook finds it new there and its emitter enabled, and not at all otherwise.  If they do so
through one route, what counts is whether any hook fires, and the registry before the first one. -/
theorem hooks_fire_per_access (visits : List Visit) (state : State) :
    let firings := visits.flatMap Visit.firings
    let final := Visit.performAll visits state
    (∀ visit ∈ visits, ∀ moment,
        visit.fired = visit.enumeration.handedOut visit.access (visit.perform moment).2 ∧
          (∀ member ∈ visit.fired, member ∈ visit.enumeration.members) ∧
          (∀ member ∈ visit.enumeration.members, visit.access = .attr member →
            visit.fired = [member] ∧ (visit.perform moment).2 = .member member) ∧
          (visit.access = .list → visit.fired = visit.enumeration.members ∧
            (visit.perform moment).2 = .members visit.enumeration.members)) ∧
      final = Firing.fireAll firings state ∧
      ((∀ firing ∈ firings, ∀ moment,
          (firing.hook moment).journal.hooks = moment.journal.hooks) →
        final.journal.hooks = state.journal.hooks ++
          firings.map fun firing => (firing.enumeration, firing.member)) ∧
      (∀ notice route, Firing.Warn notice route firings →
        final.journal.hooks = state.journal.hooks ++
            firings.map (fun firing => (firing.enumeration, firing.member)) ∧
          ∀ registry,
            let before := state.journal.noticeCount registry notice
            let after := final.journal.noticeCount registry notice
            after ≤ before + 1 ∧
              (Firing.Shown registry notice route firings state → after = before + 1) ∧
              (¬ Firing.Shown registry notice route firings state → after = before)) ∧
      ∀ notice route, Firing.Warn notice (fun _ => route) firings → ∀ registry,
        Firing.Shown registry notice (fun _ => route) firings state ↔
          firings ≠ [] ∧ route.Shows registry notice state := by
  intro firings final
  have hfinal : final = Firing.fireAll firings state := Visit.performAll_eq visits state
  refine ⟨?_, hfinal, ?_, ?_, ?_⟩
  · intro visit _ moment
    exact ⟨Enumeration.fired_eq_handedOut visit.access moment,
      fun member => Enumeration.mem_members_of_mem_fired,
      fun member hmember haccess => Visit.fired_of_attr hmember haccess moment,
      fun haccess => Visit.fired_of_list haccess moment⟩
  · rw [hfinal]
    exact fun h => Firing.hooks_fireAll h state
  · intro notice route h
    rw [hfinal]
    refine ⟨Firing.hooks_fireAll h.hooks_eq state, ?_⟩
    intro registry before after
    obtain ⟨hshown, hnot⟩ := Firing.noticeCount_fireAll h registry state
    refine ⟨?_, hshown, hnot⟩
    by_cases hsome : Firing.Shown registry notice route firings state
    · exact Nat.le_of_eq (hshown hsome)
    · exact Nat.le_succ_of_le (Nat.le_of_eq (hnot hsome))
  · exact fun notice route h registry => Firing.shown_iff_of_route h state

/-- Every access fires its hook, the failed look-up none, and the notice is delivered once. -/
theorem repeated_accesses_show_once :
    let notice : Notice := ⟨"0.2.0", .enumeration, "Basis", none, none, none⟩
    let route : Route := .own ⟨Registry.shared, .capture ⟨0⟩, true⟩
    let member (name value : String) : Member String :=
      ⟨name, value, route.warn notice 3 ⟨"main.rs", 1⟩⟩
    let basis : Enumeration String :=
      ⟨"Basis", [member "Sto3g" "sto3g", member "Minao" "minao"], id, by decide⟩
    let visits : List Visit :=
      [⟨basis, .attr (member "Minao" "minao")⟩, ⟨basis, .byName "Cisd"⟩, ⟨basis, .byName "Sto3g"⟩,
        ⟨basis, .size⟩, ⟨basis, .byValue "minao"⟩, ⟨basis, .list⟩]
    let names := ["Minao", "Sto3g", "Minao", "Sto3g", "Minao"]
    let final := Visit.performAll visits {}
    final.journal.hooks = names.map (fun name => ("Basis", name)) ∧
      final.journal.noticeCount Registry.shared notice = 1 := by
  intro notice route member basis visits names final
  obtain ⟨-, -, -, hshow, honce⟩ := hooks_fire_per_access visits {}
  have hfirings : visits.flatMap Visit.firings = names.map fun name =>
      ⟨"Basis", name, route.warn notice 3 ⟨"main.rs", 1⟩⟩ := rfl
  have hwarn : Firing.Warn notice (fun _ => route) (visits.flatMap Visit.firings) := by
    rw [hfirings]
    exact List.forall_mem_map.mpr fun name _ => ⟨3, ⟨"main.rs", 1⟩, rfl⟩
  have hshown : Firing.Shown Registry.shared notice (fun _ => route)
      (visits.flatMap Visit.firings) {} :=
    (honce notice route hwarn Registry.shared).mpr
      ⟨by rw [hfirings]; exact List.cons_ne_nil _ _, rfl, rfl, Registry.not_mem_empty notice⟩
  obtain ⟨hhooks, hcount⟩ := hshow notice _ hwarn
  rw [hfirings] at hhooks
  exact ⟨hhooks, (hcount Registry.shared).2.1 hshown⟩

end Deprecation
