import Deprecation.Proofs.Renaming.Trajectory
import Deprecation.Proofs.Renaming.Warnings

/-!
Renaming with the arguments or the pairs in another order.  The order of the arguments decides only
the order of the renamed ones.  The order of the pairs decides which of them hand values on; where no
name is the old name of one pair and the new name of another, none do.  Then a call is refused
because of the names alone, whatever the order, and every order warns about the same pairs.
-/

namespace Deprecation

namespace Dict

variable {α : Type}

theorem mem_congr {first second : Dict α} (h : first.entries.Perm second.entries)
    (key : String) : key ∈ first ↔ key ∈ second :=
  (h.map Prod.fst).mem_iff

theorem fired_congr {first second : Dict α} (h : ∀ key, key ∈ first ↔ key ∈ second)
    (pairs : List (String × String)) : first.fired pairs = second.fired pairs := by
  induction pairs generalizing first second with
  | nil => rfl
  | cons pair rest ih =>
      have hmoved : ∀ key, key ∈ first.movePair pair ↔ key ∈ second.movePair pair := by
        intro key
        simp only [Renamer.mem_movePair, h]
      rw [fired, fired, ih hmoved]
      simp only [h]

end Dict

namespace Renamer

variable {α : Type}

theorem perm_of_accepted {renamer : Renamer} {kwargs : KwArgs α}
    (h : conflict? renamer.pairs.entries kwargs.keys = none) (function : String)
    (location : Location) (state : State) :
    (renamer.renameInPlace function location kwargs state).kwargs.entries.Perm
      (kwargs.entries.map (carry renamer.pairs.entries)) := by
  rw [renameInPlace_eq_of_accepted h]
  exact perm_moveAll h

theorem conflict?_congr_perm {kwargs reordered : KwArgs α}
    (h : kwargs.entries.Perm reordered.entries) (pairs : List (String × String)) :
    conflict? pairs reordered.keys = conflict? pairs kwargs.keys :=
  conflict?_congr pairs fun name => (Dict.mem_congr h name).symm

theorem actions_congr (renamer : Renamer) (function : String) (location : Location)
    {kwargs reordered : KwArgs α} (h : kwargs.entries.Perm reordered.entries) (state : State) :
    renamer.actions function location reordered state =
      renamer.actions function location kwargs state := by
  have hempty : reordered.isEmpty = kwargs.isEmpty := h.isEmpty_eq.symm
  rw [actions, actions, hempty, conflict?_congr_perm h, Dict.fired_congr (Dict.mem_congr h)]

theorem renameInPlace_congr (renamer : Renamer) (function : String) (location : Location)
    {kwargs reordered : KwArgs α} (h : kwargs.entries.Perm reordered.entries) (state : State) :
    let done := renamer.renameInPlace function location kwargs state
    let again := renamer.renameInPlace function location reordered state
    again.error = done.error ∧ again.state = done.state ∧
      again.kwargs.entries.Perm done.kwargs.entries := by
  intro done again
  have herror : again.error = done.error := by
    change (renamer.renameInPlace function location reordered state).error =
      (renamer.renameInPlace function location kwargs state).error
    rw [error_renameInPlace, error_renameInPlace, conflict?_congr_perm h]
  have hstate : again.state = done.state := by
    change (renamer.renameInPlace function location reordered state).state =
      (renamer.renameInPlace function location kwargs state).state
    rw [state_renameInPlace, state_renameInPlace, actions_congr renamer function location h]
  refine ⟨herror, hstate, ?_⟩
  rcases hdone : done.error with _ | error
  · exact (perm_of_accepted (conflict?_of_accepted (herror.trans hdone)) _ _ _).trans
      ((h.symm.map _).trans (perm_of_accepted (conflict?_of_accepted hdone) _ _ _).symm)
  · rw [show done = _ from renameInPlace_of_error hdone,
      show again = _ from renameInPlace_of_error (herror.trans hdone)]
    exact h.symm

/-- No name is the old name of one pair and the new name of another.  Pairs may share a new name, and
a pair may lead from a name to itself. -/
def IsIndependent (pairs : List (String × String)) : Prop :=
  pairs.Pairwise fun first second => first.1 ≠ second.2 ∧ second.1 ≠ first.2

instance (pairs : List (String × String)) : Decidable (IsIndependent pairs) :=
  inferInstanceAs (Decidable (pairs.Pairwise _))

theorem isIndependent_cons_iff {pair : String × String} {rest : List (String × String)} :
    IsIndependent (pair :: rest) ↔
      (∀ other ∈ rest, pair.1 ≠ other.2 ∧ other.1 ≠ pair.2) ∧ IsIndependent rest :=
  List.pairwise_cons

theorem IsIndependent.perm {pairs others : List (String × String)} (h : IsIndependent pairs)
    (hperm : pairs.Perm others) : IsIndependent others :=
  (hperm.pairwise_iff fun hsymm => ⟨hsymm.2, hsymm.1⟩).mp h

theorem old_ne_of_nodup {pair : String × String} {rest : List (String × String)}
    (h : ((pair :: rest).map Prod.fst).Nodup) : ∀ other ∈ rest, other.1 ≠ pair.1 := by
  rw [List.map_cons, List.nodup_cons] at h
  intro other hother heq
  exact h.1 (heq ▸ List.mem_map_of_mem hother)

theorem mem_movePair_iff_of_ne {kwargs : KwArgs α} {pair : String × String} {name : String}
    (h : name ≠ pair.1) :
    name ∈ kwargs.movePair pair ↔ name ∈ kwargs ∨ (pair.1 ∈ kwargs ∧ pair.2 = name) := by
  rw [mem_movePair]
  constructor
  · rintro ⟨key, hkey, rfl⟩
    rcases eq_or_ne key pair.1 with rfl | hne
    · exact Or.inr ⟨hkey, (follow_old pair).symm⟩
    · rw [follow_of_ne hne]
      exact Or.inl hkey
  · rintro (hname | ⟨hold, rfl⟩)
    · exact ⟨name, hname, follow_of_ne h⟩
    · exact ⟨pair.1, hold, follow_old pair⟩

theorem old_mem_movePair_iff {kwargs : KwArgs α} {pair other : String × String}
    (hold : other.1 ≠ pair.1) (hnew : other.1 ≠ pair.2) :
    other.1 ∈ kwargs.movePair pair ↔ other.1 ∈ kwargs := by
  rw [mem_movePair_iff_of_ne hold]
  exact or_iff_left fun hmoved => hnew hmoved.2.symm

theorem fired_of_isIndependent {pairs : List (String × String)} (h : IsIndependent pairs)
    (hnodup : (pairs.map Prod.fst).Nodup) (kwargs : KwArgs α) :
    kwargs.fired pairs = pairs.filter fun pair => pair.1 ∈ kwargs := by
  induction pairs generalizing kwargs with
  | nil => rfl
  | cons pair rest ih =>
      rw [isIndependent_cons_iff] at h
      have hrest : (rest.filter fun other => other.1 ∈ kwargs.movePair pair) =
          rest.filter fun other => other.1 ∈ kwargs := by
        apply List.filter_congr
        intro other hother
        rw [decide_eq_decide]
        exact old_mem_movePair_iff (old_ne_of_nodup hnodup other hother) (h.1 other hother).2
      rw [Dict.fired, ih h.2 (List.nodup_cons.mp hnodup).2, hrest, List.filter_cons]
      simp only [decide_eq_true_eq]
      split <;> rfl

theorem position_of_absent {pairs : List (String × String)} {key : String}
    (h : ∀ pair ∈ pairs, pair.1 ≠ key) : position pairs key = key := by
  induction pairs with
  | nil => rfl
  | cons pair rest ih =>
      rw [List.forall_mem_cons] at h
      rw [position_cons, follow_of_ne h.1.symm, ih h.2]

theorem position_of_mem {pairs : List (String × String)} (h : IsIndependent pairs)
    (hnodup : (pairs.map Prod.fst).Nodup) {pair : String × String} (hpair : pair ∈ pairs) :
    position pairs pair.1 = pair.2 := by
  induction pairs with
  | nil => cases hpair
  | cons first rest ih =>
      rw [isIndependent_cons_iff] at h
      rw [position_cons]
      rcases List.mem_cons.mp hpair with rfl | hrest
      · rw [follow_old]
        exact position_of_absent fun other hother => (h.1 other hother).2
      · rw [follow_of_ne (old_ne_of_nodup hnodup pair hrest)]
        exact ih h.2 (List.nodup_cons.mp hnodup).2 hrest

theorem position_congr {pairs others : List (String × String)} (h : IsIndependent pairs)
    (hnodup : (pairs.map Prod.fst).Nodup) (hperm : pairs.Perm others) (key : String) :
    position pairs key = position others key := by
  have hothers : (others.map Prod.fst).Nodup := (hperm.map Prod.fst).nodup_iff.mp hnodup
  -- a key is led away by the one pair that has it as its old name, or by none
  rcases Classical.em (∃ pair ∈ pairs, pair.1 = key) with ⟨pair, hpair, rfl⟩ | habsent
  · rw [position_of_mem h hnodup hpair,
      position_of_mem (h.perm hperm) hothers (hperm.mem_iff.mp hpair)]
  · have hkept : ∀ pair ∈ pairs, pair.1 ≠ key := fun pair hpair heq => habsent ⟨pair, hpair, heq⟩
    rw [position_of_absent hkept, position_of_absent fun pair hpair =>
      hkept pair (hperm.mem_iff.mpr hpair)]

theorem perm_map_carry {pairs others : List (String × String)} (h : IsIndependent pairs)
    (hnodup : (pairs.map Prod.fst).Nodup) (hperm : pairs.Perm others)
    {entries reordered : List (String × α)} (hentries : entries.Perm reordered) :
    (entries.map (carry pairs)).Perm (reordered.map (carry others)) := by
  have hcarry : (carry pairs : String × α → String × α) = carry others := by
    funext entry
    rw [carry, carry, position_congr h hnodup hperm]
  rw [hcarry]
  exact hentries.map _

/-- Some pair with a name of the caller finds its new name among the arguments, or another pair with
a name of the caller that leads there as well. -/
def Clashes (pairs : List (String × String)) (kwargs : KwArgs α) : Prop :=
  ∃ pair ∈ pairs, pair.1 ∈ kwargs ∧
    (pair.2 ∈ kwargs ∨ ∃ other ∈ pairs, other ≠ pair ∧ other.1 ∈ kwargs ∧ other.2 = pair.2)

theorem Clashes.congr {pairs others : List (String × String)} {kwargs reordered : KwArgs α}
    (hpairs : ∀ pair, pair ∈ pairs ↔ pair ∈ others)
    (hkwargs : ∀ key, key ∈ kwargs ↔ key ∈ reordered) :
    Clashes pairs kwargs ↔ Clashes others reordered := by
  simp only [Clashes, hpairs, hkwargs]

theorem clashes_cons_iff {pair : String × String} {rest : List (String × String)}
    (h : IsIndependent (pair :: rest)) (hnodup : ((pair :: rest).map Prod.fst).Nodup)
    {kwargs : KwArgs α} :
    Clashes (pair :: rest) kwargs ↔
      (pair.1 ∈ kwargs ∧ pair.2 ∈ kwargs) ∨ Clashes rest (kwargs.movePair pair) := by
  rw [isIndependent_cons_iff] at h
  have hne := old_ne_of_nodup hnodup
  have hold : ∀ other ∈ rest, (other.1 ∈ kwargs.movePair pair ↔ other.1 ∈ kwargs) :=
    fun other hother => old_mem_movePair_iff (hne other hother) (h.1 other hother).2
  have hnew : ∀ other ∈ rest, (other.2 ∈ kwargs.movePair pair ↔
      other.2 ∈ kwargs ∨ (pair.1 ∈ kwargs ∧ pair.2 = other.2)) :=
    fun other hother => mem_movePair_iff_of_ne (h.1 other hother).1.symm
  constructor
  · rintro ⟨first, hfirst, hpresent, htaken⟩
    rcases List.mem_cons.mp hfirst with rfl | hlater
    · rcases htaken with hnewName | ⟨second, hsecond, hdiffers, hgiven, hsame⟩
      · exact Or.inl ⟨hpresent, hnewName⟩
      · -- the first pair moves its value, and the second one meets it
        have hrest := (List.mem_cons.mp hsecond).resolve_left hdiffers
        exact Or.inr ⟨second, hrest, (hold second hrest).mpr hgiven,
          Or.inl ((hnew second hrest).mpr (Or.inr ⟨hpresent, hsame.symm⟩))⟩
    · refine Or.inr ⟨first, hlater, (hold first hlater).mpr hpresent, ?_⟩
      rcases htaken with hnewName | ⟨second, hsecond, hdiffers, hgiven, hsame⟩
      · exact Or.inl ((hnew first hlater).mpr (Or.inl hnewName))
      · rcases List.mem_cons.mp hsecond with rfl | hrest
        · exact Or.inl ((hnew first hlater).mpr (Or.inr ⟨hgiven, hsame⟩))
        · exact Or.inr ⟨second, hrest, hdiffers, (hold second hrest).mpr hgiven, hsame⟩
  · rintro (⟨hpresent, hnewName⟩ | ⟨first, hfirst, hpresent, htaken⟩)
    · exact ⟨pair, List.mem_cons_self, hpresent, Or.inl hnewName⟩
    · refine ⟨first, List.mem_cons_of_mem pair hfirst, (hold first hfirst).mp hpresent, ?_⟩
      rcases htaken with hnewName | ⟨second, hsecond, hdiffers, hgiven, hsame⟩
      · -- the name is taken by the caller, or by the value that the first pair has moved
        rcases (hnew first hfirst).mp hnewName with hkept | ⟨hgiven, hsame⟩
        · exact Or.inl hkept
        · refine Or.inr ⟨pair, List.mem_cons_self, ?_, hgiven, hsame⟩
          rintro rfl
          exact hne pair hfirst rfl
      · exact Or.inr ⟨second, List.mem_cons_of_mem pair hsecond, hdiffers,
          (hold second hsecond).mp hgiven, hsame⟩

/-- Where pairs hand nothing on, whether a call is refused can be told from the names and the pairs
in any order; at which pair it is refused cannot. -/
theorem conflict?_eq_none_iff_not_clashes {pairs : List (String × String)}
    (h : IsIndependent pairs) (hnodup : (pairs.map Prod.fst).Nodup) {kwargs : KwArgs α} :
    conflict? pairs kwargs.keys = none ↔ ¬ Clashes pairs kwargs := by
  induction pairs generalizing kwargs with
  | nil => simp [conflict?, Clashes]
  | cons pair rest ih =>
      rw [conflict?_cons_keys, clashes_cons_iff h hnodup, not_or,
        ← ih (isIndependent_cons_iff.mp h).2 (List.nodup_cons.mp hnodup).2]
      split
      · next hboth => simp [hboth]
      · next hboth => exact (and_iff_right hboth).symm

/-- What is delivered for some pairs that fire, given what the registry had seen before. -/
def shown (renamer : Renamer) (emitter : Emitter) (location : Location) (seen : Registry)
    (pairs : List (String × String)) : List Delivery :=
  if emitter.enabled then (renamer.unseen seen pairs).map (renamer.pairDelivery emitter location)
  else []

theorem shown_perm (renamer : Renamer) (emitter : Emitter) (location : Location)
    (seen : Registry) {pairs others : List (String × String)} (h : pairs.Perm others) :
    (renamer.shown emitter location seen pairs).Perm
      (renamer.shown emitter location seen others) := by
  rw [shown, shown]
  split
  · exact (h.filter _).map _
  · exact List.Perm.refl _

theorem perm_fired {pairs others : List (String × String)} (h : IsIndependent pairs)
    (hnodup : (pairs.map Prod.fst).Nodup) (hperm : pairs.Perm others)
    {kwargs reordered : KwArgs α} (hkwargs : ∀ key, key ∈ kwargs ↔ key ∈ reordered) :
    (kwargs.fired pairs).Perm (reordered.fired others) := by
  rw [fired_of_isIndependent h hnodup, fired_of_isIndependent (h.perm hperm)
    ((hperm.map Prod.fst).nodup_iff.mp hnodup)]
  simp only [hkwargs]
  exact hperm.filter _

theorem observed_of_accepted {renamer : Renamer} {kwargs : KwArgs α}
    (h : conflict? renamer.pairs.entries kwargs.keys = none) (function : String)
    (location : Location) (state : State) :
    let done := renamer.renameInPlace function location kwargs state
    let emitter := (state.resolve renamer.route).2
    let fired := kwargs.fired renamer.pairs.entries
    let shown := renamer.shown emitter location (state.registry emitter.registry) fired
    (∀ registry notice, notice ∈ done.state.registry registry ↔
        notice ∈ state.registry registry ∨
          (registry = emitter.registry ∧
            ∃ pair ∈ fired, notice = renamer.notice pair.1 pair.2)) ∧
      done.state.journal.deliveries = state.journal.deliveries ++ shown ∧
      ∀ buffer, (done.state.buffer buffer).warnings =
        (state.buffer buffer).warnings ++ Delivery.warningsTo buffer shown := by
  intro done emitter fired shown
  obtain ⟨start, hagree, hjournal, hstate⟩ := exists_start_of_accepted h location state
  have hseen : start.registry emitter.registry = state.registry emitter.registry :=
    hagree.registry emitter.registry
  have hnodup : fired.Nodup :=
    (List.Nodup.of_map Prod.fst renamer.pairs.nodup).sublist (Dict.fired_sublist kwargs _)
  have hentries := journal_pairActions renamer emitter function location hnodup start
  have hshown : Action.gather Action.deliveries
      (renamer.pairActions emitter function location fired) start = shown := by
    have hadded := Action.deliveries_performAll
      (renamer.pairActions emitter function location fired) start
    rwa [hentries, Journal.deliveries_append, deliveries_pairEntries, List.append_cancel_left_eq,
      hseen, eq_comm] at hadded
  have hkept : ∀ buffer, .take buffer ∉ renamer.pairActions emitter function location fired := by
    simp [pairActions]
  rw [show done.state = _ from hstate function]
  refine ⟨?_, ?_, ?_⟩
  · intro registry notice
    rw [mem_registry_pairActions_iff, hagree.registry]
  · rw [Action.deliveries_performAll, hshown, hjournal]
  · intro buffer
    rw [Action.warnings_performAll (hkept buffer), hshown, hagree.buffer]

/-- The same call with its arguments in another order, and with the pairs in another order as well.
The first answers the same error, leaves the same state, and gives the same value under each name.
The second, where no name is the old name of one pair and the new name of another, is accepted if
and only if the call is.  Then it gives the same value under each name, the registries hold the
same notices, and the same warnings are delivered, and retained, in some order.  Whichever of them
is refused has changed nothing. -/
theorem rename_reordered (renamer : Renamer) (function : String) (location : Location)
    {kwargs reordered : KwArgs α} (hkwargs : kwargs.entries.Perm reordered.entries)
    (state : State) :
    let done := renamer.renameInPlace function location kwargs state
    let again := renamer.renameInPlace function location reordered state
    (again.error = done.error ∧ again.state = done.state ∧
        ∀ key, again.kwargs.get? key = done.kwargs.get? key) ∧
      (IsIndependent renamer.pairs.entries →
        ∀ pairs : Dict String, renamer.pairs.entries.Perm pairs.entries →
          let other : Renamer := { renamer with pairs }
          let turned := other.renameInPlace function location reordered state
          (turned.error = none ↔ done.error = none) ∧
            (done.error = none →
              (∀ key, turned.kwargs.get? key = done.kwargs.get? key) ∧
                (∀ registry notice, notice ∈ turned.state.registry registry ↔
                  notice ∈ done.state.registry registry) ∧
                ∃ shown reshown : List Delivery, shown.Perm reshown ∧
                  done.state.journal.deliveries = state.journal.deliveries ++ shown ∧
                  turned.state.journal.deliveries = state.journal.deliveries ++ reshown ∧
                  ∀ buffer,
                    (done.state.buffer buffer).warnings =
                        (state.buffer buffer).warnings ++ Delivery.warningsTo buffer shown ∧
                      (turned.state.buffer buffer).warnings =
                        (state.buffer buffer).warnings ++ Delivery.warningsTo buffer reshown) ∧
            (done.error ≠ none →
              (done.kwargs = kwargs ∧ done.state = state) ∧
                turned.kwargs = reordered ∧ turned.state = state)) := by
  intro done again
  constructor
  · obtain ⟨herror, hstate, hperm⟩ :=
      renamer.renameInPlace_congr function location hkwargs state
    exact ⟨herror, hstate, Dict.get?_congr hperm⟩
  · intro hindependent pairs hpairs other turned
    have hnodup := renamer.pairs.nodup
    have hclashes : conflict? pairs.entries reordered.keys = none ↔
        conflict? renamer.pairs.entries kwargs.keys = none := by
      rw [conflict?_eq_none_iff_not_clashes hindependent hnodup,
        conflict?_eq_none_iff_not_clashes (hindependent.perm hpairs) pairs.nodup,
        Clashes.congr (fun pair => hpairs.mem_iff) (Dict.mem_congr hkwargs)]
    have haccepted : turned.error = none ↔ done.error = none := by
      rw [show turned.error = _ from error_renameInPlace other function location reordered state,
        show done.error = _ from error_renameInPlace renamer function location kwargs state,
        Option.map_eq_none_iff, Option.map_eq_none_iff]
      exact hclashes
    refine ⟨haccepted, ?_, ?_⟩
    · intro hdone
      have hnone := conflict?_of_accepted hdone
      have hturned : conflict? other.pairs.entries reordered.keys = none := hclashes.mpr hnone
      have hfired : (kwargs.fired renamer.pairs.entries).Perm
          (reordered.fired other.pairs.entries) :=
        perm_fired hindependent hnodup hpairs (Dict.mem_congr hkwargs)
      obtain ⟨hregistry, hdeliveries, hwarnings⟩ :=
        observed_of_accepted hnone function location state
      obtain ⟨hregistry', hdeliveries', hwarnings'⟩ :=
        observed_of_accepted hturned function location state
      refine ⟨?_, ?_, _, _, shown_perm renamer _ location _ hfired, hdeliveries, hdeliveries',
        fun buffer => ⟨hwarnings buffer, hwarnings' buffer⟩⟩
      · intro key
        apply Dict.get?_congr
        have hcarried := perm_map_carry hindependent hnodup hpairs hkwargs
        exact (perm_of_accepted hturned function location state).trans
          (hcarried.symm.trans (perm_of_accepted hnone function location state).symm)
      · intro registry notice
        rw [hregistry, hregistry']
        simp only [hfired.mem_iff]
        rfl
    · intro hdone
      obtain ⟨error, herror⟩ := Option.ne_none_iff_exists'.mp hdone
      obtain ⟨again, hagain⟩ := Option.ne_none_iff_exists'.mp (mt haccepted.mp hdone)
      have hdoneEq : done = _ := renameInPlace_of_error herror
      have hturnedEq : turned = _ := renameInPlace_of_error hagain
      rw [hdoneEq, hturnedEq]
      exact ⟨⟨rfl, rfl⟩, rfl, rfl⟩

/-- Two pairs lead to one name, of which the caller gives one old name only.  With the pairs turned
round the arguments stand in another order, under the same names, and the warnings come in another
order. -/
theorem turned_pairs_warn_alike :
    let pairs := [("a", "x"), ("b", "x"), ("c", "y")]
    let renamer : Renamer :=
      ⟨"2.0.0", Dict.ofList pairs, none, 3, .own ⟨Registry.shared, .capture ⟨0⟩, true⟩⟩
    let other : Renamer := { renamer with pairs := Dict.ofList pairs.reverse }
    let kwargs : KwArgs Nat := Dict.ofList [("c", 1), ("b", 2), ("d", 3)]
    let reordered : KwArgs Nat := Dict.ofList [("d", 3), ("b", 2), ("c", 1)]
    let done := renamer.renameInPlace "f" ⟨"main.rs", 1⟩ kwargs {}
    let turned := other.renameInPlace "f" ⟨"main.rs", 1⟩ reordered {}
    done.kwargs.entries = [("d", 3), ("x", 2), ("y", 1)] ∧
      turned.kwargs.entries = [("d", 3), ("y", 1), ("x", 2)] ∧
      turned.kwargs.get? "x" = done.kwargs.get? "x" ∧
      (done.state.buffer ⟨0⟩).warnings.Perm (turned.state.buffer ⟨0⟩).warnings := by
  intro pairs renamer other kwargs reordered done turned
  have hkwargs : kwargs.entries.Perm reordered.entries := by decide
  have hpairs : renamer.pairs.entries.Perm other.pairs.entries := by decide
  have hdone : done.error = none := by decide
  obtain ⟨-, hturned⟩ := rename_reordered renamer "f" ⟨"main.rs", 1⟩ hkwargs {}
  obtain ⟨-, hsame, -⟩ := hturned (by decide) other.pairs hpairs
  obtain ⟨hvalues, -, shown, reshown, hshown, -, -, hbuffer⟩ := hsame hdone
  refine ⟨by decide, by decide, hvalues "x", ?_⟩
  rw [(hbuffer ⟨0⟩).1, (hbuffer ⟨0⟩).2]
  exact (hshown.filterMap _).append_left _

end Renamer

end Deprecation
