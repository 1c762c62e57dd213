import Deprecation.Proofs.Renaming.Warnings
import Deprecation.Proofs.SharedEmitter

/-!
Renaming with one mapping after the other.  Two renamers that differ in their pairs, and share no
old name, do in sequence what one renamer does with the pairs of both, except that the one renamer
refuses a call before the pairs of the first have been applied.
-/

namespace Deprecation

namespace Dict

variable {α : Type}

theorem mem_ofList {entries : List (String × α)} {key : String} :
    key ∈ ofList entries ↔ key ∈ entries.map Prod.fst := by
  rw [mem_def, keys_ofList, List.mem_eraseDups]

theorem replaceIn_of_not_mem {entries : List (String × α)} {key : String}
    (h : key ∉ entries.map Prod.fst) (value : α) : replaceIn entries key value = entries := by
  have hstays : ∀ entry ∈ entries, (if entry.1 = key then (key, value) else entry) = entry := by
    intro entry hentry
    apply if_neg
    rintro rfl
    exact h (List.mem_map_of_mem hentry)
  exact (List.map_congr_left hstays).trans (List.map_id _)

theorem entries_ofList_append {first second : List (String × α)}
    (h : ∀ entry ∈ second, entry.1 ∉ first.map Prod.fst) :
    (ofList (first ++ second)).entries = (ofList first).entries ++ (ofList second).entries := by
  induction second using List.reverseRecOn with
  | nil => rw [List.append_nil]; exact (List.append_nil _).symm
  | append_singleton second entry ih =>
      rw [List.forall_mem_append] at h
      have hrest := ih h.1
      have hfirst : entry.1 ∉ (ofList first).entries.map Prod.fst := fun hmem =>
        h.2 entry List.mem_cons_self (mem_ofList.mp hmem)
      have hmem : entry.1 ∈ ofList (first ++ second) ↔ entry.1 ∈ ofList second := by
        rw [mem_def, keys, hrest, List.map_append, List.mem_append]
        exact or_iff_right hfirst
      rw [← List.append_assoc, ofList_concat, ofList_concat]
      by_cases hheld : entry.1 ∈ ofList second
      · rw [entries_insert_of_mem _ hheld, entries_insert_of_mem _ (hmem.mpr hheld), hrest,
          replaceIn, List.map_append]
        exact congrArg (· ++ _) (replaceIn_of_not_mem hfirst entry.2)
      · rw [entries_insert_of_not_mem _ hheld, entries_insert_of_not_mem _ (mt hmem.mp hheld),
          hrest, List.append_assoc]

end Dict

theorem State.resolve_again {state next : State} {route : Route}
    (h : next.shared = (state.resolve route).1.shared) :
    next.resolve route = (next, (state.resolve route).2) := by
  cases route with
  | own emitter => rfl
  | shared => exact sharedEmitter_of_some (h.trans (shared_sharedEmitter state))

namespace Renamer

variable {α : Type}

theorem conflict?_append (first second : List (String × String)) (kwargs : KwArgs α) :
    conflict? (first ++ second) kwargs.keys =
      (conflict? first kwargs.keys).or (conflict? second (kwargs.moveAll first).keys) := by
  induction first generalizing kwargs with
  | nil => rfl
  | cons pair rest ih =>
      rw [List.cons_append, conflict?_cons_keys, conflict?_cons_keys]
      split
      · rfl
      · exact ih (kwargs.movePair pair)

theorem applyPairs_append (renamer : Renamer) (emitter : Emitter) (function : String)
    (location : Location) (first second : List (String × String)) (kwargs : KwArgs α)
    (state : State) :
    renamer.applyPairs emitter function location (first ++ second) kwargs state =
      let applied := renamer.applyPairs emitter function location first kwargs state
      renamer.applyPairs emitter function location second applied.2 applied.1 := by
  induction first generalizing kwargs state with
  | nil => rfl
  | cons pair rest ih =>
      rw [List.cons_append, applyPairs, applyPairs]
      cases kwargs.get? pair.1 with
      | none => exact ih kwargs state
      | some value => exact ih _ _

theorem shared_applyPairs (renamer : Renamer) (emitter : Emitter) (function : String)
    (location : Location) (pairs : List (String × String)) (kwargs : KwArgs α) (state : State) :
    (renamer.applyPairs emitter function location pairs kwargs state).1.shared = state.shared := by
  rw [applyPairs_fst, shared_pairActions]

theorem isEmpty_moveAll {kwargs : KwArgs α} (h : kwargs.isEmpty = false)
    (pairs : List (String × String)) : (kwargs.moveAll pairs).isEmpty = false := by
  obtain ⟨entry, hentry⟩ := List.isEmpty_eq_false_iff_exists_mem.mp h
  have hmoved : position pairs entry.1 ∈ kwargs.moveAll pairs :=
    mem_moveAll.mpr ⟨entry.1, List.mem_map_of_mem hentry, rfl⟩
  obtain ⟨moved, hmem, -⟩ := List.mem_map.mp hmoved
  exact List.isEmpty_eq_false_iff_exists_mem.mpr ⟨moved, hmem⟩

/-- The same renamer with the pairs of a list. -/
def withPairs (renamer : Renamer) (pairs : List (String × String)) : Renamer :=
  { renamer with pairs := Dict.ofList pairs }

theorem applyPairs_withPairs (renamer : Renamer) (declared : List (String × String))
    (emitter : Emitter) (function : String) (location : Location)
    (pairs : List (String × String)) (kwargs : KwArgs α) (state : State) :
    (renamer.withPairs declared).applyPairs emitter function location pairs kwargs state =
      renamer.applyPairs emitter function location pairs kwargs state := by
  induction pairs generalizing kwargs state with
  | nil => rfl
  | cons pair rest ih =>
      rw [applyPairs, applyPairs]
      cases kwargs.get? pair.1 with
      | none => exact ih kwargs state
      | some value => exact ih _ _

theorem renameInPlace_withPairs (renamer : Renamer) {pairs : List (String × String)}
    (function : String) (location : Location) {kwargs : KwArgs α}
    (hkwargs : kwargs.isEmpty = false)
    (h : conflict? (Dict.ofList pairs).entries kwargs.keys = none) (state : State) :
    (renamer.withPairs pairs).renameInPlace function location kwargs state =
      let applied := renamer.applyPairs (state.resolve renamer.route).2 function location
        (Dict.ofList pairs).entries kwargs (state.resolve renamer.route).1
      ⟨applied.1, applied.2, none⟩ := by
  rw [renameInPlace_of_accepted (renamer.withPairs pairs) function location hkwargs h,
    applyPairs_withPairs]
  rfl

variable {renamer : Renamer} {first second : List (String × String)} {function : String}
  {location : Location} {kwargs : KwArgs α} {state : State}

/-- Where the pairs of both lists are accepted, the emitter that the first renamer asks for is the
one that the second finds, and applying both lists is applying one after the other. -/
theorem renameInPlace_append_of_accepted
    (hpairs : (Dict.ofList (first ++ second)).entries =
      (Dict.ofList first).entries ++ (Dict.ofList second).entries)
    (hfirst : conflict? (Dict.ofList first).entries kwargs.keys = none)
    (hsecond : conflict? (Dict.ofList second).entries
      (kwargs.moveAll (Dict.ofList first).entries).keys = none) :
    let one := (renamer.withPairs first).renameInPlace function location kwargs state
    (renamer.withPairs (first ++ second)).renameInPlace function location kwargs state =
      (renamer.withPairs second).renameInPlace function location one.kwargs one.state := by
  intro one
  cases hempty : kwargs.isEmpty with
  | true =>
      have hone : one = ⟨state, kwargs, none⟩ :=
        renameInPlace_of_isEmpty (renamer.withPairs first) function location hempty state
      rw [hone, renameInPlace_of_isEmpty _ function location hempty,
        renameInPlace_of_isEmpty _ function location hempty]
  | false =>
      let start := (state.resolve renamer.route).1
      let emitter := (state.resolve renamer.route).2
      let applied :=
        renamer.applyPairs emitter function location (Dict.ofList first).entries kwargs start
      have hone : one = ⟨applied.1, applied.2, none⟩ :=
        renamer.renameInPlace_withPairs function location hempty hfirst state
      have hmoved : applied.2 = kwargs.moveAll (Dict.ofList first).entries :=
        applyPairs_snd _ _ _ _ _ _ _
      have hagain : applied.1.resolve renamer.route = (applied.1, emitter) :=
        State.resolve_again (shared_applyPairs _ _ _ _ _ _ _)
      have hboth : conflict? (Dict.ofList (first ++ second)).entries kwargs.keys = none := by
        rw [hpairs, conflict?_append, hfirst, hsecond]
        rfl
      rw [hone, renamer.renameInPlace_withPairs function location hempty hboth,
        renamer.renameInPlace_withPairs function location
          (hmoved ▸ isEmpty_moveAll hempty (Dict.ofList first).entries) (hmoved ▸ hsecond),
        hpairs, applyPairs_append, hagain]

theorem error_append
    (hpairs : (Dict.ofList (first ++ second)).entries =
      (Dict.ofList first).entries ++ (Dict.ofList second).entries) :
    let one := (renamer.withPairs first).renameInPlace function location kwargs state
    ((renamer.withPairs (first ++ second)).renameInPlace function location kwargs state).error =
      one.error.or
        ((renamer.withPairs second).renameInPlace function location one.kwargs one.state).error := by
  intro one
  have hone : one.error = _ := error_renameInPlace _ function location kwargs state
  rw [hone, error_renameInPlace, error_renameInPlace,
    show (renamer.withPairs (first ++ second)).pairs.entries = _ from hpairs, conflict?_append]
  change _ = ((conflict? (Dict.ofList first).entries kwargs.keys).map _).or _
  cases hfirst : conflict? (Dict.ofList first).entries kwargs.keys with
  | some pair => rfl
  | none =>
      have hkwargs : one.kwargs = kwargs.moveAll (Dict.ofList first).entries :=
        congrArg Outcome.kwargs (renameInPlace_eq_of_accepted hfirst function location state)
      rw [hkwargs]
      rfl

/-- One renamer with the pairs of two lists that share no old name, against two renamers in
sequence.  The one accepts a call exactly if the first accepts it and the second accepts what the
first leaves, and then it leaves what they leave, the whole state of warnings included.  It refuses
a call with the error of the renamer in the sequence that does, and then it has done nothing, while
the sequence keeps what the first has done when only the second refuses. -/
theorem rename_append (renamer : Renamer) {first second : List (String × String)}
    (h : ∀ pair ∈ second, pair.1 ∉ first.map Prod.fst) (function : String) (location : Location)
    (kwargs : KwArgs α) (state : State) :
    let whole := (renamer.withPairs (first ++ second)).renameInPlace function location kwargs state
    let one := (renamer.withPairs first).renameInPlace function location kwargs state
    let two := (renamer.withPairs second).renameInPlace function location one.kwargs one.state
    (whole.error = none ↔ one.error = none ∧ two.error = none) ∧
      (whole.error = none → whole = two) ∧
      (∀ error, whole.error = some error ↔
        one.error = some error ∨ (one.error = none ∧ two.error = some error)) ∧
      (∀ error, whole.error = some error → whole = ⟨state, kwargs, some error⟩) ∧
      ∀ error, one.error = none → two.error = some error →
        whole = ⟨state, kwargs, some error⟩ ∧ two = ⟨one.state, one.kwargs, some error⟩ := by
  intro whole one two
  have hpairs := Dict.entries_ofList_append h
  have herror : whole.error = one.error.or two.error := error_append hpairs
  have haccepted : whole.error = none ↔ one.error = none ∧ two.error = none := by
    rw [herror, Option.or_eq_none_iff]
  have hrefused : ∀ error, whole.error = some error ↔
      one.error = some error ∨ (one.error = none ∧ two.error = some error) := by
    intro error
    rw [herror, Option.or_eq_some_iff]
  refine ⟨haccepted, ?_, hrefused, fun error => renameInPlace_of_error, ?_⟩
  · intro hnone
    obtain ⟨hone, htwo⟩ := haccepted.mp hnone
    have hkwargs := renameInPlace_eq_of_accepted (conflict?_of_accepted hone) function location state
    have hsecond := conflict?_of_accepted htwo
    rw [show one.kwargs = _ from congrArg Outcome.kwargs hkwargs] at hsecond
    exact renameInPlace_append_of_accepted hpairs (conflict?_of_accepted hone) hsecond
  · intro error hone htwo
    have hwhole : whole.error = some error := (hrefused error).mpr (Or.inr ⟨hone, htwo⟩)
    exact ⟨renameInPlace_of_error hwhole, renameInPlace_of_error htwo⟩

/-- A value is carried from one list of pairs to the next; and where the second list is refused, the
sequence has moved and warned already. -/
theorem renamed_across_lists :
    let renamer : Renamer :=
      { version := "2.0.0", pairs := Dict.empty, stackLevel := 3,
        route := .own ⟨Registry.shared, .capture ⟨0⟩, true⟩ }
    let rename (pairs : List (String × String)) (kwargs : KwArgs Nat) (state : State) :=
      (renamer.withPairs pairs).renameInPlace "f" ⟨"main", 1⟩ kwargs state
    let carried := rename [("a", "b")] (Dict.ofList [("a", 1), ("d", 2)]) {}
    let stopped := rename [("a", "b")] (Dict.ofList [("a", 1), ("c", 2)]) {}
    rename [("a", "b"), ("b", "c")] (Dict.ofList [("a", 1), ("d", 2)]) {} =
        rename [("b", "c")] carried.kwargs carried.state ∧
      rename [("a", "b"), ("b", "c")] (Dict.ofList [("a", 1), ("c", 2)]) {} =
        ⟨{}, Dict.ofList [("a", 1), ("c", 2)], some (.conflictingArguments "f" "c" "b")⟩ ∧
      (stopped.state.buffer ⟨0⟩).warnings.length = 1 := by
  intro renamer rename carried stopped
  have hdisjoint : ∀ pair ∈ [("b", "c")], pair.1 ∉ [("a", "b")].map Prod.fst := by decide
  have happend := rename_append (α := Nat) renamer hdisjoint "f" ⟨"main", 1⟩
  refine ⟨?_, ?_, by decide⟩
  · exact (happend (Dict.ofList [("a", 1), ("d", 2)]) {}).2.1 (by decide)
  · exact (happend (Dict.ofList [("a", 1), ("c", 2)]) {}).2.2.2.1 _ (by decide)

end Renamer

end Deprecation
