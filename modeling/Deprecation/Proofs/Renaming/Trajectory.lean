import Deprecation.Proofs.Renaming.Moves
import Mathlib.Data.List.Induction
import Mathlib.Data.List.Nodup

/-!
What a renaming means for the keys of the caller.  Every key travels along the pairs, a call is
refused where two names would meet, and otherwise the moved entries stand behind the others, in the
order of the pairs that moved them last.  No value is lost.
-/

namespace Deprecation

namespace Dict

variable {α : Type}

theorem filter_key (dict : Dict α) (key : String) :
    (dict.entries.filter fun entry => entry.1 = key) =
      ((dict.get? key).map fun value => (key, value)).toList := by
  cases h : dict.get? key with
  | none =>
      have habsent := get?_eq_none_iff.mp h
      apply List.filter_eq_nil_iff.mpr
      intro entry hentry hkey
      exact habsent (of_decide_eq_true hkey ▸ List.mem_map_of_mem hentry)
  | some value =>
      obtain ⟨before, after, hsplit⟩ := List.append_of_mem (get?_eq_some_iff.mp h)
      have hnodup := dict.nodup
      rw [hsplit, List.map_append, List.map_cons, List.nodup_middle, List.nodup_cons] at hnodup
      have hothers : ∀ entry ∈ before ++ after, ¬ decide (entry.1 = key) = true := by
        intro entry hentry hkey
        have hmem := List.mem_map_of_mem (f := Prod.fst) hentry
        rw [List.map_append, of_decide_eq_true hkey] at hmem
        exact hnodup.1 hmem
      rw [List.forall_mem_append] at hothers
      rw [hsplit, List.filter_append, List.filter_eq_nil_iff.mpr hothers.1,
        List.filter_cons, List.filter_eq_nil_iff.mpr hothers.2]
      simp

theorem entries_movePair_eq {dict : Dict α} {pair : String × String}
    (h : pair.1 ∈ dict → pair.2 ∉ dict) :
    (dict.movePair pair).entries =
      (dict.entries.filter fun entry => entry.1 ≠ pair.1) ++
        (dict.entries.filter fun entry => entry.1 = pair.1).map fun entry => (pair.2, entry.2) := by
  rw [filter_key]
  cases hold : dict.get? pair.1 with
  | none =>
      have habsent := get?_eq_none_iff.mp hold
      have hstays : (dict.entries.filter fun entry => entry.1 ≠ pair.1) = dict.entries := by
        rw [List.filter_eq_self]
        intro entry hentry
        rw [decide_eq_true_iff]
        rintro hkey
        exact habsent (hkey ▸ List.mem_map_of_mem hentry)
      rw [movePair_of_not_mem habsent, hstays]
      simp
  | some value =>
      rw [entries_movePair hold (h (mem_of_get? hold))]
      rfl

end Dict

namespace Renamer

variable {α : Type}

/-- An entry of the caller as it stands after some pairs. -/
def carry (pairs : List (String × String)) (entry : String × α) : String × α :=
  (position pairs entry.1, entry.2)

/-- Whether the pair at an index moves a key. -/
def movedAt (pairs : List (String × String)) (key : String) (index : Nat) : Bool :=
  pairs[index]?.any fun pair => position (pairs.take index) key = pair.1

/-- The index of the last pair that moves a key. -/
def lastMove (pairs : List (String × String)) (key : String) : Option Nat :=
  ((List.range pairs.length).filter (movedAt pairs key)).getLast?

/-- First the entries that no pair moves, in the order of the caller, then those that are moved, in
the order of the pairs that move them last. -/
def rearrange (pairs : List (String × String)) (entries : List (String × α)) :
    List (String × α) :=
  (entries.filter fun entry => lastMove pairs entry.1 = none) ++
    (List.range pairs.length).flatMap fun index =>
      (entries.filter fun entry => lastMove pairs entry.1 = some index).map (carry pairs)

theorem movedAt_concat_of_lt {pairs : List (String × String)} {index : Nat}
    (h : index < pairs.length) (pair : String × String) (key : String) :
    movedAt (pairs ++ [pair]) key index = movedAt pairs key index := by
  rw [movedAt, movedAt, List.getElem?_append_left h,
    List.take_append_of_le_length (Nat.le_of_lt h)]

theorem movedAt_concat_length (pairs : List (String × String)) (pair : String × String)
    (key : String) :
    movedAt (pairs ++ [pair]) key pairs.length = decide (position pairs key = pair.1) := by
  simp [movedAt]

theorem lastMove_concat (pairs : List (String × String)) (pair : String × String)
    (key : String) :
    lastMove (pairs ++ [pair]) key =
      if position pairs key = pair.1 then some pairs.length else lastMove pairs key := by
  have hearlier : (List.range pairs.length).filter (movedAt (pairs ++ [pair]) key) =
      (List.range pairs.length).filter (movedAt pairs key) := by
    apply List.filter_congr
    intro index hindex
    exact movedAt_concat_of_lt (List.mem_range.mp hindex) pair key
  rw [lastMove, List.length_append, List.length_singleton, List.range_succ, List.filter_append,
    hearlier, List.filter_singleton, movedAt_concat_length]
  split
  · next h => rw [decide_eq_true h]; simp
  · next h => rw [decide_eq_false h]; simp [lastMove]

theorem lt_of_lastMove {pairs : List (String × String)} {key : String} {index : Nat}
    (h : lastMove pairs key = some index) : index < pairs.length := by
  have hmem := List.mem_of_getLast? h
  exact List.mem_range.mp (List.mem_filter.mp hmem).1

theorem position_of_lastMove {pairs : List (String × String)} {key : String}
    (h : lastMove pairs key = none) : position pairs key = key := by
  induction pairs using List.reverseRecOn with
  | nil => rfl
  | append_singleton pairs pair ih =>
      rw [lastMove_concat] at h
      split at h
      · cases h
      · next hne =>
        rw [position_concat, follow_of_ne hne]
        exact ih h

theorem filter_stays_concat (pairs : List (String × String)) (pair : String × String)
    (entries : List (String × α)) :
    (entries.filter fun entry => lastMove (pairs ++ [pair]) entry.1 = none) =
      (entries.filter fun entry => lastMove pairs entry.1 = none).filter fun entry =>
        entry.1 ≠ pair.1 := by
  rw [List.filter_filter]
  apply List.filter_congr
  intro entry _
  rw [lastMove_concat, ← Bool.decide_and, decide_eq_decide]
  split
  · next hmoved =>
    constructor
    · intro h
      cases h
    · rintro ⟨hne, hstays⟩
      exact (hne (position_of_lastMove hstays ▸ hmoved)).elim
  · next hmoved =>
    constructor
    · intro hstays
      exact ⟨position_of_lastMove hstays ▸ hmoved, hstays⟩
    · exact And.right

theorem filter_moved_concat {pairs : List (String × String)} {index : Nat}
    (h : index < pairs.length) (pair : String × String) (entries : List (String × α)) :
    (entries.filter fun entry => lastMove (pairs ++ [pair]) entry.1 = some index).map
        (carry (pairs ++ [pair])) =
      ((entries.filter fun entry => lastMove pairs entry.1 = some index).map
        (carry pairs)).filter fun entry => entry.1 ≠ pair.1 := by
  have hiff : ∀ key, lastMove (pairs ++ [pair]) key = some index ↔
      position pairs key ≠ pair.1 ∧ lastMove pairs key = some index := by
    intro key
    rw [lastMove_concat]
    split
    · next hmoved => simp [hmoved, Nat.ne_of_gt h]
    · next hmoved => simp [hmoved]
  rw [List.filter_map, List.filter_filter]
  have hfilter : (entries.filter fun entry => lastMove (pairs ++ [pair]) entry.1 = some index) =
      entries.filter fun entry => ((fun moved => decide (moved.1 ≠ pair.1)) ∘ carry pairs) entry &&
        decide (lastMove pairs entry.1 = some index) := by
    apply List.filter_congr
    intro entry _
    change _ = (decide (position pairs entry.1 ≠ pair.1) && _)
    rw [← Bool.decide_and, decide_eq_decide, hiff]
  rw [hfilter]
  apply List.map_congr_left
  intro entry hentry
  have hmoved : position pairs entry.1 ≠ pair.1 := by
    simp only [List.mem_filter, Function.comp_apply, Bool.and_eq_true, decide_eq_true_iff]
      at hentry
    exact hentry.2.1
  rw [carry, position_concat, follow_of_ne hmoved, carry]

theorem filter_last_concat (pairs : List (String × String)) (pair : String × String)
    (entries : List (String × α)) :
    (entries.filter fun entry => lastMove (pairs ++ [pair]) entry.1 = some pairs.length).map
        (carry (pairs ++ [pair])) =
      (entries.filter fun entry => position pairs entry.1 = pair.1).map fun entry =>
        (pair.2, entry.2) := by
  have hfilter :
      (entries.filter fun entry => lastMove (pairs ++ [pair]) entry.1 = some pairs.length) =
        entries.filter fun entry => position pairs entry.1 = pair.1 := by
    apply List.filter_congr
    intro entry _
    rw [decide_eq_decide, lastMove_concat]
    split
    · next h => simp [h]
    · next h =>
      simp only [h, iff_false]
      intro hlast
      exact Nat.lt_irrefl _ (lt_of_lastMove hlast)
  rw [hfilter]
  apply List.map_congr_left
  intro entry hentry
  have hmoved := of_decide_eq_true (List.mem_filter.mp hentry).2
  rw [carry, position_concat, hmoved, follow_old]

theorem rearrange_concat (pairs : List (String × String)) (pair : String × String)
    (entries : List (String × α)) :
    rearrange (pairs ++ [pair]) entries =
      ((rearrange pairs entries).filter fun entry => entry.1 ≠ pair.1) ++
        (entries.filter fun entry => position pairs entry.1 = pair.1).map fun entry =>
          (pair.2, entry.2) := by
  rw [rearrange, List.length_append, List.length_singleton, List.range_succ, List.flatMap_append,
    List.flatMap_singleton, filter_last_concat, filter_stays_concat, rearrange,
    List.filter_append, List.filter_flatMap, List.append_assoc]
  congr 2
  apply List.flatMap_congr
  intro index hindex
  exact filter_moved_concat (List.mem_range.mp hindex) pair entries

theorem perm_movePair {kwargs : KwArgs α} {pair : String × String}
    (h : pair.1 ∈ kwargs → pair.2 ∉ kwargs) :
    (kwargs.movePair pair).entries.Perm (kwargs.entries.map (carry [pair])) := by
  have hothers : (kwargs.entries.filter fun entry => entry.1 ≠ pair.1).map (carry [pair]) =
      kwargs.entries.filter fun entry => entry.1 ≠ pair.1 := by
    refine (List.map_congr_left ?_).trans (List.map_id _)
    intro entry hentry
    have hne := of_decide_eq_true (List.mem_filter.mp hentry).2
    rw [carry, position_cons, follow_of_ne hne, position_nil, id]
  have hmoved : (kwargs.entries.filter fun entry => entry.1 = pair.1).map (carry [pair]) =
      (kwargs.entries.filter fun entry => entry.1 = pair.1).map fun entry =>
        (pair.2, entry.2) := by
    apply List.map_congr_left
    intro entry hentry
    have hkey := of_decide_eq_true (List.mem_filter.mp hentry).2
    rw [carry, hkey, position_cons, follow_old, position_nil]
  rw [Dict.entries_movePair_eq h, ← hothers, ← hmoved, ← List.map_append]
  apply List.Perm.map
  have hsplit := List.filter_append_perm (fun entry => decide (entry.1 = pair.1)) kwargs.entries
  simp only [← decide_not] at hsplit
  exact List.perm_append_comm.trans hsplit

theorem perm_moveAll {kwargs : KwArgs α} {pairs : List (String × String)}
    (h : conflict? pairs kwargs.keys = none) :
    (kwargs.moveAll pairs).entries.Perm (kwargs.entries.map (carry pairs)) := by
  induction pairs generalizing kwargs with
  | nil =>
      rw [show (carry [] : String × α → String × α) = id from rfl, List.map_id]
      exact List.Perm.refl _
  | cons pair rest ih =>
      rw [conflict?_cons_keys] at h
      have hmeets : ¬ (pair.1 ∈ kwargs ∧ pair.2 ∈ kwargs) := by
        intro hboth
        rw [if_pos hboth] at h
        cases h
      rw [if_neg hmeets] at h
      have hstep := perm_movePair (not_and.mp hmeets)
      have hrest := (ih h).trans (hstep.map (carry rest))
      rw [List.map_map] at hrest
      exact hrest

theorem position_injOn {kwargs : KwArgs α} {pairs : List (String × String)}
    (h : conflict? pairs kwargs.keys = none) {first second : String}
    (hfirst : first ∈ kwargs.keys) (hsecond : second ∈ kwargs.keys)
    (heq : position pairs first = position pairs second) : first = second := by
  have hkeys := (perm_moveAll h).map Prod.fst
  have hnames : (kwargs.entries.map (carry pairs)).map Prod.fst =
      kwargs.keys.map (position pairs) := by
    rw [Dict.keys, List.map_map, List.map_map]
    rfl
  rw [hnames] at hkeys
  have hnodup := hkeys.nodup_iff.mp (kwargs.moveAll pairs).nodup
  exact List.inj_on_of_nodup_map hnodup hfirst hsecond heq

theorem filter_key_moveAll {kwargs : KwArgs α} {pairs : List (String × String)}
    (h : conflict? pairs kwargs.keys = none) (name : String) :
    ((kwargs.moveAll pairs).entries.filter fun entry => entry.1 = name) =
      (kwargs.entries.filter fun entry => position pairs entry.1 = name).map (carry pairs) := by
  have hperm := (perm_moveAll h).filter fun entry => entry.1 = name
  rw [List.filter_map, Dict.filter_key] at hperm
  rw [Dict.filter_key]
  cases hname : (kwargs.moveAll pairs).get? name with
  | none =>
      rw [hname] at hperm
      exact hperm.nil_eq
  | some value =>
      rw [hname] at hperm
      exact (List.singleton_perm.mp hperm)

theorem conflict?_of_concat {pairs : List (String × String)} {pair : String × String}
    {keys : List String} (h : conflict? (pairs ++ [pair]) keys = none) :
    conflict? pairs keys = none := by
  rw [conflict?_eq_none_iff] at h ⊢
  rintro index other ⟨hother, hmeets⟩
  have hlt := (List.getElem?_eq_some_iff.mp hother).1
  apply h index other
  refine ⟨?_, ?_⟩
  · rw [List.getElem?_append_left hlt]
    exact hother
  · rw [List.take_append_of_le_length (Nat.le_of_lt hlt)]
    exact hmeets

theorem entries_moveAll {kwargs : KwArgs α} {pairs : List (String × String)}
    (h : conflict? pairs kwargs.keys = none) :
    (kwargs.moveAll pairs).entries = rearrange pairs kwargs.entries := by
  induction pairs using List.reverseRecOn with
  | nil => simp [rearrange, lastMove, Dict.moveAll]
  | append_singleton pairs pair ih =>
      have hbefore := conflict?_of_concat h
      have hnew : pair.1 ∈ kwargs.moveAll pairs → pair.2 ∉ kwargs.moveAll pairs :=
        not_mem_moveAll_of_accepted h
      have hstep : kwargs.moveAll (pairs ++ [pair]) = (kwargs.moveAll pairs).movePair pair :=
        List.foldl_concat ..
      rw [hstep, Dict.entries_movePair_eq hnew, filter_key_moveAll hbefore, List.map_map,
        ih hbefore, rearrange_concat]
      rfl

/-- A call is refused exactly if two of its names meet at some pair, and the error names the first
pair where they do.  Otherwise every key arrives at a name of its own, and the arguments are those
of the caller, rearranged; none is lost, and none is there twice. -/
theorem rename_trajectories (renamer : Renamer) (function : String) (location : Location)
    (kwargs : KwArgs α) (state : State) :
    let pairs := renamer.pairs.entries
    let outcome := renamer.renameInPlace function location kwargs state
    (outcome.error ≠ none ↔ ∃ index pair, MeetsBoth pairs kwargs.keys index pair) ∧
      (∀ index pair, MeetsBoth pairs kwargs.keys index pair →
        (∀ earlier < index, ∀ other, ¬ MeetsBoth pairs kwargs.keys earlier other) →
          outcome.error = some (.conflictingArguments function pair.2 pair.1)) ∧
      (outcome.error = none →
        (∀ first ∈ kwargs.keys, ∀ second ∈ kwargs.keys,
            position pairs first = position pairs second → first = second) ∧
          outcome.kwargs.entries = rearrange pairs kwargs.entries ∧
          outcome.kwargs.entries.length = kwargs.entries.length ∧
          outcome.kwargs.keys.Nodup ∧
          outcome.kwargs.entries.Perm (kwargs.entries.map (carry pairs)) ∧
          (outcome.kwargs.entries.map Prod.snd).Perm (kwargs.entries.map Prod.snd)) := by
  intro pairs outcome
  have hcases := renamer.renameInPlace_cases function location kwargs state
  cases h : conflict? renamer.pairs.entries kwargs.keys with
  | some pair =>
      rw [h] at hcases
      have herror : outcome.error = some (.conflictingArguments function pair.2 pair.1) :=
        congrArg Outcome.error hcases
      obtain ⟨index, hmeets, hleast⟩ := exists_first_of_conflict? h
      rw [herror]
      refine ⟨⟨fun _ => ⟨index, pair, hmeets⟩, fun _ => Option.some_ne_none _⟩, ?_,
        fun hnone => (Option.some_ne_none _ hnone).elim⟩
      intro other otherPair hother hothers
      have hindex : other = index := by
        rcases Nat.lt_trichotomy other index with hlt | heq | hgt
        · exact (hleast other hlt otherPair hother).elim
        · exact heq
        · exact (hothers index hgt pair hmeets).elim
      subst hindex
      obtain rfl := Option.some.inj (hmeets.1.symm.trans hother.1)
      rfl
  | none =>
      rw [h] at hcases
      have herror : outcome.error = none := hcases.1
      have hkwargs : outcome.kwargs = kwargs.moveAll pairs := hcases.2
      have hnever := conflict?_eq_none_iff.mp h
      have hperm := perm_moveAll h
      refine ⟨⟨fun hne => (hne herror).elim, fun ⟨index, pair, hmeets⟩ =>
        (hnever index pair hmeets).elim⟩, fun index pair hmeets => (hnever index pair hmeets).elim,
        fun _ => ?_⟩
      rw [hkwargs]
      refine ⟨fun first hfirst second hsecond => position_injOn h hfirst hsecond,
        entries_moveAll h, ?_, (kwargs.moveAll pairs).nodup, hperm, ?_⟩
      · rw [hperm.length_eq, List.length_map]
      · have hvalues := hperm.map Prod.snd
        rw [List.map_map] at hvalues
        exact hvalues

example : rearrange [("a", "b"), ("c", "a"), ("b", "d")] [("a", 1), ("e", 2), ("c", 3)] =
    [("e", 2), ("a", 3), ("d", 1)] := by decide

end Renamer

end Deprecation
