import Deprecation.Proofs.Renaming.Warnings

/-!
What becomes of old names.  An old name is among the renamed arguments only if a later pair has
brought it back.  Where no pair leads back to the old name of an earlier one, the renamed arguments
have no old name left, and renaming them once more changes and shows nothing.
-/

namespace Deprecation

namespace Renamer

variable {α : Type}

theorem mem_moveAll_cases {kwargs : KwArgs α} {pairs : List (String × String)} {name : String}
    (h : name ∈ kwargs.moveAll pairs) :
    name ∈ kwargs ∨ ∃ pair ∈ kwargs.fired pairs, pair.2 = name := by
  induction pairs generalizing kwargs with
  | nil => exact Or.inl h
  | cons pair rest ih =>
      rw [Dict.fired]
      rcases ih h with hmoved | ⟨later, hlater, hname⟩
      · obtain ⟨key, hkey, rfl⟩ := mem_movePair.mp hmoved
        by_cases hold : key = pair.1
        · subst hold
          rw [if_pos hkey, follow_old]
          exact Or.inr ⟨pair, List.mem_append_left _ List.mem_cons_self, rfl⟩
        · rw [follow_of_ne hold]
          exact Or.inl hkey
      · exact Or.inr ⟨later, List.mem_append_right _ hlater, hname⟩

theorem old_not_mem_movePair {kwargs : KwArgs α} {pair : String × String}
    (h : pair.1 ∈ kwargs → pair.2 ∉ kwargs) : pair.1 ∉ kwargs.movePair pair := by
  rw [mem_movePair]
  rintro ⟨key, hkey, hfollow⟩
  by_cases hold : key = pair.1
  · subst hold
    rw [follow_old] at hfollow
    exact h hkey (hfollow ▸ hkey)
  · rw [follow_of_ne hold] at hfollow
    exact hold hfollow

/-- In a call that is accepted an old name comes back only by a later pair that fires. -/
theorem exists_later_of_old_mem {kwargs : KwArgs α} {before after : List (String × String)}
    {pair : String × String} (h : conflict? (before ++ pair :: after) kwargs.keys = none)
    (hold : pair.1 ∈ kwargs.moveAll (before ++ pair :: after)) :
    ∃ later ∈ after, later ∈ kwargs.fired (before ++ pair :: after) ∧ later.2 = pair.1 := by
  have hgone := old_not_mem_movePair (not_mem_moveAll_of_accepted h)
  have hmoved : pair.1 ∈ ((kwargs.moveAll before).movePair pair).moveAll after := by
    rwa [Dict.moveAll, List.foldl_append] at hold
  rcases mem_moveAll_cases hmoved with hkept | ⟨later, hlater, hname⟩
  · exact absurd hkept hgone
  · refine ⟨later, (Dict.fired_sublist _ after).subset hlater, ?_, hname⟩
    rw [Dict.fired_append, Dict.fired]
    exact List.mem_append_right _ (List.mem_append_right _ hlater)

/-- No pair leads back to the old name of an earlier pair. -/
def IsForward (pairs : List (String × String)) : Prop :=
  pairs.Pairwise fun earlier later => later.2 ≠ earlier.1

instance (pairs : List (String × String)) : Decidable (IsForward pairs) :=
  inferInstanceAs (Decidable (pairs.Pairwise _))

theorem old_not_mem_of_isForward {kwargs : KwArgs α} {pairs : List (String × String)}
    (hforward : IsForward pairs) (h : conflict? pairs kwargs.keys = none) :
    ∀ pair ∈ pairs, pair.1 ∉ kwargs.moveAll pairs := by
  intro pair hpair hold
  obtain ⟨before, after, rfl⟩ := List.append_of_mem hpair
  obtain ⟨later, hlater, -, hname⟩ := exists_later_of_old_mem h hold
  rw [IsForward, List.pairwise_append, List.pairwise_cons] at hforward
  exact hforward.2.1.1 later hlater hname

theorem renameInPlace_of_absent {renamer : Renamer} {kwargs : KwArgs α}
    (h : ∀ pair ∈ renamer.pairs.entries, pair.1 ∉ kwargs) (function : String)
    (location : Location) (state : State) :
    renamer.renameInPlace function location kwargs state =
      ⟨if kwargs.isEmpty then state else (state.resolve renamer.route).1, kwargs, none⟩ := by
  cases hempty : kwargs.isEmpty with
  | true => exact renameInPlace_of_isEmpty renamer function location hempty state
  | false =>
      rw [renameInPlace_of_accepted renamer function location hempty (conflict?_of_absent h)]
      simp only [applyPairs_fst, applyPairs_snd, Dict.fired_of_absent h, moveAll_of_absent h]
      rfl

theorem observed_of_absent {renamer : Renamer} {kwargs : KwArgs α}
    (h : ∀ pair ∈ renamer.pairs.entries, pair.1 ∉ kwargs) (function : String)
    (location : Location) (state : State) :
    let done := renamer.renameInPlace function location kwargs state
    done.error = none ∧ done.kwargs = kwargs ∧ done.state.AgreesWith state ∧
      done.state.latches = state.latches ∧ done.state.journal = state.journal := by
  intro done
  rw [show done = _ from renameInPlace_of_absent h function location state]
  refine ⟨rfl, rfl, ?_⟩
  change State.AgreesWith (if kwargs.isEmpty then state else (state.resolve renamer.route).1) state ∧
    (if kwargs.isEmpty then state else (state.resolve renamer.route).1).latches = _ ∧
    (if kwargs.isEmpty then state else (state.resolve renamer.route).1).journal = _
  -- without arguments not even the emitter is looked for
  split
  · exact ⟨State.AgreesWith.refl state, rfl, rfl⟩
  · exact ⟨(State.AgreesWith.resolve state renamer.route).symm,
      State.latches_resolve state renamer.route, State.journal_resolve state renamer.route⟩

/-- In the arguments of an accepted call an old name stands only if some later pair fired and leads
to it.  If no pair leads back to the old name of an earlier one, no old name is left at all.  Then
the renamed arguments are accepted again, wherever and in whatever state of warnings; they keep
their order, no registry and no buffer changes, and nothing is delivered or written to the log. -/
theorem old_names_disappear (renamer : Renamer) (function : String) (location : Location)
    (kwargs : KwArgs α) (state : State)
    (h : (renamer.renameInPlace function location kwargs state).error = none) :
    let pairs := renamer.pairs.entries
    let done := renamer.renameInPlace function location kwargs state
    (∀ before pair after, pairs = before ++ pair :: after → pair.1 ∈ done.kwargs →
        ∃ later ∈ after, later ∈ kwargs.fired pairs ∧ later.2 = pair.1) ∧
      (IsForward pairs →
        (∀ pair ∈ pairs, pair.1 ∉ done.kwargs) ∧
          ∀ otherFunction otherLocation otherState,
            let again :=
              renamer.renameInPlace otherFunction otherLocation done.kwargs otherState
            again.error = none ∧ again.kwargs = done.kwargs ∧
              again.state.AgreesWith otherState ∧ again.state.latches = otherState.latches ∧
              again.state.journal = otherState.journal) := by
  intro pairs done
  have hnone : conflict? pairs kwargs.keys = none := conflict?_of_accepted h
  have hkwargs : done.kwargs = kwargs.moveAll pairs :=
    congrArg Outcome.kwargs (renameInPlace_eq_of_accepted hnone function location state)
  rw [hkwargs]
  constructor
  · intro before pair after hsplit hold
    rw [hsplit] at hnone hold ⊢
    exact exists_later_of_old_mem hnone hold
  · intro hforward
    have habsent := old_not_mem_of_isForward hforward hnone
    exact ⟨habsent, observed_of_absent habsent⟩

/-- The third pair leads back to the old name of the first, and its value stays there.  The first
two lead forward: renaming what they leave changes nothing, also where no registry has seen them. -/
theorem renamed_back_and_forth :
    let rename (pairs : List (String × String)) (kwargs : KwArgs Nat) (state : State) :=
      (⟨"2.0.0", Dict.ofList pairs, none, 3, .own ⟨Registry.shared, .capture ⟨0⟩, true⟩⟩ :
        Renamer).renameInPlace "f" ⟨"main.rs", 1⟩ kwargs state
    let kwargs : KwArgs Nat := Dict.ofList [("a", 1), ("d", 2)]
    let back := rename [("a", "b"), ("b", "c"), ("d", "a")] kwargs {}
    let forth := rename [("a", "b"), ("b", "c")] kwargs {}
    let again := rename [("a", "b"), ("b", "c")] forth.kwargs {}
    (back.error = none ∧ back.kwargs.entries = [("c", 1), ("a", 2)] ∧
        ∃ later ∈ [("b", "c"), ("d", "a")], later.2 = "a") ∧
      forth.error = none ∧ again.kwargs = forth.kwargs ∧ again.state.journal = [] := by
  intro rename kwargs back forth again
  have hback : back.error = none := by decide
  have hforth : forth.error = none := by decide
  refine ⟨⟨hback, by decide, ?_⟩, hforth, ?_⟩
  · obtain ⟨later, hlater, -, hname⟩ :=
      (old_names_disappear _ _ _ _ _ hback).1 [] ("a", "b") [("b", "c"), ("d", "a")] rfl
        (by decide)
    exact ⟨later, hlater, hname⟩
  · obtain ⟨-, hkwargs, -, -, hjournal⟩ :=
      ((old_names_disappear _ _ _ _ _ hforth).2 (by decide)).2 "f" ⟨"main.rs", 1⟩ {}
    exact ⟨hkwargs, hjournal⟩

end Renamer

end Deprecation
