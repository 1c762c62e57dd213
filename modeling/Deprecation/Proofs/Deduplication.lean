import Deprecation.Proofs.Operation

/-!
How often a notice is delivered.  Over any run, and however emitters share registries and sinks, a
notice is delivered on behalf of a registry once if what first puts it there is a warn through an
enabled emitter, and never otherwise.
-/

namespace Deprecation

/-- How often a notice has been delivered on behalf of a registry. -/
def Journal.noticeCount (registry : Address Registry) (notice : Notice) (journal : Journal) : Nat :=
  journal.deliveries.countP fun delivery => delivery.source = .notice registry notice

theorem Journal.noticeCount_eq_length (registry : Address Registry) (notice : Notice)
    (journal : Journal) :
    journal.noticeCount registry notice = (journal.warningsOf (.notice registry notice)).length := by
  rw [noticeCount, warningsOf, Delivery.warningsOf, List.length_filterMap_eq_countP]
  congr 1
  funext delivery
  by_cases h : delivery.source = .notice registry notice <;> simp [h]

namespace Action

variable {registry : Address Registry} {notice : Notice}

/-- The action is a warn of the notice through an enabled emitter over the registry, which has not
seen it. -/
def Shows (registry : Address Registry) (notice : Notice) (action : Action) (state : State) :
    Prop :=
  ∃ emitter stackLevel location, action = .warn emitter notice stackLevel location ∧
    emitter.registry = registry ∧ emitter.enabled = true ∧ notice ∉ state.registry registry

/-- The first action that puts the notice into the registry is a warn through an enabled emitter. -/
def ShownFirst (registry : Address Registry) (notice : Notice) (actions : List Action)
    (state : State) : Prop :=
  ∃ before action after, actions = before ++ action :: after ∧
    action.Shows registry notice (performAll before state)

theorem Shows.mem_perform {action : Action} {state : State}
    (h : action.Shows registry notice state) :
    notice ∈ (action.perform state).registry registry := by
  obtain ⟨emitter, stackLevel, location, rfl, hregistry, -, -⟩ := h
  exact (mem_registry_perform_iff _ state registry notice).mpr (Or.inr ⟨hregistry, rfl⟩)

theorem not_shownFirst_of_mem {actions : List Action} {state : State}
    (h : notice ∈ state.registry registry) : ¬ ShownFirst registry notice actions state := by
  rintro ⟨before, action, after, -, emitter, stackLevel, location, -, -, -, hnew⟩
  exact hnew (mem_registry_performAll_of_mem before h)

theorem not_shownFirst_of_not_mem {actions : List Action} {state : State}
    (h : notice ∉ (performAll actions state).registry registry) :
    ¬ ShownFirst registry notice actions state := by
  rintro ⟨before, action, after, rfl, hshows⟩
  rw [performAll_append] at h
  exact h (mem_registry_performAll_of_mem after hshows.mem_perform)

theorem not_shownFirst_nil {state : State} : ¬ ShownFirst registry notice [] state := by
  rintro ⟨before, action, after, hsplit, -⟩
  simp at hsplit

theorem shownFirst_cons_iff {action : Action} {rest : List Action} {state : State} :
    ShownFirst registry notice (action :: rest) state ↔
      action.Shows registry notice state ∨
        ShownFirst registry notice rest (action.perform state) := by
  constructor
  · rintro ⟨before, shown, after, hsplit, hshows⟩
    rcases before with _ | ⟨first, before⟩
    · obtain ⟨rfl, -⟩ := List.cons.inj hsplit
      exact Or.inl hshows
    · obtain ⟨rfl, hrest⟩ := List.cons.inj hsplit
      exact Or.inr ⟨before, shown, after, hrest, hshows⟩
  · rintro (hshows | ⟨before, shown, after, rfl, hshows⟩)
    · exact ⟨[], action, rest, rfl, hshows⟩
    · exact ⟨action :: before, shown, after, rfl, hshows⟩

theorem shownFirst_append_iff {first second : List Action} {state : State} :
    ShownFirst registry notice (first ++ second) state ↔
      ShownFirst registry notice first state ∨
        ShownFirst registry notice second (performAll first state) := by
  induction first generalizing state with
  | nil => exact (or_iff_right not_shownFirst_nil).symm
  | cons action rest ih =>
      rw [List.cons_append, shownFirst_cons_iff, shownFirst_cons_iff, ih, or_assoc,
        performAll_cons]

theorem not_shownFirst_of_not_puts {actions : List Action}
    (h : ∀ action ∈ actions, ¬ action.Puts registry notice) (state : State) :
    ¬ ShownFirst registry notice actions state := by
  rintro ⟨before, action, after, rfl, emitter, stackLevel, location, rfl, hregistry, -, -⟩
  exact h _ (List.mem_append_right _ List.mem_cons_self) ⟨hregistry, rfl⟩

theorem noticeCount_perform_of_shows {action : Action} {state : State}
    (h : action.Shows registry notice state) :
    (action.perform state).journal.noticeCount registry notice =
      state.journal.noticeCount registry notice + 1 := by
  obtain ⟨emitter, stackLevel, location, rfl, rfl, henabled, hnew⟩ := h
  rw [Journal.noticeCount, deliveries_perform, List.countP_append, deliveries,
    if_pos ⟨hnew, henabled⟩]
  simp [Journal.noticeCount]

theorem source_ne_of_not_shows {action : Action} {state : State}
    (h : ¬ action.Shows registry notice state) :
    ∀ delivery ∈ action.deliveries state, delivery.source ≠ .notice registry notice := by
  intro delivery hdelivery hsource
  rcases mem_deliveries_cases hdelivery with
    ⟨emitter, shown, stackLevel, location, rfl, hnew, henabled, rfl⟩ |
    ⟨emitter, text, stackLevel, location, rfl, rfl⟩ | ⟨wrapper, location, sink, rfl, -, rfl⟩
  · obtain ⟨rfl, rfl⟩ := Source.notice.inj hsource
    exact h ⟨emitter, stackLevel, location, rfl, rfl, henabled, hnew⟩
  · cases hsource
  · cases hsource

theorem warningsOf_perform_of_not_shows {action : Action} {state : State}
    (h : ¬ action.Shows registry notice state) :
    (action.perform state).journal.warningsOf (.notice registry notice) =
      state.journal.warningsOf (.notice registry notice) := by
  rw [warningsOf_perform, Delivery.warningsOf_eq_nil (source_ne_of_not_shows h), List.append_nil]

theorem warningsOf_performAll_of_not_shownFirst {actions : List Action} {state : State}
    (h : ¬ ShownFirst registry notice actions state) :
    (performAll actions state).journal.warningsOf (.notice registry notice) =
      state.journal.warningsOf (.notice registry notice) := by
  induction actions generalizing state with
  | nil => rfl
  | cons action rest ih =>
      rw [shownFirst_cons_iff, not_or] at h
      rw [performAll_cons, ih h.2, warningsOf_perform_of_not_shows h.1]

theorem noticeCount_perform_of_not_shows {action : Action} {state : State}
    (h : ¬ action.Shows registry notice state) :
    (action.perform state).journal.noticeCount registry notice =
      state.journal.noticeCount registry notice := by
  rw [Journal.noticeCount_eq_length, warningsOf_perform_of_not_shows h,
    Journal.noticeCount_eq_length]

theorem noticeCount_performAll_of_not_shownFirst {actions : List Action} {state : State}
    (h : ¬ ShownFirst registry notice actions state) :
    (performAll actions state).journal.noticeCount registry notice =
      state.journal.noticeCount registry notice := by
  rw [Journal.noticeCount_eq_length, warningsOf_performAll_of_not_shownFirst h,
    Journal.noticeCount_eq_length]

theorem noticeCount_performAll_of_shownFirst {actions : List Action} {state : State}
    (h : ShownFirst registry notice actions state) :
    (performAll actions state).journal.noticeCount registry notice =
      state.journal.noticeCount registry notice + 1 := by
  induction actions generalizing state with
  | nil => exact absurd h not_shownFirst_nil
  | cons action rest ih =>
      rw [performAll_cons]
      rcases shownFirst_cons_iff.mp h with hshows | hrest
      · rw [noticeCount_performAll_of_not_shownFirst
          (not_shownFirst_of_mem hshows.mem_perform), noticeCount_perform_of_shows hshows]
      · have hother : ¬ action.Shows registry notice state := fun hshows =>
          not_shownFirst_of_mem hshows.mem_perform hrest
        rw [ih hrest, noticeCount_perform_of_not_shows hother]

end Action

-- Put there by an emitter that is switched off, a notice is lost to the others.
example :
    let notice : Notice := ⟨"2.0.0", .method, "run", none, none, none⟩
    let off : Emitter := ⟨Registry.shared, .discard, false⟩
    let on : Emitter := ⟨Registry.shared, .log true, true⟩
    let run := [off, on].map fun emitter => Action.warn emitter notice 2 ⟨"main.rs", 1⟩
    (Action.performAll run {}).journal.noticeCount Registry.shared notice = 0 ∧
      (Action.performAll run.reverse {}).journal.noticeCount Registry.shared notice = 1 := by
  decide

end Deprecation
