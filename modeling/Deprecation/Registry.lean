import Deprecation.Notice

/-!
Registries of the notices that have been seen.  A registry only grows: `insert` answers whether the
notice is new, and a notice that is held stays held.  The view is `notices`, the held notices in the
order in which they were first seen, each of them once.
-/

namespace Deprecation

/-- The notices seen so far, in the order in which they came, without repetition. -/
structure Registry where
  notices : List Notice
  nodup : notices.Nodup := by decide

namespace Registry

@[ext] theorem ext {first second : Registry} (h : first.notices = second.notices) :
    first = second := by
  cases first
  cases second
  cases h
  rfl

def empty : Registry := { notices := [] }

instance : Inhabited Registry := ⟨empty⟩

instance : Membership Notice Registry where
  mem registry notice := notice ∈ registry.notices

theorem mem_def {registry : Registry} {notice : Notice} :
    notice ∈ registry ↔ notice ∈ registry.notices := Iff.rfl

instance (registry : Registry) (notice : Notice) : Decidable (notice ∈ registry) :=
  inferInstanceAs (Decidable (notice ∈ registry.notices))

def contains (registry : Registry) (notice : Notice) : Bool :=
  decide (notice ∈ registry)

def size (registry : Registry) : Nat :=
  registry.notices.length

def isEmpty (registry : Registry) : Bool :=
  registry.notices.isEmpty

/-- Holds a notice as well; one that is held already is not held twice. -/
def add (registry : Registry) (notice : Notice) : Registry :=
  if h : notice ∈ registry then registry
  else
    { notices := registry.notices ++ [notice]
      nodup := by
        refine List.nodup_append.mpr ⟨registry.nodup, by simp, ?_⟩
        intro held hheld other hother
        rw [List.mem_singleton.mp hother]
        rintro rfl
        exact h hheld }

/-- Holds a notice, and answers whether it is seen for the first time. -/
def insert (registry : Registry) (notice : Notice) : Bool × Registry :=
  (!registry.contains notice, registry.add notice)

@[simp] theorem contains_iff {registry : Registry} {notice : Notice} :
    registry.contains notice = true ↔ notice ∈ registry := by
  simp [contains]

@[simp] theorem contains_eq_false_iff {registry : Registry} {notice : Notice} :
    registry.contains notice = false ↔ notice ∉ registry := by
  simp [contains]

@[simp] theorem not_mem_empty (notice : Notice) : notice ∉ empty := by
  simp [mem_def, empty]

theorem add_of_mem {registry : Registry} {notice : Notice} (h : notice ∈ registry) :
    registry.add notice = registry := by
  simp [add, h]

theorem notices_add_of_not_mem {registry : Registry} {notice : Notice}
    (h : notice ∉ registry) :
    (registry.add notice).notices = registry.notices ++ [notice] := by
  simp [add, h]

@[simp] theorem mem_add {registry : Registry} {notice other : Notice} :
    other ∈ registry.add notice ↔ other ∈ registry ∨ other = notice := by
  by_cases h : notice ∈ registry
  · rw [add_of_mem h]
    constructor
    · exact Or.inl
    · rintro (hother | rfl)
      · exact hother
      · exact h
  · simp [mem_def, notices_add_of_not_mem h]

@[simp] theorem insert_fst {registry : Registry} {notice : Notice} :
    (registry.insert notice).1 = !registry.contains notice := rfl

@[simp] theorem insert_snd {registry : Registry} {notice : Notice} :
    (registry.insert notice).2 = registry.add notice := rfl

end Registry

end Deprecation
