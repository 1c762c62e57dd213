import Deprecation.Registry
import Mathlib.Data.List.Nodup

/-!
How a registry grows.  Each insertion is answered by whether the notice was new, and whatever is
inserted, in whatever order, the registry holds afterwards what it held and what was inserted, each
notice once, and nothing leaves it.  Every registry comes about in this way from the empty one.
-/

namespace Deprecation

namespace Registry

/-- Inserts notices one after the other; each one comes with its answer. -/
def insertAll : Registry → List Notice → List (Notice × Bool) × Registry
  | registry, [] => ([], registry)
  | registry, notice :: rest =>
    let (isNew, next) := registry.insert notice
    let (answers, final) := insertAll next rest
    ((notice, isNew) :: answers, final)

variable {registry : Registry} {notice : Notice}

theorem insertAll_cons (registry : Registry) (notice : Notice) (rest : List Notice) :
    registry.insertAll (notice :: rest) =
      ((notice, !registry.contains notice) :: ((registry.add notice).insertAll rest).1,
        ((registry.add notice).insertAll rest).2) := rfl

theorem insertAll_append (registry : Registry) (first second : List Notice) :
    registry.insertAll (first ++ second) =
      ((registry.insertAll first).1 ++ ((registry.insertAll first).2.insertAll second).1,
        ((registry.insertAll first).2.insertAll second).2) := by
  induction first generalizing registry with
  | nil => rfl
  | cons notice rest ih => rw [List.cons_append, insertAll_cons, ih, insertAll_cons, List.cons_append]

theorem map_fst_insertAll (registry : Registry) (notices : List Notice) :
    (registry.insertAll notices).1.map Prod.fst = notices := by
  induction notices generalizing registry with
  | nil => rfl
  | cons notice rest ih => rw [insertAll_cons, List.map_cons, ih]

theorem length_insertAll (registry : Registry) (notices : List Notice) :
    (registry.insertAll notices).1.length = notices.length := by
  rw [← List.length_map Prod.fst, map_fst_insertAll]

theorem contains_iff_exists :
    registry.contains notice = true ↔ ∃ held ∈ registry.notices,
      held.version = notice.version ∧ held.kind = notice.kind ∧ held.name = notice.name ∧
        held.newKind = notice.newKind ∧ held.newName = notice.newName ∧ held.note = notice.note := by
  rw [contains_iff, mem_def]
  constructor
  · intro h
    exact ⟨notice, h, rfl, rfl, rfl, rfl, rfl, rfl⟩
  · rintro ⟨held, hheld, hversion, hkind, hname, hnewKind, hnewName, hnote⟩
    have hsame : held = notice := by
      cases held
      cases notice
      simp_all
    rwa [← hsame]

theorem mem_insertAll_iff {notices : List Notice} :
    notice ∈ (registry.insertAll notices).2 ↔ notice ∈ registry ∨ notice ∈ notices := by
  induction notices generalizing registry with
  | nil => simp [insertAll]
  | cons first rest ih => rw [insertAll_cons, ih, mem_add, List.mem_cons, or_assoc]

theorem exists_notices_insertAll (registry : Registry) (notices : List Notice) :
    ∃ gained, (registry.insertAll notices).2.notices = registry.notices ++ gained := by
  induction notices generalizing registry with
  | nil => exact ⟨[], (List.append_nil _).symm⟩
  | cons notice rest ih =>
      obtain ⟨gained, hgained⟩ := ih (registry.add notice)
      rw [insertAll_cons, hgained]
      by_cases h : notice ∈ registry
      · rw [add_of_mem h]
        exact ⟨gained, rfl⟩
      · rw [notices_add_of_not_mem h, List.append_assoc]
        exact ⟨_, rfl⟩

theorem notices_insertAll_of_nodup {notices : List Notice}
    (h : (registry.notices ++ notices).Nodup) :
    (registry.insertAll notices).2.notices = registry.notices ++ notices := by
  induction notices generalizing registry with
  | nil => exact (List.append_nil _).symm
  | cons notice rest ih =>
      have hnew : notice ∉ registry := fun hheld =>
        (List.nodup_append.mp h).2.2 notice hheld notice List.mem_cons_self rfl
      have hadd := notices_add_of_not_mem hnew
      rw [List.append_cons, ← hadd] at h
      rw [insertAll_cons, ih h, hadd, List.append_assoc, List.singleton_append]

theorem insertAll_empty (registry : Registry) :
    (empty.insertAll registry.notices).2 = registry :=
  Registry.ext (notices_insertAll_of_nodup registry.nodup)

theorem notices_insertAll_perm {others notices : List Notice} (h : others.Perm notices) :
    (registry.insertAll others).2.notices.Perm (registry.insertAll notices).2.notices := by
  rw [List.perm_ext_iff_of_nodup (nodup _) (nodup _)]
  intro notice
  rw [← mem_def, ← mem_def, mem_insertAll_iff, mem_insertAll_iff, h.mem_iff]

theorem answer_insertAll (registry : Registry) (before : List Notice) (notice : Notice)
    (after : List Notice) :
    (registry.insertAll (before ++ notice :: after)).1[before.length]? =
      some (notice, decide (notice ∉ registry ∧ notice ∉ before)) := by
  have hanswer : (!(registry.insertAll before).2.contains notice) =
      decide (notice ∉ registry ∧ notice ∉ before) := by
    rw [Bool.eq_iff_iff, Bool.not_eq_true', contains_eq_false_iff, decide_eq_true_iff,
      mem_insertAll_iff, not_or]
  have hlength := length_insertAll registry before
  rw [insertAll_append, insertAll_cons, List.getElem?_append_right (Nat.le_of_eq hlength), hlength,
    Nat.sub_self, List.getElem?_cons_zero, hanswer]

theorem size_add (registry : Registry) (notice : Notice) :
    (registry.add notice).size = registry.size + if registry.contains notice then 0 else 1 := by
  by_cases h : notice ∈ registry
  · rw [add_of_mem h, contains_iff.mpr h]
    rfl
  · rw [size, notices_add_of_not_mem h, contains_eq_false_iff.mpr h, List.length_append]
    rfl

theorem size_insertAll (registry : Registry) (notices : List Notice) :
    (registry.insertAll notices).2.size =
      registry.size + (registry.insertAll notices).1.countP Prod.snd := by
  induction notices generalizing registry with
  | nil => rfl
  | cons notice rest ih =>
      rw [insertAll_cons, ih, size_add, List.countP_cons, Nat.add_assoc]
      cases registry.contains notice <;> simp [Nat.add_comm]

theorem count_insertAll_of_mem (h : notice ∈ registry) (notices : List Notice) :
    (registry.insertAll notices).1.count (notice, true) = 0 := by
  induction notices generalizing registry with
  | nil => rfl
  | cons first rest ih =>
      have hother : (first, !registry.contains first) ≠ (notice, true) := by
        rintro heq
        obtain ⟨rfl, hnew⟩ := Prod.mk.inj heq
        rw [contains_iff.mpr h] at hnew
        cases hnew
      rw [insertAll_cons, List.count_cons_of_ne hother]
      exact ih (mem_add.mpr (Or.inl h))

theorem count_insertAll_of_not_mem (h : notice ∉ registry) (notices : List Notice) :
    (registry.insertAll notices).1.count (notice, true) = if notice ∈ notices then 1 else 0 := by
  induction notices generalizing registry with
  | nil => rfl
  | cons first rest ih =>
      rw [insertAll_cons]
      by_cases hfirst : first = notice
      · -- the first insertion is the one, and from then on the notice is held
        subst hfirst
        have hheld : first ∈ registry.add first := mem_add.mpr (Or.inr rfl)
        rw [contains_eq_false_iff.mpr h, Bool.not_false, List.count_cons_self,
          count_insertAll_of_mem hheld, if_pos List.mem_cons_self]
      · have hother : (first, !registry.contains first) ≠ (notice, true) := fun heq =>
          hfirst (Prod.mk.inj heq).1
        have hnew : notice ∉ registry.add first := by
          rw [mem_add, not_or]
          exact ⟨h, Ne.symm hfirst⟩
        have hmem : notice ∈ first :: rest ↔ notice ∈ rest := by
          rw [List.mem_cons, or_iff_right (Ne.symm hfirst)]
        rw [List.count_cons_of_ne hother, ih hnew]
        simp only [hmem]

theorem count_insertAll_perm {others notices : List Notice} (h : others.Perm notices)
    (registry : Registry) (notice : Notice) :
    (registry.insertAll others).1.count (notice, true) =
      (registry.insertAll notices).1.count (notice, true) := by
  by_cases hheld : notice ∈ registry
  · rw [count_insertAll_of_mem hheld, count_insertAll_of_mem hheld]
  · rw [count_insertAll_of_not_mem hheld, count_insertAll_of_not_mem hheld]
    simp only [h.mem_iff]

/-- A registry only grows.  Every registry comes from the empty one by insertions, and it tells
notices apart by their six fields.  Whatever is inserted, an insertion is answered that the notice is
new exactly if it was held neither at first nor from an earlier insertion; held are then what was
held at first and what was inserted, each notice once, and their number has grown by the number of
these answers.  What is held at some moment stays held, in its place.  The order of the insertions
decides neither what is held nor how often a notice is answered to be new: once if it is inserted and
was not held, and otherwise never. -/
theorem grows_by_insertions (registry : Registry) (notices : List Notice) :
    let answers := (registry.insertAll notices).1
    let final := (registry.insertAll notices).2
    (∃ earlier, (empty.insertAll earlier).2 = registry) ∧
      (∀ notice, registry.contains notice = true ↔ ∃ held ∈ registry.notices,
        held.version = notice.version ∧ held.kind = notice.kind ∧ held.name = notice.name ∧
          held.newKind = notice.newKind ∧ held.newName = notice.newName ∧
          held.note = notice.note) ∧
      answers.map Prod.fst = notices ∧
      (∀ before notice after, notices = before ++ notice :: after →
        answers[before.length]? = some (notice, decide (notice ∉ registry ∧ notice ∉ before))) ∧
      (∀ notice, final.contains notice = true ↔
        registry.contains notice = true ∨ notice ∈ notices) ∧
      final.size = registry.size + answers.countP Prod.snd ∧
      (∀ notice, final.notices.count notice = if final.contains notice then 1 else 0) ∧
      (∀ before after, notices = before ++ after →
        ∃ gained, final.notices = (registry.insertAll before).2.notices ++ gained) ∧
      (∀ notice, answers.count (notice, true) =
        if registry.contains notice = false ∧ notice ∈ notices then 1 else 0) ∧
      ∀ others, others.Perm notices →
        (registry.insertAll others).2.size = final.size ∧
          ∀ notice, (registry.insertAll others).2.contains notice = final.contains notice ∧
            (registry.insertAll others).1.count (notice, true) = answers.count (notice, true) := by
  intro answers final
  refine ⟨⟨registry.notices, insertAll_empty registry⟩, fun notice => contains_iff_exists,
    map_fst_insertAll registry notices, ?_, fun notice => ?_, size_insertAll registry notices,
    fun notice => ?_, ?_, fun notice => ?_, fun others h => ⟨?_, fun notice => ⟨?_, ?_⟩⟩⟩
  · rintro before notice after rfl
    exact answer_insertAll registry before notice after
  · rw [contains_iff, contains_iff]
    exact mem_insertAll_iff
  · rw [final.nodup.count]
    simp only [contains_iff, mem_def]
  · rintro before after rfl
    change ∃ gained, (registry.insertAll (before ++ after)).2.notices = _ ++ gained
    rw [insertAll_append]
    exact exists_notices_insertAll _ after
  · by_cases hheld : notice ∈ registry
    · rw [show answers = _ from rfl, count_insertAll_of_mem hheld, if_neg]
      rw [contains_eq_false_iff]
      exact fun hnew => hnew.1 hheld
    · rw [show answers = _ from rfl, count_insertAll_of_not_mem hheld]
      simp only [contains_eq_false_iff, hheld, not_false_eq_true, true_and]
  · exact (notices_insertAll_perm h).length_eq
  · rw [Bool.eq_iff_iff, contains_iff, contains_iff, mem_def, mem_def]
    exact (notices_insertAll_perm h).mem_iff
  · exact count_insertAll_perm h registry notice

/-- Notices that differ in their notes only are both new, and each of them is so once, whichever comes
first. -/
theorem noted_twin_is_new :
    let plain : Notice := ⟨"2.0.0", .method, "run", none, none, none⟩
    let noted : Notice := ⟨"2.0.0", .method, "run", none, none, some ""⟩
    let forth := empty.insertAll [plain, noted, plain]
    let back := empty.insertAll [noted, plain, plain]
    forth.1[1]? = some (noted, true) ∧ forth.1[2]? = some (plain, false) ∧
      back.1.count (noted, true) = 1 ∧ back.1.count (plain, true) = 1 ∧ back.2.size = 2 ∧
      ∃ gained, forth.2.notices = (empty.insertAll [plain]).2.notices ++ gained := by
  intro plain noted forth back
  obtain ⟨-, -, -, hanswers, -, hsize, -, hstays, hcount, horder⟩ :=
    grows_by_insertions empty [plain, noted, plain]
  have hperm : [noted, plain, plain].Perm [plain, noted, plain] := .swap plain noted [plain]
  obtain ⟨hsame, hback⟩ := horder _ hperm
  refine ⟨hanswers [plain] noted [plain] rfl, hanswers [plain, noted] plain [] rfl, ?_, ?_, ?_,
    hstays [plain] [noted, plain] rfl⟩
  · rw [show back.1.count (noted, true) = _ from (hback noted).2, hcount]
    decide
  · rw [show back.1.count (plain, true) = _ from (hback plain).2, hcount]
    decide
  · rw [show back.2.size = _ from hsame, hsize]
    decide

end Registry

end Deprecation
