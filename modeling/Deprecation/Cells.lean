/-!
Stores of cells.  A cell is addressed by a number of its own type, reading never fails, and writing
to one cell leaves every other cell as it is.  A cell that was never written holds the default.
-/

namespace Deprecation

/-- The address of a cell that holds values of a type. -/
structure Address (α : Type) where
  index : Nat

instance {α : Type} : Repr (Address α) where
  reprPrec address := reprPrec address.index

@[ext] theorem Address.ext {α : Type} {first second : Address α}
    (h : first.index = second.index) : first = second := by
  cases first
  cases second
  exact congrArg Address.mk h

theorem Address.index_ne {α : Type} {first second : Address α} (h : first ≠ second) :
    first.index ≠ second.index :=
  fun hindex => h (Address.ext hindex)

instance {α : Type} : DecidableEq (Address α) := fun first second =>
  if h : first.index = second.index then isTrue (Address.ext h)
  else isFalse fun heq => h (congrArg Address.index heq)

/-- The contents of cells, by index. -/
structure Cells (α : Type) where
  values : List α := []
deriving Repr, Inhabited

namespace Cells

variable {α : Type} [Inhabited α]

/-- Puts a value at an index; defaults fill the gap after a shorter list. -/
def setAt : List α → Nat → α → List α
  | [], 0, value => [value]
  | [], index + 1, value => default :: setAt [] index value
  | _ :: rest, 0, value => value :: rest
  | first :: rest, index + 1, value => first :: setAt rest index value

def get (cells : Cells α) (address : Address α) : α :=
  cells.values.getD address.index default

def set (cells : Cells α) (address : Address α) (value : α) : Cells α :=
  ⟨setAt cells.values address.index value⟩

def update (cells : Cells α) (address : Address α) (change : α → α) : Cells α :=
  cells.set address (change (cells.get address))

def fresh (cells : Cells α) : Address α :=
  ⟨cells.values.length⟩

def alloc (cells : Cells α) (value : α) : Cells α × Address α :=
  (⟨cells.values ++ [value]⟩, cells.fresh)

theorem getD_setAt_self (values : List α) (index : Nat) (value : α) :
    (setAt values index value).getD index default = value := by
  induction values, index, value using setAt.induct <;> simp_all [setAt]

theorem getD_setAt_of_ne (values : List α) {index other : Nat} (value : α)
    (h : other ≠ index) :
    (setAt values index value).getD other default = values.getD other default := by
  induction values, index, value using setAt.induct generalizing other with
  | case1 value =>
    cases other with
    | zero => exact absurd rfl h
    | succ other => simp [setAt]
  | case2 index value ih =>
    cases other with
    | zero => simp [setAt]
    | succ other => simpa [setAt] using ih (by omega)
  | case3 first rest value =>
    cases other with
    | zero => exact absurd rfl h
    | succ other => simp [setAt]
  | case4 first rest index value ih =>
    cases other with
    | zero => simp [setAt]
    | succ other => simpa [setAt] using ih (by omega)

theorem le_length_setAt (values : List α) (index : Nat) (value : α) :
    values.length ≤ (setAt values index value).length := by
  induction values, index, value using setAt.induct <;> simp_all [setAt]

@[simp] theorem get_set_self (cells : Cells α) (address : Address α) (value : α) :
    (cells.set address value).get address = value :=
  getD_setAt_self _ _ _

theorem get_set_of_ne (cells : Cells α) {address other : Address α} (value : α)
    (h : other ≠ address) : (cells.set address value).get other = cells.get other :=
  getD_setAt_of_ne _ _ (Address.index_ne h)

theorem get_set (cells : Cells α) (address other : Address α) (value : α) :
    (cells.set address value).get other = if other = address then value else cells.get other := by
  split
  · next h => rw [h, get_set_self]
  · next h => exact get_set_of_ne cells value h

@[simp] theorem get_alloc_fresh (cells : Cells α) (value : α) :
    (cells.alloc value).1.get cells.fresh = value := by
  simp [alloc, get, fresh]

theorem get_alloc_of_ne (cells : Cells α) {other : Address α} (value : α)
    (h : other ≠ cells.fresh) : (cells.alloc value).1.get other = cells.get other := by
  have hindex : other.index ≠ cells.values.length := Address.index_ne h
  simp only [alloc, get, List.getD_eq_getElem?_getD]
  rcases Nat.lt_or_gt_of_ne hindex with hlt | hgt
  · rw [List.getElem?_append_left hlt]
  · rw [List.getElem?_eq_none (by simp; omega), List.getElem?_eq_none (by omega)]

@[simp] theorem get_alloc_default (cells : Cells α) (address : Address α) :
    (cells.alloc default).1.get address = cells.get address := by
  by_cases h : address = cells.fresh
  · subst h
    rw [get_alloc_fresh]
    simp [get, fresh]
  · exact get_alloc_of_ne cells default h

theorem get_fresh (cells : Cells α) : cells.get cells.fresh = default := by
  simp [get, fresh]

theorem fresh_le_set (cells : Cells α) (address : Address α) (value : α) :
    cells.fresh.index ≤ (cells.set address value).fresh.index :=
  le_length_setAt _ _ _

omit [Inhabited α] in
theorem fresh_lt_alloc (cells : Cells α) (value : α) :
    cells.fresh.index < (cells.alloc value).1.fresh.index := by
  simp [alloc, fresh]

end Cells

end Deprecation
