/-!
Latches that fire once.  Firing is a single step that answers whether it is the first one.
-/

namespace Deprecation

structure Latch where
  fired : Bool := false
deriving DecidableEq, Repr, Inhabited

namespace Latch

/-- Fires a latch, and answers whether it fires for the first time. -/
def fire (latch : Latch) : Bool × Latch :=
  (!latch.fired, ⟨true⟩)

@[simp] theorem fire_fst (latch : Latch) : latch.fire.1 = !latch.fired := rfl

@[simp] theorem fired_fire (latch : Latch) : latch.fire.2.fired = true := rfl

end Latch

end Deprecation
