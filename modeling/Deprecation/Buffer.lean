import Deprecation.Warning

/-!
Buffers that retain warnings.  A buffer keeps what it is given in the order in which it comes, and
gives everything back when it is emptied.
-/

namespace Deprecation

structure Buffer where
  warnings : List Warning := []
deriving DecidableEq, Repr, Inhabited

namespace Buffer

def push (buffer : Buffer) (warning : Warning) : Buffer :=
  ⟨buffer.warnings ++ [warning]⟩

def texts (buffer : Buffer) : List String :=
  buffer.warnings.map Warning.text

def size (buffer : Buffer) : Nat :=
  buffer.warnings.length

def isEmpty (buffer : Buffer) : Bool :=
  buffer.warnings.isEmpty

@[simp] theorem size_eq_length_texts (buffer : Buffer) :
    buffer.texts.length = buffer.size := by
  simp [texts, size]

theorem isEmpty_iff (buffer : Buffer) : buffer.isEmpty = true ↔ buffer.size = 0 := by
  simp [isEmpty, size]

@[simp] theorem warnings_push (buffer : Buffer) (warning : Warning) :
    (buffer.push warning).warnings = buffer.warnings ++ [warning] := rfl

end Buffer

end Deprecation
