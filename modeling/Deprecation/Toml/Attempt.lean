/-!
The outcome of reading something that may or may not stand at the front of a text.
-/

namespace Deprecation.Toml

/-- The outcome of reading something optional: it is not there, it is there but wrong, or it is
read, with the rest of the text. -/
inductive Attempt (α : Type) where
  | absent
  | wrong
  | found (value : α) (rest : List Char)

/-- What is there has to be right. -/
def Attempt.ofOption {α : Type} : Option (α × List Char) → Attempt α
  | some (value, rest) => found value rest
  | none => wrong

end Deprecation.Toml
