/-!
Warnings as they reach a sink, and the places in the users' code that they are attributed to.
-/

namespace Deprecation

structure Location where
  file : String
  line : Nat
deriving DecidableEq, Repr, Inhabited

/-- A warning that is delivered: its text, how many frames above the emitter it is attributed to,
and the place of the deprecated use. -/
structure Warning where
  text : String
  stackLevel : UInt64
  location : Location
deriving DecidableEq, Repr, Inhabited

namespace Warning

def category : String := "DeprecationWarning"

def headline (warning : Warning) : String :=
  category ++ ": " ++ warning.text

def display (warning : Warning) : String :=
  warning.location.file ++ ":" ++ toString warning.location.line ++ ": " ++ warning.headline

end Warning

end Deprecation
