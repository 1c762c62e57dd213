import Deprecation.Buffer
import Deprecation.Cells
import Deprecation.Latch
import Deprecation.Registry

/-!
Where warnings go, and on behalf of what they are delivered.
-/

namespace Deprecation

/-- A channel that displays, retains or drops warnings. -/
inductive Sink where
  | log (withLocation : Bool)
  | capture (buffer : Address Buffer)
  | discard
deriving DecidableEq, Repr

/-- On behalf of what a warning is delivered. -/
inductive Source where
  | notice (registry : Address Registry) (notice : Notice)
  /-- The first call of a wrapper, which is known by its latch. -/
  | wrapper (latch : Address Latch)
  | direct
deriving DecidableEq, Repr

/-- A warning on its way to a sink. -/
structure Delivery where
  source : Source
  sink : Sink
  warning : Warning
deriving DecidableEq, Repr

end Deprecation
