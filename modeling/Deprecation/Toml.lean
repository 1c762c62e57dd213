import Deprecation.Toml.Moment

/-!
TOML values.  A document is a table; the entries of a table have pairwise different keys, and stand in
the order in which the document makes them.
-/

namespace Deprecation

inductive Toml where
  | string (value : String)
  | integer (value : Int)
  | float (value : Float)
  | boolean (value : Bool)
  | moment (value : Toml.Moment)
  | array (items : List Toml)
  | table (entries : List (String × Toml))
deriving Inhabited

end Deprecation
