/-!
JSON values.  Whole numbers and floating point numbers are different values.  An object lists its
fields, and a field name stands in it at most once when it was made by `putField`.
-/

namespace Deprecation

inductive Json where
  | null
  | boolean (value : Bool)
  | integer (value : Int)
  | float (value : Float)
  | string (value : String)
  | array (items : List Json)
  | object (fields : List (String × Json))
deriving Inhabited

namespace Json

/-- Sets a field: an earlier field of that name gives way, and a new name goes to the end. -/
def putField (fields : List (String × Json)) (key : String) (value : Json) :
    List (String × Json) :=
  if fields.any fun field => field.1 == key then
    fields.map fun field => if field.1 == key then (key, value) else field
  else fields ++ [(key, value)]

def field? (value : Json) (key : String) : Option Json :=
  match value with
  | object fields => fields.lookup key
  | _ => none

def present? (value : Json) (key : String) : Option Json :=
  match value.field? key with
  | some null => none
  | other => other

def string? : Json → Option String
  | string value => some value
  | _ => none

def boolean? : Json → Option Bool
  | boolean value => some value
  | _ => none

def integer? : Json → Option Int
  | integer value => some value
  | _ => none

def items? : Json → Option (List Json)
  | array items => some items
  | _ => none

/-- A text, or null when there is none. -/
def ofText? : Option String → Json
  | none => null
  | some text => string text

end Json

end Deprecation
