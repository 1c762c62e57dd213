import Deprecation.Text.Quoted

/-!
Why a value of a document does not have the expected form.  A mismatch is a cause; its wording is
`Mismatch.message`.
-/

namespace Deprecation

/-- The form of a value, as far as it is told to users. -/
inductive Shape where
  | null
  | boolean (value : Bool)
  | integer (value : Int)
  | float (text : String)
  | string (value : String)
  | sequence
  | mapping
deriving DecidableEq, Repr

/-- The form that was expected of a value. -/
inductive Expectation where
  | boolean
  | string
  | unit
  | variant
  | record (name : String)
deriving DecidableEq, Repr

inductive Mismatch where
  | wrongType (found : Shape) (expected : Expectation)
  | unknownVariant (word : String) (variants : List String)
  | missingField (name : String)
  | tooShort (length : Nat) (name : String) (fields : Nat)
  | tooLong (length : Nat)
  | notSingleKey
  | noChoice
  | severalChoices
  | contentNotTable (found : String)
  | contentArrayNotEmpty
  | contentTableNotEmpty
  | notChoice
deriving DecidableEq, Repr

def Shape.describe : Shape → String
  | null => "null"
  | boolean value => if value then "boolean `true`" else "boolean `false`"
  | integer value => "integer `" ++ toString value ++ "`"
  | float text => "floating point `" ++ text ++ "`"
  | string value => "string " ++ Text.quoted value
  | sequence => "sequence"
  | mapping => "map"

def Expectation.describe : Expectation → String
  | boolean => "a boolean"
  | string => "a string"
  | unit => "unit"
  | variant => "string or map"
  | record name => "struct " ++ name

/-- The words of a list of variants, each between backticks. -/
def variantList (variants : List String) : String :=
  String.intercalate ", " (variants.map fun variant => "`" ++ variant ++ "`")

def Mismatch.message : Mismatch → String
  | wrongType found expected =>
    "invalid type: " ++ found.describe ++ ", expected " ++ expected.describe
  | unknownVariant word variants =>
    "unknown variant `" ++ word ++ "`, expected one of " ++ variantList variants
  | missingField name => "missing field `" ++ name ++ "`"
  | tooShort length name fields =>
    "invalid length " ++ toString length ++ ", expected struct " ++ name ++ " with " ++
      toString fields ++ " elements"
  | tooLong length =>
    "invalid length " ++ toString length ++ ", expected fewer elements in array"
  | notSingleKey => "invalid value: map, expected map with a single key"
  | noChoice => "wanted exactly 1 element, found 0 elements"
  | severalChoices => "wanted exactly 1 element, more than 1 element"
  | contentNotTable found => "expected table, found " ++ found
  | contentArrayNotEmpty => "expected empty array"
  | contentTableNotEmpty => "expected empty table"
  | notChoice => "invalid type: unit variant, expected string only"

end Deprecation
