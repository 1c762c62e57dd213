import Deprecation.Decimal.Layout
import Deprecation.Decoding
import Deprecation.Json

/-!
JSON as a document format.  A choice among variants is written as the word of the variant, or as an
object whose only key is that word and holds null.
-/

namespace Deprecation.Json

def layer : Json → Layer Json
  | null => .null
  | boolean value => .boolean value
  | integer value => .integer value
  | float value => .float (Decimal.text .mixed value)
  | string value => .string value
  | array items => .sequence items
  | object fields => .mapping fields

/-- Decodes a choice.  The word is looked at before what its key holds. -/
def choose {β : Type} (options : List (String × β)) : Json → Except Mismatch β
  | string word => Decoding.chooseWord options word
  | object [(word, content)] =>
    match Decoding.chooseWord options word with
    | .error mismatch => .error mismatch
    | .ok variant =>
      match content with
      | null => .ok variant
      | _ => .error (.wrongType content.layer.shape .unit)
  | object _ => .error .notSingleKey
  | value => .error (.wrongType value.layer.shape .variant)

instance : Document Json where
  layer := layer
  choose := choose

end Deprecation.Json
