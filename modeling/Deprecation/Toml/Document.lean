import Deprecation.Decimal.Layout
import Deprecation.Decoding
import Deprecation.Toml

/-!
TOML as a document format.  Dates and times count as their texts.  A choice among variants is
written as the word of the variant, or as a table whose only key is that word and holds an empty
table.
-/

namespace Deprecation.Toml

def layer : Toml → Layer Toml
  | string value => .string value
  | integer value => .integer value
  | float value => .float (Decimal.text .positional value)
  | boolean value => .boolean value
  | moment value => .string value.text
  | array items => .sequence items
  | table entries => .mapping entries

def kindWord : Toml → String
  | string _ => "string"
  | integer _ => "integer"
  | float _ => "float"
  | boolean _ => "boolean"
  | moment _ => "datetime"
  | array _ => "array"
  | table _ => "table"

/-- Decodes what the key of a choice holds: nothing, as an empty table or an empty array. -/
def emptyContent : Toml → Except Mismatch Unit
  | array [] => .ok ()
  | array _ => .error .contentArrayNotEmpty
  | table [] => .ok ()
  | table _ => .error .contentTableNotEmpty
  | value => .error (.contentNotTable value.kindWord)

/-- Decodes a choice.  The word is looked at before what its key holds. -/
def choose {β : Type} (options : List (String × β)) : Toml → Except Mismatch β
  | string word => Decoding.chooseWord options word
  | table [] => .error .noChoice
  | table [(word, content)] =>
    match Decoding.chooseWord options word with
    | .error mismatch => .error mismatch
    | .ok variant => (emptyContent content).map fun _ => variant
  | table _ => .error .severalChoices
  | _ => .error .notChoice

instance : Document Toml where
  layer := layer
  choose := choose

end Deprecation.Toml
