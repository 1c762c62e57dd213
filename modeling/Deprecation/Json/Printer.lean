import Deprecation.Decimal.Layout
import Deprecation.Json

/-!
The compact text of a JSON value: no blanks, fields in the order in which they stand, and only the
escapes that the format asks for.
-/

namespace Deprecation.Json

private def controlEscape (c : Char) : List Char :=
  let digits := Nat.toDigits 16 c.toNat
  ['\\', 'u'] ++ List.replicate (4 - digits.length) '0' ++ digits

def escapedChar (c : Char) : List Char :=
  if c = '"' then ['\\', '"']
  else if c = '\\' then ['\\', '\\']
  else if c = '\n' then ['\\', 'n']
  else if c = '\t' then ['\\', 't']
  else if c = '\r' then ['\\', 'r']
  else if c = '\x08' then ['\\', 'b']
  else if c = '\x0c' then ['\\', 'f']
  else if c.toNat < 0x20 then controlEscape c
  else [c]

def quotedText (text : String) : String :=
  String.ofList ('"' :: text.toList.flatMap escapedChar ++ ['"'])

mutual

def compact : Json → String
  | null => "null"
  | boolean value => if value then "true" else "false"
  | integer value => toString value
  | float value => Decimal.text .mixed value
  | string value => quotedText value
  | array items => "[" ++ String.intercalate "," (compactItems items) ++ "]"
  | object fields => "\x7b" ++ String.intercalate "," (compactFields fields) ++ "\x7d"

def compactItems : List Json → List String
  | [] => []
  | item :: rest => compact item :: compactItems rest

def compactFields : List (String × Json) → List String
  | [] => []
  | (key, value) :: rest => (quotedText key ++ ":" ++ compact value) :: compactFields rest

end

end Deprecation.Json
