import Deprecation.Json.Number

/-!
Reading JSON text.  The whole text has to be one value with blanks around it.  Of a field that an
object gives twice, the last value stays.  A text that breaks the grammar, an unpaired surrogate
escape, and a number out of range are refused.
-/

namespace Deprecation.Json

/-- Skips blanks: spaces, tabs and line ends. -/
def skipBlanks (text : List Char) : List Char :=
  text.dropWhile fun c => c == ' ' || c == '\t' || c == '\n' || c == '\r'

def shortEscape? (c : Char) : Option Char :=
  match c with
  | '"' => some '"'
  | '\\' => some '\\'
  | '/' => some '/'
  | 'b' => some '\x08'
  | 'f' => some '\x0c'
  | 'n' => some '\n'
  | 'r' => some '\r'
  | 't' => some '\t'
  | _ => none

/-- The character that a pair of surrogates stands for, each given by its four digits. -/
def pair? (high low : List Char) : Option Char :=
  let first := Text.valueInBase 16 high
  let second := Text.valueInBase 16 low
  if (high ++ low).all Text.isHexDigit && 0xD800 ≤ first && first < 0xDC00 &&
      0xDC00 ≤ second && second < 0xE000 then
    some (Char.ofNat (0x10000 + (first - 0xD800) * 0x400 + (second - 0xDC00)))
  else none

/-- Reads the rest of a string after its opening quote.  `chars` holds what has been read, the last
character first. -/
def readString? (chars : List Char) : List Char → Option (String × List Char)
  | [] => none
  | '"' :: rest => some (String.ofList chars.reverse, rest)
  | '\\' :: 'u' :: a :: b :: c :: d :: rest =>
    match Text.scalar? [a, b, c, d] with
    | some char => readString? (char :: chars) rest
    | none =>
      match rest with
      | '\\' :: 'u' :: e :: f :: g :: h :: rest => do
        let char ← pair? [a, b, c, d] [e, f, g, h]
        readString? (char :: chars) rest
      | _ => none
  | '\\' :: c :: rest => do
    let char ← shortEscape? c
    readString? (char :: chars) rest
  | c :: rest => if c.toNat < 0x20 then none else readString? (c :: chars) rest

def readDigits (text : List Char) : List Char × List Char :=
  (text.takeWhile Char.isDigit, text.dropWhile Char.isDigit)

def readFraction? (text : List Char) : Option (Option (List Char) × List Char) :=
  match text with
  | '.' :: rest =>
    match readDigits rest with
    | ([], _) => none
    | (digits, rest) => some (some digits, rest)
  | _ => some (none, text)

def readExponent? (text : List Char) : Option (Option Int × List Char) :=
  match text with
  | [] => some (none, text)
  | c :: rest =>
    if c = 'e' ∨ c = 'E' then
      let (negative, rest) :=
        match rest with
        | '+' :: rest => (false, rest)
        | '-' :: rest => (true, rest)
        | _ => (false, rest)
      match readDigits rest with
      | ([], _) => none
      | (digits, rest) =>
        let value : Int := Text.valueInBase 10 digits
        some (some (if negative then -value else value), rest)
    else some (none, text)

def readNumber? (text : List Char) : Option (Json × List Char) := do
  let (negative, text) :=
    match text with
    | '-' :: rest => (true, rest)
    | _ => (false, text)
  let (whole, rest) := readDigits text
  if whole.isEmpty || (whole.length != 1 && whole.head? == some '0') then none
  else
    let (fraction, rest) ← readFraction? rest
    let (exponent, rest) ← readExponent? rest
    let value ← number? negative whole fraction exponent
    return (value, rest)

mutual

/-- Reads a value, with blanks before it.  Each step of the reader uses one unit of fuel. -/
def readValue? : Nat → List Char → Option (Json × List Char)
  | 0, _ => none
  | fuel + 1, text =>
    match skipBlanks text with
    | 'n' :: 'u' :: 'l' :: 'l' :: rest => some (null, rest)
    | 't' :: 'r' :: 'u' :: 'e' :: rest => some (boolean true, rest)
    | 'f' :: 'a' :: 'l' :: 's' :: 'e' :: rest => some (boolean false, rest)
    | '"' :: rest => (readString? [] rest).map fun (s, rest) => (string s, rest)
    | '[' :: rest =>
      match skipBlanks rest with
      | ']' :: rest => some (array [], rest)
      | rest => readItems? fuel [] rest
    | '\x7b' :: rest =>
      match skipBlanks rest with
      | '\x7d' :: rest => some (object [], rest)
      | rest => readFields? fuel [] rest
    | rest => readNumber? rest

/-- Reads the items of an array up to its closing bracket.  `items` holds the items read so far,
the last one first. -/
def readItems? : Nat → List Json → List Char → Option (Json × List Char)
  | 0, _, _ => none
  | fuel + 1, items, text => do
    let (item, rest) ← readValue? fuel text
    match skipBlanks rest with
    | ',' :: rest => readItems? fuel (item :: items) rest
    | ']' :: rest => return (array (item :: items).reverse, rest)
    | _ => none

def readFields? : Nat → List (String × Json) → List Char → Option (Json × List Char)
  | 0, _, _ => none
  | fuel + 1, fields, text =>
    match skipBlanks text with
    | '"' :: rest => do
      let (key, rest) ← readString? [] rest
      match skipBlanks rest with
      | ':' :: rest =>
        let (value, rest) ← readValue? fuel rest
        let fields := putField fields key value
        match skipBlanks rest with
        | ',' :: rest => readFields? fuel fields rest
        | '\x7d' :: rest => return (object fields, rest)
        | _ => none
      | _ => none
    | _ => none

end

def read? (text : String) : Option Json := do
  let chars := text.toList
  let (value, rest) ← readValue? (2 * chars.length + 2) chars
  if (skipBlanks rest).isEmpty then return value else none

end Deprecation.Json
