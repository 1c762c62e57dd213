import Deprecation.Toml

/-!
Numbers in TOML text.  Underscores may stand between two digits.  Integers have to fit into sixty
four signed bits; a floating point number is the nearest to what is written, and one that is too
large for that is refused when it is positive.
-/

namespace Deprecation.Toml

/-- The digits that go on after a digit, single underscores before them skipped, and the rest.  An
underscore without a digit after it is refused. -/
def moreDigits? (isDigit : Char → Bool) : List Char → Option (List Char × List Char)
  | [] => some ([], [])
  | ['_'] => none
  | '_' :: d :: rest =>
    if isDigit d then (moreDigits? isDigit rest).map fun (digits, rest) => (d :: digits, rest)
    else none
  | d :: rest =>
    if isDigit d then (moreDigits? isDigit rest).map fun (digits, rest) => (d :: digits, rest)
    else some ([], d :: rest)

/-- The digits at the front of a text, of which there has to be one, and the rest. -/
def readDigits? (isDigit : Char → Bool) : List Char → Option (List Char × List Char)
  | [] => none
  | c :: rest =>
    if isDigit c then (moreDigits? isDigit rest).map fun (digits, rest) => (c :: digits, rest)
    else none

/-- Reads the digits of a decimal integer, which has no zero in front of another digit. -/
def readWhole? (text : List Char) : Option (List Char × List Char) :=
  match text with
  | '0' :: rest => some (['0'], rest)
  | _ => readDigits? Char.isDigit text

/-- Splits off a sign; the answer says whether it is a minus. -/
def readSign (text : List Char) : Bool × List Char :=
  match text with
  | '+' :: rest => (false, rest)
  | '-' :: rest => (true, rest)
  | _ => (false, text)

/-- The first integer that is too large. -/
def integerLimit : Nat := Nat.pow 2 63

def readInBase? (base : Nat) (isDigit : Char → Bool) (text : List Char) :
    Option (Toml × List Char) := do
  let (digits, rest) ← readDigits? isDigit text
  let value := Text.valueInBase base digits
  if value < integerLimit then return (integer value, rest) else none

def readInteger? (text : List Char) : Option (Toml × List Char) :=
  match text with
  | '0' :: 'x' :: rest => readInBase? 16 Text.isHexDigit rest
  | '0' :: 'o' :: rest => readInBase? 8 Text.isOctalDigit rest
  | '0' :: 'b' :: rest => readInBase? 2 Text.isBinaryDigit rest
  | _ => do
    let (negative, rest) := readSign text
    let (digits, rest) ← readWhole? rest
    let value := Text.valueInBase 10 digits
    if negative then
      if value ≤ integerLimit then return (integer (-(value : Int)), rest) else none
    else if value < integerLimit then return (integer value, rest)
    else none

/-- The number nearest to `digits * 10 ^ power`. -/
def nearestFloat (negative : Bool) (digits : List Char) (power : Int) : Float :=
  let significand := Text.valueInBase 10 digits
  let top := ((digits.dropWhile (· == '0')).length : Int) + power
  let value : Float :=
    if significand = 0 ∨ top < -400 then 0
    else if 400 < top then 1 / 0
    else if power < 0 then Float.ofScientific significand true power.natAbs
    else Float.ofScientific significand false power.natAbs
  if negative then -value else value

def readPower? (text : List Char) : Option (Int × List Char) := do
  let (negative, rest) := readSign text
  let (digits, rest) ← readDigits? Char.isDigit rest
  let value : Int := Text.valueInBase 10 digits
  return (if negative then -value else value, rest)

def readExponent (text : List Char) : Attempt Int :=
  match text with
  | [] => .absent
  | c :: rest =>
    if c = 'e' ∨ c = 'E' then .ofOption (readPower? rest) else .absent

/-- A number that was read, unless it is too large. -/
def finishFloat (value : Float) (rest : List Char) : Attempt Toml :=
  if value == 1 / 0 then .wrong else .found (float value) rest

/-- Reads a floating point number with a fraction, an exponent, or both. -/
def readFloat (text : List Char) : Attempt Toml :=
  let (negative, rest) := readSign text
  match readWhole? rest with
  | none => .absent
  | some (whole, '.' :: rest) =>
    match readDigits? Char.isDigit rest with
    | none => .wrong
    | some (fraction, rest) =>
      let scale : Int := -(fraction.length : Int)
      match readExponent rest with
      | .wrong => .wrong
      | .absent => finishFloat (nearestFloat negative (whole ++ fraction) scale) rest
      | .found power rest =>
        finishFloat (nearestFloat negative (whole ++ fraction) (scale + power)) rest
  | some (whole, rest) =>
    match readExponent rest with
    | .wrong => .wrong
    | .absent => .absent
    | .found power rest => finishFloat (nearestFloat negative whole power) rest

def readNamedFloat? (text : List Char) : Option (Toml × List Char) :=
  let (negative, rest) := readSign text
  match rest with
  | 'i' :: 'n' :: 'f' :: rest => some (float (if negative then -1 / 0 else 1 / 0), rest)
  | 'n' :: 'a' :: 'n' :: rest => some (float (0 / 0), rest)
  | _ => none

/-- Reads a date, a time or a number; the first of them that applies. -/
def readScalar? (text : List Char) : Option (Toml × List Char) :=
  match readMoment text with
  | .wrong => none
  | .found value rest => some (moment value, rest)
  | .absent =>
    match readFloat text with
    | .wrong => none
    | .found value rest => some (value, rest)
    | .absent => (readNamedFloat? text).or (readInteger? text)

end Deprecation.Toml
