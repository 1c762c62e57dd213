import Deprecation.Json
import Deprecation.Text.Digits

/-!
Numbers in JSON text.  A literal without fraction and exponent is an integer if it fits into sixty
four bits, signed or unsigned; every other literal is a floating point number.  A floating point
number is read from a sixty-four bit significand, whose digits beyond that range are dropped, and
one scaling by a power of ten.
-/

namespace Deprecation.Json

/-- The largest integer, and the largest significand that is kept exactly. -/
def significandLimit : Nat := Nat.pow 2 64 - 1

/-- A decimal significand in the making, and the power of ten that it is to be scaled by. -/
structure Scaled where
  significand : Nat := 0
  power : Int := 0
deriving DecidableEq, Repr

/-- Reads the digits before the point.  From the first digit that does not fit on, each digit only
raises the power. -/
def Scaled.readWhole (start : Scaled) : List Char → Scaled
  | [] => start
  | c :: rest =>
    let next := start.significand * 10 + Text.digitValue c
    if next ≤ significandLimit then readWhole { start with significand := next } rest
    else { start with power := start.power + (rest.length + 1 : Nat) }

/-- Reads the digits after the point.  From the first digit that does not fit on, they are
dropped. -/
def Scaled.readFraction (start : Scaled) : List Char → Scaled
  | [] => start
  | c :: rest =>
    let next := start.significand * 10 + Text.digitValue c
    if next ≤ significandLimit then readFraction ⟨next, start.power - 1⟩ rest
    else start

private def powerOfTen (power : Nat) : Float :=
  Float.ofScientific 1 false power

/-- Scales a number.  A result that is too large is refused; one that is too small becomes zero. -/
def scale : Nat → Float → Int → Option Float
  | 0, _, _ => some 0
  | fuel + 1, value, power =>
    if power.natAbs ≤ 308 then
      if 0 ≤ power then
        let scaled := value * powerOfTen power.natAbs
        if scaled.isInf then none else some scaled
      else some (value / powerOfTen power.natAbs)
    else if value == 0 then some value
    else if 0 ≤ power then none
    else scale fuel (value / powerOfTen 308) (power + 308)

def Scaled.toFloat? (negative : Bool) (number : Scaled) : Option Float :=
  let start := number.significand.toUInt64.toFloat
  -- Past this power every significand is scaled down to zero.
  let power := if number.power < -2000 then -2000 else number.power
  (scale 8 start power).map fun value => if negative then -value else value

/-- The value of a literal: sign, digits before the point, digits after it, and exponent. -/
def number? (negative : Bool) (whole : List Char) (fraction : Option (List Char))
    (exponent : Option Int) : Option Json :=
  let magnitude := Text.valueInBase 10 whole
  let isInteger := fraction.isNone && exponent.isNone
  if isInteger && !negative && magnitude ≤ significandLimit then some (integer magnitude)
  else if isInteger && negative && 0 < magnitude && magnitude ≤ Nat.pow 2 63 then
    some (integer (-(magnitude : Int)))
  else
    let number := (Scaled.readWhole {} whole).readFraction (fraction.getD [])
    let number := { number with power := number.power + exponent.getD 0 }
    (number.toFloat? negative).map float

end Deprecation.Json
