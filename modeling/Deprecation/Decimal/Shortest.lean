/-!
The shortest decimal that reads back as a given binary number.  A finite binary number is a
significand times a power of two, and every real number nearer to it than to its neighbours reads
back as it.  Grids of one, two, … up to seventeen decimal digits are tried in turn; the first grid
with a point in that interval gives the answer, and of two such points the nearer one.
-/

namespace Deprecation.Decimal

/-- The magnitude of a finite binary number, `significand * 2 ^ exponent`.  `evenBelow` holds when
the gap to the number below is as wide as the gap to the number above. -/
structure Magnitude where
  significand : Nat
  exponent : Int
  evenBelow : Bool
deriving DecidableEq, Repr

/-- A binary number taken apart. -/
inductive Parts where
  | finite (negative : Bool) (magnitude : Magnitude)
  | infinite (negative : Bool)
  | undefined
deriving DecidableEq, Repr

def Parts.ofFloat (x : Float) : Parts :=
  let bits := x.toBits.toNat
  let negative := bits / Nat.pow 2 63 == 1
  let biased : Nat := bits / Nat.pow 2 52 % Nat.pow 2 11
  let fraction : Nat := bits % Nat.pow 2 52
  if biased = 2047 then
    if fraction = 0 then .infinite negative else .undefined
  else if biased = 0 then
    .finite negative ⟨fraction, -1074, true⟩
  else
    .finite negative ⟨Nat.pow 2 52 + fraction, (biased : Int) - 1075, fraction != 0 || biased == 1⟩

/-- A decimal number, `digits * 10 ^ exponent`. -/
structure Digits where
  digits : Nat
  exponent : Int
deriving DecidableEq, Repr

/-- Which of two equally near decimals is taken. -/
inductive Tie where
  | toEven
  | up
deriving DecidableEq, Repr

/-- `numerator * 10 ^ power` for a power of either sign, as a fraction over `denominator`. -/
private def scaled (numerator denominator : Nat) (power : Int) : Nat × Nat :=
  if power < 0 then (numerator, denominator * Nat.pow 10 power.natAbs)
  else (numerator * Nat.pow 10 power.natAbs, denominator)

/-- The largest power of ten that is at most a positive fraction. -/
private def leadingPower (numerator denominator : Nat) : Int :=
  if denominator ≤ numerator then
    (Nat.toDigits 10 (numerator / denominator)).length - 1
  else
    let zeros := (Nat.toDigits 10 (denominator / numerator)).length
    let (lifted, one) := scaled numerator denominator ((zeros : Int) - 1)
    if one ≤ lifted then 1 - (zeros : Int) else -(zeros : Int)

def Digits.trimZeros : Nat → Digits → Digits
  | 0, d => d
  | fuel + 1, d =>
    if d.digits ≠ 0 ∧ d.digits % 10 = 0 then
      trimZeros fuel ⟨d.digits / 10, d.exponent + 1⟩
    else d

/-- The point of a decimal grid that stands for a magnitude, if the grid has one in the interval.
All four numbers are fractions over one denominator: the value, the ends of the interval, and the
width of the grid. -/
private def gridPoint (tie : Tie) (closed : Bool) (value low high width : Nat) : Option Nat :=
  let below := value / width
  let above := below + 1
  let belowFits := if closed then low ≤ below * width else low < below * width
  let aboveFits := if closed then above * width ≤ high else above * width < high
  if belowFits ∧ aboveFits then
    let down := value - below * width
    let up := above * width - value
    if down < up then some below
    else if up < down then some above
    else
      match tie with
      | .up => some above
      | .toEven => some (if below % 2 = 0 then below else above)
  else if belowFits then some below
  else if aboveFits then some above
  else none

/-- Tries the grids from `count` digits on. -/
private def search (tie : Tie) (closed : Bool) (value low high denominator : Nat)
    (leading : Int) : Nat → Nat → Digits
  | 0, _ => ⟨value / denominator, 0⟩
  | fuel + 1, count =>
    let unit := leading - (count : Int) + 1
    let (width, common) := scaled 1 1 unit
    match gridPoint tie closed (value * common) (low * common) (high * common)
        (width * denominator) with
    | some digits => Digits.trimZeros 20 ⟨digits, unit⟩
    | none => search tie closed value low high denominator leading fuel (count + 1)

/-- The shortest decimal in the interval of a magnitude, and zero for zero. -/
def shortest (tie : Tie) (x : Magnitude) : Digits :=
  if x.significand = 0 then ⟨0, 0⟩
  else
    -- Quarters of a unit in the last place make the ends of the interval whole.
    let power := x.exponent - 2
    let factor := if power < 0 then 1 else Nat.pow 2 power.natAbs
    let denominator := if power < 0 then Nat.pow 2 power.natAbs else 1
    let value := 4 * x.significand * factor
    let low := (4 * x.significand - if x.evenBelow then 2 else 1) * factor
    let high := (4 * x.significand + 2) * factor
    search tie (x.significand % 2 == 0) value low high denominator
      (leadingPower value denominator) 17 1

end Deprecation.Decimal
