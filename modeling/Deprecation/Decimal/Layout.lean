import Deprecation.Decimal.Shortest

/-!
How a number is written once its shortest digits are known: positional near one, with an exponent
far from it, and always with a mark that tells it from an integer.
-/

namespace Deprecation.Decimal

/-- Where positional notation is used, and how ties between digits go.  The bounds are on the
number of digits before the decimal point, which is negative or zero for small numbers. -/
structure Layout where
  above : Option Int
  upTo : Option Int
  tie : Tie
deriving DecidableEq, Repr

namespace Layout

/-- Positional for every magnitude; of two equally near digit strings the larger one. -/
def positional : Layout := ⟨none, none, .up⟩

/-- Positional from `1e-5` to below `1e16`; of two equally near digit strings the even one. -/
def mixed : Layout := ⟨some (-5), some 16, .toEven⟩

def isPositional (layout : Layout) (point : Int) : Bool :=
  layout.above.all (· < point) && layout.upTo.all (point ≤ ·)

end Layout

/-- Digits in positional notation, with at least one digit on each side of the point. -/
def positionalText (digits : List Char) (exponent : Int) : List Char :=
  let point := (digits.length : Int) + exponent
  if 0 ≤ exponent then
    digits ++ List.replicate exponent.natAbs '0' ++ ['.', '0']
  else if 0 < point then
    digits.take point.natAbs ++ '.' :: digits.drop point.natAbs
  else
    ['0', '.'] ++ List.replicate point.natAbs '0' ++ digits

/-- Digits in scientific notation, with one digit before the point and a sign before the exponent,
a plus or a minus. -/
def scientificText (digits : List Char) (exponent : Int) : List Char :=
  let power := (digits.length : Int) + exponent - 1
  digits.take 1 ++ (if digits.length ≤ 1 then [] else '.' :: digits.drop 1) ++
    'e' :: (if power < 0 then '-' else '+') :: Nat.toDigits 10 power.natAbs

def text (layout : Layout) (x : Float) : String :=
  match Parts.ofFloat x with
  | .undefined => "NaN"
  | .infinite negative => if negative then "-inf" else "inf"
  | .finite negative magnitude =>
    let shortest := shortest layout.tie magnitude
    let digits := Nat.toDigits 10 shortest.digits
    let point := (digits.length : Int) + shortest.exponent
    let body :=
      if layout.isPositional point then positionalText digits shortest.exponent
      else scientificText digits shortest.exponent
    String.ofList (if negative then '-' :: body else body)

end Deprecation.Decimal
