/-!
Digits and the numbers that they write, in bases up to sixteen.
-/

namespace Deprecation.Text

def isHexDigit (c : Char) : Bool :=
  c.isDigit || ('a' ≤ c && c ≤ 'f') || ('A' ≤ c && c ≤ 'F')

def isOctalDigit (c : Char) : Bool :=
  '0' ≤ c && c ≤ '7'

def isBinaryDigit (c : Char) : Bool :=
  c == '0' || c == '1'

def digitValue (c : Char) : Nat :=
  if c.isDigit then c.toNat - '0'.toNat else c.toLower.toNat - 'a'.toNat + 10

/-- The number that digits write in a base, the first digit being the highest. -/
def valueInBase (base : Nat) (digits : List Char) : Nat :=
  digits.foldl (fun value c => value * base + digitValue c) 0

@[simp] theorem valueInBase_nil (base : Nat) : valueInBase base [] = 0 := rfl

theorem valueInBase_concat (base : Nat) (digits : List Char) (c : Char) :
    valueInBase base (digits ++ [c]) = valueInBase base digits * base + digitValue c := by
  simp [valueInBase]

/-- The character with the code point that hexadecimal digits write, unless that is a surrogate or
out of range. -/
def scalar? (digits : List Char) : Option Char :=
  let value := valueInBase 16 digits
  if digits.all isHexDigit && (value < 0xD800 || (0xE000 ≤ value && value < 0x110000)) then
    some (Char.ofNat value)
  else none

end Deprecation.Text
