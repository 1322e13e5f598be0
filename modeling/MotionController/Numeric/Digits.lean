/-!
# Decimal digits of natural numbers

Writing a natural number in decimal and reading one back. Readers take ASCII digits only.
-/

namespace MotionController
namespace Numeric

/-- The decimal digits of a number, without leading zeros. -/
def decimal (n : Nat) : List Char :=
  Nat.toDigits 10 n

/-- The decimal digits of an integer, behind a minus sign when it is negative. -/
def decimalInt : Int → List Char
  | .ofNat n => decimal n
  | .negSucc n => '-' :: decimal (n + 1)

/-- The number that a run of decimal digits denotes. -/
def digitsValue (digits : List Char) : Nat :=
  digits.foldl (fun value c => 10 * value + (c.toNat - '0'.toNat)) 0

/-- Splits a text behind its leading decimal digits. -/
def splitDigits (text : List Char) : List Char × List Char :=
  (text.takeWhile Char.isDigit, text.dropWhile Char.isDigit)

/-- Reads an unsigned number below `2^width`: decimal digits, at least one, with an optional plus
sign in front of them. -/
def readUnsigned? (width : Nat) (text : List Char) : Option Nat :=
  let digits := match text with
    | '+' :: rest => rest
    | _ => text
  if digits ≠ [] ∧ digits.all Char.isDigit ∧ digitsValue digits < Nat.pow 2 width then
    some (digitsValue digits)
  else
    none

end Numeric
end MotionController
