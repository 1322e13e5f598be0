import MotionController.Numeric.Binary64
import MotionController.Numeric.Digits

/-!
# Reading numerals

The text of a number is an optional sign followed by decimal digits with an optional point among or
beside them and an optional power of ten, or by one of the words `inf`, `infinity`, `nan` in any
letter case. Nothing may stand around it. The value is the nearest one of the binary format.
-/

namespace MotionController
namespace Numeric

/-- A decimal number without its sign: `digits * 10^exponent`. -/
structure Decimal where
  digits : Nat
  exponent : Int
  deriving DecidableEq, Repr

/-! ## Grammar -/

/-- Splits an optional sign off a text; the flag says whether it is a minus. -/
def splitSign : List Char → Bool × List Char
  | '-' :: rest => (true, rest)
  | '+' :: rest => (false, rest)
  | text => (false, text)

/-- Reads the power of ten behind the digits of a numeral, which may be missing. -/
def readExponent? : List Char → Option Int
  | [] => some 0
  | mark :: rest =>
      if mark = 'e' ∨ mark = 'E' then
        let (negative, digits) := splitSign rest
        if digits ≠ [] ∧ digits.all Char.isDigit then
          some (Binary64.signed negative (digitsValue digits))
        else
          none
      else
        none

/-- Splits the fraction off a text that begins with a point. -/
def splitFraction : List Char → List Char × List Char
  | '.' :: rest => splitDigits rest
  | text => ([], text)

/-- Reads an unsigned decimal number. -/
def readDecimal? (text : List Char) : Option Decimal :=
  let (whole, afterWhole) := splitDigits text
  let (fraction, afterFraction) := splitFraction afterWhole
  if whole ++ fraction = [] then
    none
  else
    (readExponent? afterFraction).map fun exponent =>
      ⟨digitsValue (whole ++ fraction), exponent - fraction.length⟩

/-! ## Values -/

/-- The value nearest to a signed decimal number. A number of more than 310 digits before the point
is out of range, and one below `10^-330` is nearer to zero than to the least positive value. -/
def Decimal.toBinary64 (negative : Bool) (number : Decimal) : Binary64 :=
  -- The number of digits before the point; the exponent alone says little.
  let magnitude : Int := (decimal number.digits).length + number.exponent
  if number.digits = 0 ∨ magnitude < -330 then
    .finite negative 0
  else if 310 < magnitude then
    .infinite negative
  else
    .ofDecimal negative number.digits number.exponent

/-- Reads the words for values that are no decimal number. -/
def readWord? (negative : Bool) (text : List Char) : Option Binary64 :=
  let word := text.map Char.toLower
  if word = "inf".toList ∨ word = "infinity".toList then
    some (.infinite negative)
  else if word = "nan".toList then
    some .nan
  else
    none

/-- Reads a number. -/
def read? (text : List Char) : Option Binary64 :=
  let (negative, magnitude) := splitSign text
  match readDecimal? magnitude with
  | some number => some (number.toBinary64 negative)
  | none => readWord? negative magnitude

end Numeric
end MotionController
