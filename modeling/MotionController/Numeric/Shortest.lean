import MotionController.Numeric.Numeral

/-!
# Writing numbers

A number is written with the fewest decimal digits that read back to it, positionally and without an
exponent; a whole number has no point. Of two equally short candidates the nearer one is written,
and of two equally near ones the larger.
-/

namespace MotionController
namespace Numeric

/-! ## Positional layout -/

/-- The digits filled up with zeros on the left to the given width. -/
def padZeros (width : Nat) (digits : List Char) : List Char :=
  List.replicate (width - digits.length) '0' ++ digits

/-- A decimal number written out without an exponent. -/
def Decimal.positional (number : Decimal) : List Char :=
  if 0 ≤ number.exponent then
    decimal (number.digits * Nat.pow 10 number.exponent.toNat)
  else
    let places := (-number.exponent).toNat
    let unit := Nat.pow 10 places
    decimal (number.digits / unit) ++ '.' :: padZeros places (decimal (number.digits % unit))

/-- Moves trailing zeros of the digits into the exponent, at most `fuel` of them. -/
def Decimal.stripZeros (number : Decimal) : (fuel : Nat) → Decimal
  | 0 => number
  | fuel + 1 =>
      if number.digits ≠ 0 ∧ number.digits % 10 = 0 then
        Decimal.stripZeros ⟨number.digits / 10, number.exponent + 1⟩ fuel
      else
        number

/-! ## Selecting the digits -/

/-- Twice the number of units of the halfway points to the neighbours of a positive value. The value
below a power of two is half as far away as the one above, down to the least spacing. -/
def halfways (units : Nat) : Nat × Nat :=
  let step := Binary64.spacing units
  let below := if units = Nat.pow 2 52 * step ∧ 1 < step then step / 2 else step
  (2 * units - below, 2 * units + step)

/-- The value's significand is even, so that both halfway points round to it. -/
def isEvenAt (units : Nat) : Bool :=
  units / Binary64.spacing units % 2 = 0

/-- The decimal number `digits * 10^exponent` rounds to the value of that many units. -/
def readsBack (units digits : Nat) (exponent : Int) : Bool :=
  let (low, high) := halfways units
  let candidate := 2 * digits * Nat.pow 10 exponent.toNat * Binary64.unitsPerOne
  let scale := Nat.pow 10 (-exponent).toNat
  if isEvenAt units then
    low * scale ≤ candidate && candidate ≤ high * scale
  else
    low * scale < candidate && candidate < high * scale

/-- The multiple of `10^exponent` next to a value that reads back to it, if one of the two
neighbours does: the nearer one, of two equally near ones the larger. -/
def nearestOnGrid? (units : Nat) (exponent : Int) : Option Decimal :=
  let num := units * Nat.pow 10 (-exponent).toNat
  let den := Nat.pow 10 exponent.toNat * Binary64.unitsPerOne
  -- The value lies between the multiples `below` and `below + 1`.
  let below := num / den
  let upper := decide (den ≤ 2 * (num % den))
  match readsBack units below exponent, readsBack units (below + 1) exponent with
  | true, true => some ⟨if upper then below + 1 else below, exponent⟩
  | true, false => some ⟨below, exponent⟩
  | false, true => some ⟨below + 1, exponent⟩
  | false, false => none

/-- The least `k` with the value below `10^k`, for a positive value. -/
def decimalScale (units : Nat) : Int :=
  let whole := units / Binary64.unitsPerOne
  if whole ≠ 0 then
    (decimal whole).length
  else
    let isPast (k : Nat) := decide (Binary64.unitsPerOne ≤ units * Nat.pow 10 (k + 1))
    Int.negOfNat (((List.range 324).find? isPast).getD 323)

/-- The decimal expansion of a value, digit for digit. -/
def exactDecimal (units : Nat) : Decimal :=
  ⟨units * Nat.pow 5 1074, -1074⟩

/-- The fewest digits that read back to a positive value. Seventeen digits always do. -/
def shortest (units : Nat) : Decimal :=
  let scale := decimalScale units
  let found := (List.range 17).findSome? fun (n : Nat) => nearestOnGrid? units (scale - n - 1)
  (found.getD (exactDecimal units)).stripZeros 1100

end Numeric

/-! ## Text of a number -/

/-- The text of a number. -/
def Binary64.text : Binary64 → List Char
  | nan => "NaN".toList
  | infinite negative => (if negative then ['-'] else []) ++ "inf".toList
  | finite negative units =>
      (if negative then ['-'] else []) ++
        if units = 0 then ['0'] else (Numeric.shortest units).positional

end MotionController
