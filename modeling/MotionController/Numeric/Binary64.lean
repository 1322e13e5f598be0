/-!
# Binary floating point numbers of 64 bits

A finite value is held as a whole number of *units*, the unit being the least positive value
`2^-1074`; every finite value of the format is a whole number of them. So comparing, truncating and
rounding are exact arithmetic on naturals, and each value but zero has one representation.

* `ofRatio` rounds a quotient to the nearest value of the format, a tie to the even neighbour;
* `same` is numeric equality, by which NaN differs from itself and the two zeros agree.
-/

namespace MotionController

/-- A value of the 64-bit binary format. -/
inductive Binary64 where
  | nan
  | infinite (negative : Bool)
  | finite (negative : Bool) (units : Nat)
  deriving DecidableEq, Repr

namespace Binary64

/-! ## Units -/

/-- The number of units in one. -/
def unitsPerOne : Nat :=
  Nat.pow 2 1074

/-- The least number of units that is out of range. -/
def unitsLimit : Nat :=
  Nat.pow 2 2098

/-- The distance between neighbouring values at a magnitude: a value has 53 significant bits. -/
def spacing (units : Nat) : Nat :=
  Nat.pow 2 (units.log2 - 52)

/-- The value whose bit pattern in the interchange format is `bits`. -/
def ofBits (bits : Nat) : Binary64 :=
  let negative := decide (bits / Nat.pow 2 63 % 2 = 1)
  let exponent := bits / Nat.pow 2 52 % Nat.pow 2 11
  let fraction := bits % Nat.pow 2 52
  if exponent = 2047 then
    if fraction = 0 then infinite negative else nan
  else if exponent = 0 then
    finite negative fraction
  else
    finite negative ((Nat.pow 2 52 + fraction) * Nat.pow 2 (exponent - 1))

/-! ## Rounding -/

/-- The whole number nearest to `num / den`, a tie going to the even one. -/
def roundQuotient (num den : Nat) : Nat :=
  let quotient := num / den
  match compare (2 * (num % den)) den with
  | .lt => quotient
  | .gt => quotient + 1
  | .eq => if quotient % 2 = 0 then quotient else quotient + 1

/-- The value nearest to `num / den` units. -/
def ofRatio (negative : Bool) (num den : Nat) : Binary64 :=
  let step := spacing (num / den)
  let units := roundQuotient num (den * step) * step
  if units < unitsLimit then finite negative units else infinite negative

/-- The value nearest to `digits * 10^exponent`. -/
def ofDecimal (negative : Bool) (digits : Nat) (exponent : Int) : Binary64 :=
  ofRatio negative (digits * Nat.pow 10 exponent.toNat * unitsPerOne)
    (Nat.pow 10 (-exponent).toNat)

/-! ## Comparisons -/

/-- Numeric equality: NaN equals nothing, and the two zeros are equal. -/
def same : Binary64 → Binary64 → Bool
  | infinite s, infinite t => s == t
  | finite s m, finite t n => m == n && (s == t || m == 0)
  | _, _ => false

/-- The number is not equal to zero; NaN counts as such. -/
def isNonzero : Binary64 → Bool
  | finite _ units => units != 0
  | _ => true

/-- The whole part of the number is not zero; a number that has no whole part counts as such. -/
def hasWholePart : Binary64 → Bool
  | finite _ units => decide (unitsPerOne ≤ units)
  | _ => true

/-! ## Whole numbers -/

/-- The least magnitude that is out of range for positive words of 64 bits with a sign. -/
def wordLimit : Nat :=
  Nat.pow 2 63

/-- A magnitude with a sign. -/
def signed (negative : Bool) (magnitude : Nat) : Int :=
  if negative then -(magnitude : Int) else magnitude

/-- The whole number that the value is, when it is one of magnitude below `2^63`. -/
def toWhole? : Binary64 → Option Int
  | finite negative units =>
      if units % unitsPerOne = 0 ∧ units / unitsPerOne < wordLimit then
        some (signed negative (units / unitsPerOne))
      else
        none
  | _ => none

/-- The nearest whole number, a half going away from zero, clamped to the signed 64-bit range.
NaN gives zero. -/
def roundToWord : Binary64 → Int
  | nan => 0
  | infinite true => -(wordLimit : Int)
  | infinite false => (wordLimit : Int) - 1
  | finite negative units =>
      let nearest := signed negative ((2 * units + unitsPerOne) / (2 * unitsPerOne))
      max (-(wordLimit : Int)) (min nearest ((wordLimit : Int) - 1))

end Binary64
end MotionController
