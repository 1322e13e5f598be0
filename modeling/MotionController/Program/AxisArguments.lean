import MotionController.Numeric.Digits
import MotionController.Text.Pieces

/-!
# Arguments by axis

Many commands take one argument for each axis, in the order of the axes; an axis without one is left
empty, and empty places at the end are dropped. The list is built from pairs of an axis and its
argument, where an axis is a letter or a number and a later pair replaces an earlier one.
-/

namespace MotionController
namespace Program

/-- The number of axes a list of arguments can address. -/
def maxAxes : Nat :=
  8

/-- Why a list of arguments is not built. -/
inductive AxisError where
  | unknownAxis (key : String)
  | noValues
  deriving DecidableEq, Repr

/-- The report of an axis error. -/
def AxisError.message : AxisError → String
  | unknownAxis key => s!"Unknown axis: {key}"
  | noValues => "No values in the parameter list"

/-- The place of an axis letter: `A` to `H`, of which the first four are also `X`, `Y`, `Z` and `W`,
in either letter case. -/
def axisIndex? (axis : Char) : Option Nat :=
  let letter := axis.toUpper
  if 'A' ≤ letter ∧ letter ≤ 'H' then some (letter.toNat - 'A'.toNat)
  else
    match letter with
    | 'X' => some 0
    | 'Y' => some 1
    | 'Z' => some 2
    | 'W' => some 3
    | _ => none

/-- The place of an axis given by letter or number. A single letter is never a number. -/
def resolveAxis? (key : String) : Option Nat :=
  let index := match key.toList with
    -- A letter is an axis letter or nothing; a digit goes the way of longer numbers.
    | [c] => if c.isAlpha then axisIndex? c else Numeric.readUnsigned? 64 [c]
    | text => Numeric.readUnsigned? 64 text
  index.filter (· < maxAxes)

/-- Puts arguments into their places; the first unknown axis decides. -/
def placeArguments : List String → List (String × String) → Except AxisError (List String)
  | places, [] => .ok places
  | places, (key, argument) :: pairs =>
      match resolveAxis? key with
      | some index => placeArguments (places.set index argument) pairs
      | none => .error (.unknownAxis key)

/-- The places up to the last one that is not empty. -/
def dropEmptyEnd (places : List String) : List String :=
  (places.reverse.dropWhile (· == "")).reverse

/-- The list of arguments, with commas between the places. -/
def argumentList (pairs : List (String × String)) : Except AxisError String := do
  let places ← placeArguments (List.replicate maxAxes "") pairs
  match dropEmptyEnd places with
  | [] => throw .noValues
  | used => return String.ofList (Text.join ',' (used.map String.toList))

end Program
end MotionController
