import MotionController.Numeric.Shortest
import MotionController.Text.Blank

/-!
# Device numbers

The controller keeps four decimal digits behind the point. A device number is a real number rounded
to that precision; a whole one is kept as an integer, so that its text is the controller's (`3`, not
`3.0`). Rounding works on the exact value: `3.00005` is held a little below that and gives `3`.
-/

namespace MotionController

/-- A number at controller precision. -/
inductive DeviceNumber where
  | whole (value : Int)
  | real (value : Binary64)
  deriving DecidableEq, Repr

namespace DeviceNumber

/-- The number of decimal digits behind the point. -/
def places : Nat :=
  4

/-- The value with four decimal digits that is nearest to a number, a tie going to the even digit,
read back as a number. -/
def toPlaces : Binary64 → Binary64
  | .finite negative units =>
      let scaled := Binary64.roundQuotient (units * Nat.pow 10 places) Binary64.unitsPerOne
      .ofDecimal negative scaled (-places)
  | x => x

/-- Rounds a number to controller precision. Whole values of magnitude below `2^63` are integers. -/
def round (x : Binary64) : DeviceNumber :=
  let rounded := toPlaces x
  match rounded.toWhole? with
  | some n => .whole n
  | none => .real rounded

/-- Reads a device number off a text, which may stand between blanks. -/
def read? (text : String) : Option DeviceNumber :=
  (Numeric.read? (Text.trim text.toList)).map round

/-- The text of a device number. -/
def text : DeviceNumber → String
  | whole value => String.ofList (Numeric.decimalInt value)
  | real value => String.ofList value.text

/-- Numeric equality. A whole number never equals one kept as a real. -/
def same : DeviceNumber → DeviceNumber → Bool
  | whole a, whole b => a == b
  | real a, real b => a.same b
  | _, _ => false

end DeviceNumber
end MotionController
