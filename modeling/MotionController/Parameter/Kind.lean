/-!
# Kinds of parameters

The shape in which a setting is written to a controller and read back from it.
-/

namespace MotionController

/-- The shape of a setting on the wire. -/
inductive ParameterKind where
  /-- A bare command (`MO`, `SHA`). -/
  | command
  /-- Written `NAME value`, read with `MG_NAME`. -/
  | basic
  /-- Written `NAME value`, read with `NAME ?`. -/
  | basicQuery
  /-- Written `NAME=value`, read with `MG_NAME`. -/
  | assigned
  /-- Written `NAMEa=value` for the axis `a`, read with `MG_NAMEa`. -/
  | axis (axis : Char)
  /-- Written `NAMEa=value`, read with `NAMEa=?`. -/
  | axisQuery (axis : Char)
  /-- The setup of a serial encoder, read with `SIa=?`. -/
  | ssiQuery (axis : Char)
  /-- A set of axes (`BA ACD`), read axis by axis. -/
  | axisMask
  /-- A list of numbers (`CN 1,-1,-1,0,1`), read number by number. -/
  | vector (length : Nat)
  /-- A packed address or mask (`IA 10,10,10,2`). -/
  | network
  /-- Written `NAME index,value` (`AQ 1,2`). -/
  | indexed (index : Nat)
  /-- A digital output, set by `SBn` and cleared by `CBn`. -/
  | outputBit (index : Nat)
  deriving DecidableEq, Repr

/-- The name of a kind in reports. -/
def ParameterKind.label : ParameterKind → String
  | command => "Command"
  | basic => "Basic"
  | basicQuery => "BasicQuery"
  | assigned => "Eq"
  | axis _ => "Axis"
  | axisQuery _ => "AxisQuery"
  | ssiQuery _ => "SSIQuery"
  | axisMask => "AxisMask"
  | vector _ => "Vector"
  | network => "Network"
  | indexed _ => "Indexed"
  | outputBit _ => "OutputBit"

end MotionController
