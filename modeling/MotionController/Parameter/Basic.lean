import MotionController.Channel
import MotionController.Numeric.Shortest
import MotionController.Parameter.Kind

/-!
# Parameters

A parameter is one named controller setting: its kind and name say which commands read and write
it, and it may carry a value on file. The commands do not depend on that value.
-/

namespace MotionController

/-- Where a parameter was read from. -/
structure Source where
  file : String
  line : Nat
  deriving DecidableEq, Repr

/-- One named controller setting. -/
structure Parameter where
  kind : ParameterKind
  name : String
  /-- The value on file: parsed, last set, or last read with refresh. -/
  value : Option String := none
  /-- The axes that a set of axes is read over. -/
  axes : Option String := none
  source : Option Source := none
  deriving DecidableEq, Repr

/-- Why a parameter was not written or rendered. -/
inductive ParameterError where
  | noValue (name : String) (kind : ParameterKind)
  | invalidValue (name value : String)
  | device (error : DeviceError)
  deriving DecidableEq, Repr

/-- The report of a parameter error. -/
def ParameterError.message : ParameterError → String
  | noValue name kind => s!"Value not defined for parameter {name} of type {kind.label}"
  | invalidValue name value => s!"Invalid value '{value}' for parameter {name}"
  | device error => error.message

namespace Parameter

/-! ## Construction -/

/-- The value that a parameter has before one is given: a command's is one, an output bit's is its
state after the command that names it. -/
def initialValue (kind : ParameterKind) (name : String) : Option String :=
  match kind with
  | .command => some "1"
  | .outputBit _ => some (if name = "SB" then "1" else "0")
  | _ => none

/-- A parameter with its kind's initial value. -/
def ofKind (kind : ParameterKind) (name : String) : Parameter :=
  { kind, name, value := initialValue kind name }

/-- The parameter with a value on file. A command's value stays as it is. -/
def withValue (parameter : Parameter) (value : String) : Parameter :=
  if parameter.kind = .command then parameter else { parameter with value := some value }

/-- The parameter with the axes that a set of axes is read over. -/
def withAxes (parameter : Parameter) (axes : String) : Parameter :=
  { parameter with axes := some axes }

/-- The parameter with the place it was read from. -/
def withSource (parameter : Parameter) (file : String) (line : Nat) : Parameter :=
  { parameter with source := some ⟨file, line⟩ }

/-! ## Commands -/

/-- A natural number in decimal. -/
def numeral (n : Nat) : String :=
  String.ofList (Numeric.decimal n)

/-- The command stem: the name, and the axis letter for the kinds that have one. -/
def mnemonic (parameter : Parameter) : String :=
  match parameter.kind with
  | .axis axis | .axisQuery axis | .ssiQuery axis => parameter.name.push axis
  | _ => parameter.name

/-- One numeric question out of several that make up a reading. -/
structure Probe where
  /-- The axis or position asked for. -/
  label : String
  command : String
  deriving DecidableEq, Repr

/-- How a parameter is read. -/
inductive ReadPlan where
  | single (command : String)
  | probes (questions : List Probe)
  deriving DecidableEq, Repr

/-- The commands of a plan, in order. -/
def ReadPlan.commands : ReadPlan → List String
  | single command => [command]
  | probes questions => questions.map (·.command)

/-- The question for one axis or position of a parameter. -/
def probe (parameter : Parameter) (label : String) : Probe :=
  ⟨label, "MG_" ++ parameter.name ++ label⟩

/-- How the parameter is read. -/
def readPlan (parameter : Parameter) : ReadPlan :=
  match parameter.kind with
  | .command => .single "MG1"
  | .basic | .assigned | .axis _ => .single ("MG_" ++ parameter.mnemonic)
  | .basicQuery => .single (parameter.mnemonic ++ " ?")
  | .axisQuery _ | .ssiQuery _ => .single (parameter.mnemonic ++ "=?")
  | .axisMask =>
      let axes := (parameter.axes.getD "").toList
      .probes (axes.map fun axis => parameter.probe (String.singleton axis))
  | .vector length => .probes ((List.range length).map fun i => parameter.probe (numeral i))
  | .network => .single ("MG_" ++ parameter.name ++ "0")
  | .indexed index => .single ("MG_" ++ parameter.name ++ numeral index)
  | .outputBit index => .single ("MG@OUT[" ++ numeral index ++ "]")

/-- The command that reads the parameter, when a single one does. -/
def readCommand? (parameter : Parameter) : Option String :=
  match parameter.readPlan with
  | .single command => some command
  | .probes _ => none

/-- The command that writes `value`. An output bit is set when its value has a whole part. -/
def writeCommand (parameter : Parameter) (value : String) : Except ParameterError String :=
  match parameter.kind with
  | .command => .ok parameter.mnemonic
  | .basic | .basicQuery | .axisMask | .vector _ | .network =>
      .ok (parameter.mnemonic ++ " " ++ value)
  | .assigned | .axis _ | .axisQuery _ | .ssiQuery _ => .ok (parameter.mnemonic ++ "=" ++ value)
  | .indexed index => .ok (parameter.name ++ " " ++ numeral index ++ "," ++ value)
  | .outputBit index =>
      match Numeric.read? (Text.trim value.toList) with
      | some level => .ok ((if level.hasWholePart then "SB" else "CB") ++ numeral index)
      | none => .error (.invalidValue parameter.name value)

/-- The line of a settings file for the parameter: the command that writes its value. -/
def toText (parameter : Parameter) : Except ParameterError String :=
  match parameter.value with
  | some value => parameter.writeCommand value
  | none => .error (.noValue parameter.name parameter.kind)

end Parameter
end MotionController
