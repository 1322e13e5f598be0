import MotionController.Numeric.Digits
import MotionController.Parameter.Basic
import MotionController.Settings.Pattern

/-!
# Builders

A builder makes a parameter of what a settings line says. Builders are registered under names, by
which rule tables refer to them; registering a name again replaces its builder.
-/

namespace MotionController

/-- Why settings are not read. -/
inductive SettingsError where
  | malformed (file : String) (line : Nat) (text : String)
  | unknownBuilder (name : String)
  | invalidPattern
  deriving DecidableEq, Repr

/-- The report of a settings error. -/
def SettingsError.message : SettingsError → String
  | malformed file line text => s!"Unparsable setting in {file} line {line}: '{text}'"
  | unknownBuilder name => s!"No builder registered under '{name}'"
  | invalidPattern => "Invalid rule pattern"

namespace Settings

/-! ## Lines -/

/-- What a builder knows about a line: its parts, its text and place, and the axes that sets of axes
are read over. -/
structure LineFields where
  parts : LineParts
  axes : String
  file : String
  line : Nat
  text : String
  deriving DecidableEq, Repr

namespace LineFields

/-- The error for a line that does not suit its builder. -/
def malformed (fields : LineFields) : SettingsError :=
  .malformed fields.file fields.line fields.text

/-- The axis letter of the line. -/
def requireAxis (fields : LineFields) : Except SettingsError Char :=
  match fields.parts.axis with
  | some axis => .ok axis
  | none => .error fields.malformed

/-- The index of the line, an unsigned number of 32 bits. -/
def requireIndex (fields : LineFields) : Except SettingsError Nat :=
  match fields.parts.index.bind fun index => Numeric.readUnsigned? 32 index.toList with
  | some index => .ok index
  | none => .error fields.malformed

/-- The parameter of a kind that the line sets. -/
def parameter (fields : LineFields) (kind : ParameterKind) : Parameter :=
  let bare := Parameter.ofKind kind fields.parts.name
  let placed := (bare.withAxes fields.axes).withSource fields.file fields.line
  match fields.parts.value with
  | some value => placed.withValue value
  | none => placed

end LineFields

/-! ## Registries -/

/-- Makes a parameter of a line. -/
abbrev Builder :=
  LineFields → Except SettingsError Parameter

/-- The builder of parameters of a fixed kind. -/
def buildKind (kind : ParameterKind) : Builder :=
  fun fields => .ok (fields.parameter kind)

/-- The builder of parameters of a kind that has an axis. -/
def buildAxis (kind : Char → ParameterKind) : Builder :=
  fun fields => fields.requireAxis.map fun axis => fields.parameter (kind axis)

/-- The builder of parameters of a kind that has an index. -/
def buildIndex (kind : Nat → ParameterKind) : Builder :=
  fun fields => fields.requireIndex.map fun index => fields.parameter (kind index)

/-- Builders by name. -/
structure Registry where
  entries : List (String × Builder)

namespace Registry

/-- No builders. -/
def empty : Registry :=
  ⟨[]⟩

/-- The builder registered under `name`. -/
def lookup (registry : Registry) (name : String) : Option Builder :=
  (registry.entries.find? fun entry => entry.1 == name).map (·.2)

/-- Registers `builder` under `name`; the builder it replaces is what was looked up there before. -/
def register (registry : Registry) (name : String) (builder : Builder) : Registry :=
  if (registry.lookup name).isSome then
    ⟨registry.entries.map fun entry => if entry.1 == name then (name, builder) else entry⟩
  else
    ⟨registry.entries ++ [(name, builder)]⟩

/-- The builders of all kinds. -/
def standard : Registry :=
  ⟨[("Command", buildKind .command),
    ("Basic", buildKind .basic),
    ("BasicQuery", buildKind .basicQuery),
    ("Eq", buildKind .assigned),
    ("Axis", buildAxis .axis),
    ("AxisQuery", buildAxis .axisQuery),
    ("SSIQuery", buildAxis .ssiQuery),
    ("AxisMask", buildKind .axisMask),
    ("Vector5", buildKind (.vector 5)),
    ("Network", buildKind .network),
    ("Indexed", buildIndex .indexed),
    ("OutputBit", buildIndex .outputBit)]⟩

end Registry
end Settings
end MotionController
