import MotionController.Numeric.Digits
import MotionController.Program.Call

/-!
# Diagnostics

What the linter may find in a program, with the lines it was found on.
-/

namespace MotionController
namespace Program

/-- Something suspicious in a program. -/
inductive Finding where
  /-- A template value is missing. -/
  | undefinedValue (line : Line)
  | longLine (line : Line)
  /-- An operator of other languages. -/
  | badOperator (line : Line)
  | duplicateLabel (label : Label) (first : Nat)
  /-- A call with another number of arguments than the first call of the label. -/
  | inconsistentArity (label : Label) (expected first found : Nat)
  /-- A call inside the arguments of a call. -/
  | nestedSubroutineCall (line : Line)
  /-- A calculation in the arguments of a call. -/
  | dangerousArgument (line : Line)
  /-- A text that does not fit a controller variable. -/
  | longString (literal : List Char) (command : Line)
  | undefinedLabel (label : Label)
  | unusedLabel (label : Label)
  /-- A jump under a condition that the jump could state itself. -/
  | conditionalJump (jump : List Char)
  deriving DecidableEq, Repr

namespace Finding

/-- The name of the kind of a finding. -/
def kind : Finding → String
  | undefinedValue .. => "undefined_value"
  | longLine .. => "long_line"
  | badOperator .. => "bad_operator"
  | duplicateLabel .. => "duplicate_label"
  | inconsistentArity .. => "inconsistent_arity"
  | nestedSubroutineCall .. => "nested_subroutine_call"
  | dangerousArgument .. => "dangerous_argument"
  | longString .. => "long_string"
  | undefinedLabel .. => "undefined_label"
  | unusedLabel .. => "unused_label"
  | conditionalJump .. => "conditional_jump"

/-- The finding is reported only when warnings are asked for. -/
def isWarning : Finding → Bool
  | unusedLabel .. | conditionalJump .. => true
  | _ => false

/-- The text of characters. -/
def textOf (characters : List Char) : String :=
  String.ofList characters

/-- What a finding says. -/
def message : Finding → String
  | undefinedValue line => "Contains 'None', check template vars: " ++ textOf line
  | longLine line => "Line too long: " ++ textOf line
  | badOperator line => "bad operator: " ++ textOf line
  | duplicateLabel label first =>
      s!"Duplicate label: {textOf label} (first defined on line {first})"
  | inconsistentArity label expected first found =>
      s!"inconsistent sub arity for {textOf label}. Was {expected} (line {first}) now {found}"
  | nestedSubroutineCall line => "_JS used in subroutine argument: " ++ textOf line
  | dangerousArgument line =>
      "Dangerous value (calculation) used in argument: " ++ textOf line
  | longString literal command =>
      s!"Long string '{textOf literal}' in command: {textOf command}"
  | undefinedLabel label =>
      s!"J[SP]{textOf label} found but label {textOf label} not defined"
  | unusedLabel label => s!"Label {textOf label} defined but never used"
  | conditionalJump jump =>
      s!"IF(...);{textOf jump} better written as {textOf jump},(...)"

/-- The finding is reported with all the lines it was found on. -/
def isOnManyLines : Finding → Bool
  | undefinedLabel .. => true
  | _ => false

end Finding

/-- A finding with the lines it was found on; none for one about the program as a whole. -/
structure Diagnostic where
  lines : List Nat
  finding : Finding
  deriving DecidableEq, Repr

namespace Diagnostic

/-- The diagnostic of a finding on one line. -/
def single (line : Nat) (finding : Finding) : Diagnostic :=
  ⟨[line], finding⟩

/-- Line numbers with commas between them. -/
def lineList (lines : List Nat) : String :=
  ", ".intercalate (lines.map fun line => String.ofList (Numeric.decimal line))

/-- The report of a diagnostic. -/
def report (diagnostic : Diagnostic) : String :=
  let message := diagnostic.finding.message
  match diagnostic.lines, diagnostic.finding.isOnManyLines with
  | [], _ => message
  | [line], false => s!"line {lineList [line]}, {message}"
  | lines, _ => s!"line(s) {lineList lines}, {message}"

end Diagnostic
end Program
end MotionController
