import MotionController.Settings.Builder
import MotionController.Text.Pieces

/-!
# Reading settings lines

A line is classified by an ordered table of rules, of which the first whose pattern fits decides:
either the line is kept as literal text, or a builder makes a parameter of it. A line that no rule
fits is an error.
-/

namespace MotionController
namespace Settings

/-- One line of a settings file. -/
inductive Item where
  /-- A comment or another line that sets nothing, kept as it is. -/
  | literal (text : String)
  | parameter (parameter : Parameter)
  deriving DecidableEq, Repr

/-- The line for an item. -/
def Item.toText : Item → Except ParameterError String
  | literal text => .ok text
  | parameter p => p.toText

/-! ## The standard table -/

/-- The name spelled by these letters. -/
def named (name : String) : List NameLetter :=
  name.toList.map .exactly

/-- Any two capital letters. -/
def twoCapitals : List NameLetter :=
  [.anyCapital, .anyCapital]

/-- Patterns and builder names in order of precedence. A rule without a builder keeps its lines as
literal text. -/
def standardRules : List (LinePattern × Option String) :=
  [(.opening ["#"], none),
   (.blank, none),
   (.opening ["REM", "NO", "EN", "'"], none),
   (.setting [named "SI"] true .assigned, some "SSIQuery"),
   (.setting [twoCapitals] true .assigned, some "AxisQuery"),
   (.setting [twoCapitals] false .assigned, some "Eq"),
   (.setting [twoCapitals] false .nothing, some "Command"),
   (.setting [named "SH" ++ [.anyCapital]] false .nothing, some "Command"),
   (.setting (["LZ", "CO", "LB", "LU"].map named) false .spaced, some "Basic"),
   (.setting (["RC", "DH", "VF", "PF", "IK", "TM", "MW", "EI"].map named) false .spaced,
    some "BasicQuery"),
   (.setting (["CB", "SB"].map named) false .index, some "OutputBit"),
   (.setting [named "CW"] false .spacedNumeral, some "Basic"),
   (.setting [named "AQ"] false .indexed, some "Indexed"),
   (.setting [named "BA"] false .spaced, some "AxisMask"),
   (.setting (["SM", "IA"].map named) false .spaced, some "Network"),
   (.setting [named "CN"] false .spaced, some "Vector5")]

/-- The axes that sets of axes are read over unless others are given. -/
def defaultAxes : String :=
  "ABCDEFGH"

/-! ## Parsers -/

/-- A rule with its builder looked up. -/
structure Rule where
  pattern : LinePattern
  builder : Option Builder

/-- A row of a rule table: the pattern, by its position in the standard table, and the name of the
builder. -/
structure RuleRow where
  pattern : Nat
  builder : Option String
  deriving DecidableEq, Repr

/-- Looks a row's builder and pattern up, in that order. -/
def RuleRow.resolve (registry : Registry) (row : RuleRow) : Except SettingsError Rule := do
  -- An unknown builder is reported even if the pattern is invalid too.
  let builder ← match row.builder with
    | none => pure none
    | some name =>
        match registry.lookup name with
        | some builder => pure (some builder)
        | none => throw (SettingsError.unknownBuilder name)
  match standardRules[row.pattern]? with
  | some (pattern, _) => return ⟨pattern, builder⟩
  | none => throw .invalidPattern

/-- A reader of settings lines. -/
structure Parser where
  rules : List Rule
  axes : String := defaultAxes

namespace Parser

/-- Looks all rows of a table up; the first row that fails decides the error. -/
def resolveAll (registry : Registry) : List RuleRow → Except SettingsError (List Rule)
  | [] => .ok []
  | row :: rows => do
      let rule ← row.resolve registry
      let rules ← resolveAll registry rows
      return rule :: rules

/-- The parser of a rule table. -/
def ofTable (registry : Registry) (rows : List RuleRow) : Except SettingsError Parser :=
  (resolveAll registry rows).map fun rules => { rules }

/-- The rows of the standard table. -/
def standardRows : List RuleRow :=
  standardRules.mapIdx fun i rule => ⟨i, rule.2⟩

/-- The parser of the standard table with the given builders. -/
def ofRegistry (registry : Registry) : Except SettingsError Parser :=
  ofTable registry standardRows

/-- The parser of the standard table and the standard builders. -/
def standard : Parser where
  rules := standardRules.map fun (pattern, builder) =>
    ⟨pattern, builder.bind Registry.standard.lookup⟩

/-- The parser with other axes for sets of axes. -/
def withAxes (parser : Parser) (axes : String) : Parser :=
  { parser with axes }

/-- What the first rule that fits makes of a line. -/
def applyRules (fields : LineFields) : List Rule → Except SettingsError Item
  | [] => .error fields.malformed
  | rule :: rules =>
      match rule.pattern.parts? fields.text.toList with
      | none => applyRules fields rules
      | some parts =>
          match rule.builder with
          | none => .ok (.literal fields.text)
          | some build => (build { fields with parts }).map .parameter

/-- Classifies one line, given with its file and number. Blanks at its end do not count. -/
def parseLine (parser : Parser) (text file : String) (line : Nat) : Except SettingsError Item :=
  let trimmed := String.ofList (Text.trimEnd text.toList)
  applyRules { parts := {}, axes := parser.axes, file, line, text := trimmed } parser.rules

end Parser
end Settings
end MotionController
