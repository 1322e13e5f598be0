import MotionController.Config.TomlReader
import MotionController.Program.Minify
import MotionController.Settings.Parser

/-!
# The configuration

What the command line takes from its configuration file. Every entry has a default, and entries of
other names do not count.
-/

namespace MotionController

/-- The configuration of the command line. -/
structure Configuration where
  /-- The line limit of programs. -/
  lineLimit : Nat := Program.defaultLineLimit
  /-- The linter reports warnings too. -/
  warnings : Bool := false
  /-- The axes that sets of axes are read over. -/
  axes : String := Settings.defaultAxes
  deriving DecidableEq, Repr

namespace Configuration

/-- The entries of a table with the given fields, none if there is no such table. The values of an
array are those of the fields in order, and a date has no fields. Another value is an error. -/
def entriesOf? (root : Toml.Entries) (name : String) (fields : List String) : Option Toml.Entries :=
  match root.lookup name with
  | none | some .date => some []
  | some (.table _ entries) | some (.closed entries) => some entries
  | some (.array items) => some (fields.zip items)
  | some _ => none

/-- The line limit in the program table: an unsigned integer. -/
def lineLimitOf? (entries : Toml.Entries) : Option Nat :=
  match entries.lookup "line_length" with
  | none => some Program.defaultLineLimit
  | some (.integer n) => if 0 ≤ n then some n.toNat else none
  | some _ => none

/-- The switch for warnings in the program table: a boolean. -/
def warningsOf? (entries : Toml.Entries) : Option Bool :=
  match entries.lookup "warnings" with
  | none => some false
  | some (.boolean value) => some value
  | some _ => none

/-- The axes in the settings table: a string. -/
def axesOf? (entries : Toml.Entries) : Option String :=
  match entries.lookup "axes" with
  | none => some Settings.defaultAxes
  | some (.text value) => some value
  | some _ => none

/-- Reads a configuration file. -/
def read? (content : String) : Option Configuration := do
  let root ← Toml.read? content
  let program ← entriesOf? root "source" ["line_length", "warnings"]
  let lineLimit ← lineLimitOf? program
  let warnings ← warningsOf? program
  let settings ← entriesOf? root "settings" ["axes"]
  let axes ← axesOf? settings
  return { lineLimit, warnings, axes }

end Configuration
end MotionController
