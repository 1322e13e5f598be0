import MotionController.Program.Diagnostic
import MotionController.Text.JsonString

/-!
# Reports of diagnostics

Diagnostics as lines of text, or as a JSON array with two blanks of indentation for each level.
-/

namespace MotionController
namespace Program

/-- A JSON array of entries that are already indented. -/
def jsonArray (indent : String) (entries : List String) : String :=
  match entries with
  | [] => "[]"
  | _ => "[\n" ++ ",\n".intercalate entries ++ "\n" ++ indent ++ "]"

/-- The JSON string of a text. -/
def jsonText (text : String) : String :=
  String.ofList (Text.jsonString text.toList)

/-- A diagnostic as an indented JSON object. -/
def Diagnostic.json (diagnostic : Diagnostic) : String :=
  let number (line : Nat) := "      " ++ String.ofList (Numeric.decimal line)
  let fields :=
    ["    \"lines\": " ++ jsonArray "    " (diagnostic.lines.map number),
     "    \"kind\": " ++ jsonText diagnostic.finding.kind,
     "    \"message\": " ++ jsonText diagnostic.finding.message]
  "  \x7b\n" ++ ",\n".intercalate fields ++ "\n  \x7d"

/-- Diagnostics as a JSON array. -/
def jsonReport (diagnostics : List Diagnostic) : String :=
  jsonArray "" (diagnostics.map Diagnostic.json)

/-- Diagnostics as lines of text. -/
def textReport (diagnostics : List Diagnostic) : String :=
  "\n".intercalate (diagnostics.map Diagnostic.report)

end Program
end MotionController
