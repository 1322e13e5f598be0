import MotionController.DeviceNumber
import MotionController.Text.Bytes
import MotionController.Text.Pieces

/-!
# Command texts

Writing commands for a program: a command repeated for several arguments, several commands packed
into few lines, and assignments to variables.
-/

namespace MotionController
namespace Program

/-! ## Repeated commands -/

/-- The text with the first pair of braces in it replaced. -/
def fillIn (replacement : List Char) : List Char → List Char
  | '\x7b' :: '\x7d' :: rest => replacement ++ rest
  | c :: rest => c :: fillIn replacement rest
  | [] => []

/-- The command once for each argument, which stands where the form has a pair of braces. -/
def repeatCommand (form : String) (arguments : List String) : String :=
  let filled := arguments.map fun argument => fillIn argument.toList form.toList
  String.ofList (Text.join ';' filled)

/-! ## Packed commands -/

/-- Puts commands behind `line` while line and command together stay under the limit. The semicolon
between them does not count. -/
def packBehind (limit : Nat) (line : List Char) : List (List Char) → List (List Char)
  | [] => [line]
  | command :: commands =>
      if Text.byteLength line + Text.byteLength command < limit then
        packBehind limit (line ++ ';' :: command) commands
      else
        line :: packBehind limit command commands

/-- Packs commands into lines with semicolons between them. The terminal adds two bytes to a line of
the greatest length. -/
def packCommands (commands : List String) (maxLength : Nat) : List String :=
  match commands.map String.toList with
  | [] => []
  | first :: rest => (packBehind (maxLength - 2) first rest).map String.ofList

/-! ## Assignments -/

/-- The value of a variable. -/
inductive Value where
  | number (number : DeviceNumber)
  | text (text : String)
  deriving DecidableEq, Repr

/-- A value as it is written in a program: a text stands between double quotes. -/
def Value.written : Value → String
  | number n => n.text
  | text t => "\"" ++ t ++ "\""

/-- The command that assigns a value to a variable. -/
def assignment (name : String) (value : Value) : String :=
  name ++ "=" ++ value.written

end Program
end MotionController
