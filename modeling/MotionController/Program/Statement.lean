import MotionController.Program.Line
import MotionController.Text.Pieces

/-!
# Statements that may share a line

A simple assignment, `ENDIF` and `ELSE` are joinable: they may stand behind other commands on one
line. The target of a simple assignment is a variable or array element in lower case, or an argument
of a subroutine (`^a`, `~a`); in upper case it would be a command of the controller.
-/

namespace MotionController
namespace Program

/-! ## Simple assignments -/

/-- Splits an array index in brackets off a text, if it begins with one. An opening bracket needs
an index and a closing one. -/
def splitIndex? : Line → Option Line
  | '[' :: rest =>
      let isInside (c : Char) := c ≠ ']' && c ≠ ';'
      match rest.takeWhile isInside, rest.dropWhile isInside with
      | _ :: _, ']' :: after => some after
      | _, _ => none
  | text => some text

/-- Splits the target of a simple assignment off a text. -/
def splitTarget? : Line → Option Line
  | [] => none
  | c :: rest =>
      if c = '^' ∨ c = '~' then
        match rest with
        | letter :: after => if letter.isLower then some after else none
        | [] => none
      else if c.isLower ∧ (rest.takeWhile Char.isAlphanum).length ≤ 7 then
        splitIndex? (rest.dropWhile Char.isAlphanum)
      else
        none

/-- The text is a target, an equals sign and a value. -/
def isSimpleAssignment (text : Line) : Bool :=
  match splitTarget? text with
  | none => false
  | some after =>
      match Text.trimStart after with
      | '=' :: value => !value.isEmpty
      | _ => false

/-! ## Joinable lines -/

/-- One command that may be joined to those before it; blanks around it do not count. -/
def isJoinableCommand (command : Line) : Bool :=
  let text := Text.trimStart command
  Text.trimEnd text == "ENDIF".toList || Text.trimEnd text == "ELSE".toList ||
    isSimpleAssignment text

/-- The line without a semicolon at its start. -/
def dropLeadingSeparator : Line → Line
  | ';' :: rest => rest
  | line => line

/-- The line holds joinable commands only. An empty command is not joinable, and so neither is a
line with a semicolon at its end. -/
def isJoinable (line : Line) : Bool :=
  (Text.cut ';' (dropLeadingSeparator line)).all isJoinableCommand

/-! ## Labels -/

/-- The line is a label and nothing else. -/
def isLabelLine : Line → Bool
  | '#' :: name => !name.isEmpty && decide (name.length ≤ 7) && name.all Char.isAlphanum
  | _ => false

/-- The line begins with a label. -/
def startsWithLabel (line : Line) : Bool :=
  line.head? == some '#'

end Program
end MotionController
