import MotionController.Program.Minify

/-!
# Labels

A label is a number sign and up to seven letters, digits and underscores. A command that begins with
one defines it.
-/

namespace MotionController
namespace Program

/-- A label with its number sign. -/
abbrev Label :=
  List Char

/-- The greatest number of characters behind the number sign of a label. -/
def maxLabelLength : Nat :=
  7

/-- A character of a label name. -/
def isLabelChar (c : Char) : Bool :=
  c.isAlphanum || c == '_'

/-- The label that a command defines, if it begins with one. -/
def definedLabel? : List Char → Option Label
  | '#' :: rest =>
      match (rest.takeWhile isLabelChar).take maxLabelLength with
      | [] => none
      | name => some ('#' :: name)
  | _ => none

/-- The labels that a line defines, in order. -/
def definedLabels (line : Line) : List Label :=
  (Text.cut ';' line).filterMap definedLabel?

end Program
end MotionController
