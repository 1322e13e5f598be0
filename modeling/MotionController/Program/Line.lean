import MotionController.Text.Blank

/-!
# Program lines

A line of a program holds commands with semicolons between them. `compact` brings a line into its
short form: the comment is cut off, the blanks next to operators are dropped, and the ends are
trimmed.
-/

namespace MotionController
namespace Program

/-- A line of a program, without its line break. -/
abbrev Line :=
  List Char

/-! ## Comments -/

/-- The texts that open a comment where a command could begin. -/
def commentMarkers : List Line :=
  ["'".toList, "NO".toList, "REM".toList]

/-- A comment begins here, behind optional blanks. -/
def opensComment (text : Line) : Bool :=
  commentMarkers.any fun marker => marker.isPrefixOf (Text.trimStart text)

/-- The part of a line before the first semicolon that a comment follows. -/
def cutBehindCommands : Line → Line
  | [] => []
  | c :: rest => if c = ';' ∧ opensComment rest then [] else c :: cutBehindCommands rest

/-- The line without its comment. A comment begins at the start of the line or behind a semicolon,
which goes with it, and runs to the end of the line, past any other semicolon. -/
def cutComment (line : Line) : Line :=
  if opensComment line then [] else cutBehindCommands line

/-! ## Blanks next to operators -/

/-- Operators and punctuation. Blanks beside them are dropped, in string literals as well. -/
def operators : Line :=
  ",;=+-*/%<>()[]&|".toList

/-- The character is an operator. -/
def isOperator (c : Char) : Bool :=
  operators.contains c

/-- An operator comes next, behind optional blanks. -/
def operatorFollows (text : Line) : Bool :=
  (Text.trimStart text).head?.any isOperator

/-- Drops the blanks next to operators; the flag says that an operator stands before the text. -/
def tightenAfter : (behindOperator : Bool) → Line → Line
  | _, [] => []
  | behindOperator, c :: rest =>
      if Text.isBlank c then
        if behindOperator || operatorFollows rest then
          tightenAfter behindOperator rest
        else
          c :: tightenAfter false rest
      else
        c :: tightenAfter (isOperator c) rest

/-- The line without the blanks next to operators. -/
def tighten (line : Line) : Line :=
  tightenAfter false line

/-- The short form of a line. -/
def compact (line : Line) : Line :=
  Text.trim (tighten (cutComment line))

end Program
end MotionController
