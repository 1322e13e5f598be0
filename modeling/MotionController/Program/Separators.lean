import MotionController.Text.Blank
import MotionController.Text.Pieces

/-!
# Redundant separators

Templates easily leave empty commands behind, which the controller mistakes. `collapseSemicolons`
removes each semicolon that is followed, behind optional blanks, by another one; line breaks count
as blanks. `trimLines` drops blank lines and the blanks around the others.
-/

namespace MotionController
namespace Program

/-- A semicolon comes next, behind optional blanks. -/
def semicolonFollows (text : List Char) : Bool :=
  (Text.trimStart text).head? == some ';'

/-- The text without the semicolons that another one follows. -/
def collapseSemicolons : List Char → List Char
  | [] => []
  | c :: rest =>
      if c = ';' ∧ semicolonFollows rest then
        collapseSemicolons rest
      else
        c :: collapseSemicolons rest

/-- The line without one semicolon at its end. -/
def dropTrailingSeparator (line : List Char) : List Char :=
  if line.getLast? = some ';' then line.dropLast else line

/-- Clears a rendered template of the semicolons that another one follows. -/
def prepare (rendered : String) : String :=
  String.ofList (collapseSemicolons rendered.toList)

/-- The trimmed lines of a text, without blank ones. -/
def trimLines (content : String) : String :=
  let trimmed := (Text.cut '\n' content.toList).map Text.trim
  String.ofList (Text.join '\n' (trimmed.filter fun line => !line.isEmpty))

end Program
end MotionController
