import MotionController.Program.Separators
import MotionController.Program.Statement
import MotionController.Text.Bytes

/-!
# Minification

The memory of a controller is counted in program lines. Minification brings every line into its
short form and then packs lines together while the result stays shorter than the line limit:

* a joinable line goes behind the line before it (`merge`);
* a line that is only a label takes the following line, and a bare `EN` after it (`squash`);
* of several semicolons in a row the last one stays, and one at the end of the line goes (`tidy`).

Dropping a semicolon at the end of a line can make the line joinable, so the passes are repeated
until one changes nothing. Lengths are in bytes.
-/

namespace MotionController
namespace Program

/-- The line limit of most controllers. -/
def defaultLineLimit : Nat :=
  79

/-- The bare command that ends a routine. -/
def endCommand : Line :=
  "EN".toList

/-! ## One pass -/

/-- The short forms of the lines, without the empty ones. -/
def compactAll (lines : List Line) : List Line :=
  (lines.map compact).filter fun line => !line.isEmpty

/-- Two lines stay under the limit when packed together. -/
def fits (limit : Nat) (line next : Line) : Bool :=
  decide (Text.byteLength line + 1 + Text.byteLength next < limit)

/-- Puts joinable lines behind `line` as long as they fit, and goes on with the next line. -/
def mergeBehind (limit : Nat) (line : Line) : List Line → List Line
  | [] => [line]
  | next :: rest =>
      if isJoinable next && fits limit line next then
        mergeBehind limit (line ++ ';' :: next) rest
      else
        line :: mergeBehind limit next rest

/-- Packs joinable lines behind the lines before them. -/
def merge (limit : Nat) : List Line → List Line
  | [] => []
  | line :: rest => mergeBehind limit line rest

/-- A line that is only a label takes the line after it. -/
def takesNext (limit : Nat) (line next : Line) : Bool :=
  isLabelLine line && !startsWithLabel next && fits limit line next

/-- Packs lines that are only a label with the line after them, and with a bare `EN` behind that. -/
def squash (limit : Nat) : List Line → List Line
  | [] => []
  | [line] => [line]
  | line :: next :: rest =>
      if takesNext limit line next then
        -- Only a bare `EN` may come along, and only with the line behind a label.
        let packed := line ++ ';' :: next
        match rest with
        | [] => [packed]
        | after :: others =>
            if after == endCommand && fits limit packed after then
              (packed ++ ';' :: after) :: squash limit others
            else
              packed :: squash limit (after :: others)
      else
        line :: squash limit (next :: rest)

/-- A line without the semicolons that another one follows, and without one at its end. -/
def tidy (line : Line) : Line :=
  dropTrailingSeparator (collapseSemicolons line)

/-- The tidy lines, without those of which nothing is left. -/
def tidyAll (lines : List Line) : List Line :=
  (lines.map tidy).filter fun line => !line.isEmpty

/-- One pass over the lines of a program. -/
def pass (limit : Nat) (lines : List Line) : List Line :=
  tidyAll (squash limit (merge limit (compactAll lines)))

/-! ## Passes until nothing changes -/

/-- Repeats the pass until it changes nothing, at most `fuel` times. -/
def settle (limit : Nat) : (fuel : Nat) → List Line → List Line
  | 0, lines => lines
  | fuel + 1, lines =>
      let next := pass limit lines
      if next = lines then lines else settle limit fuel next

/-- The packed lines of a program: those of a first pass, and of further ones until nothing changes,
at most one more than the first pass left lines. -/
def minifyLines (limit : Nat) (lines : List Line) : List Line :=
  let packed := pass limit lines
  settle limit (packed.length + 1) packed

/-- The packed lines of a program text. -/
def minified (limit : Nat) (content : String) : List Line :=
  minifyLines limit (Text.cut '\n' content.toList)

/-- The text of program lines. -/
def textOfLines (lines : List Line) : String :=
  String.ofList (Text.join '\n' lines)

/-- The text of a program, minified. -/
def minify (limit : Nat) (content : String) : String :=
  textOfLines (minified limit content)

/-! ## Overlong lines -/

/-- The line is longer than the limit. -/
def isOverlong (limit : Nat) (line : Line) : Bool :=
  decide (limit < Text.byteLength line)

/-- Things with their places in a list, counted from one. -/
def numbered {α : Type} (things : List α) : List (Nat × α) :=
  things.mapIdx fun i thing => (i + 1, thing)

/-- The numbers of the lines that are longer than the limit. -/
def overlong (limit : Nat) (lines : List Line) : List Nat :=
  ((numbered lines).filter fun line => isOverlong limit line.2).map (·.1)

end Program
end MotionController
