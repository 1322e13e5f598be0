import MotionController.Text.Blank
import MotionController.Text.DecimalDigit

/-!
# Patterns of settings lines

A line of a settings file begins, behind optional blanks, with a command name. What follows the
name depends on the command: nothing, an axis letter, a value behind an equals sign or a blank, an
index, or an index and a value. A pattern names one such form, and `parts?` takes a line of that
form apart. Comments are recognized by how they open.
-/

namespace MotionController
namespace Settings

/-! ## Forms -/

/-- One letter of a command name. -/
inductive NameLetter where
  | exactly (letter : Char)
  | anyCapital
  deriving DecidableEq, Repr

/-- What stands behind the name and the axis letter of a command. -/
inductive Tail where
  /-- Nothing. -/
  | nothing
  /-- An equals sign and a value. -/
  | assigned
  /-- Blanks and a value. -/
  | spaced
  /-- Blanks and a value of digits and points. -/
  | spacedNumeral
  /-- An index, which may stand behind blanks. -/
  | index
  /-- An index, which may stand behind blanks, a comma and a value. -/
  | indexed
  deriving DecidableEq, Repr

/-- A form of settings lines. -/
inductive LinePattern where
  /-- The line opens with one of these texts. -/
  | opening (texts : List String)
  /-- The line is blank. -/
  | blank
  /-- One of these names, an axis letter if there is to be one, and the tail. -/
  | setting (names : List (List NameLetter)) (hasAxis : Bool) (tail : Tail)
  deriving DecidableEq, Repr

/-- What a line says, taken apart. -/
structure LineParts where
  name : String := ""
  axis : Option Char := none
  value : Option String := none
  index : Option String := none
  deriving DecidableEq, Repr

/-! ## Matching -/

/-- The letter is of the given form. -/
def NameLetter.admits : NameLetter → Char → Bool
  | exactly letter, c => c == letter
  | anyCapital, c => c.isUpper

/-- Splits a name of the given letters off a text. -/
def splitName? : List NameLetter → List Char → Option (List Char × List Char)
  | [], text => some ([], text)
  | _ :: _, [] => none
  | letter :: letters, c :: rest =>
      if letter.admits c then
        (splitName? letters rest).map fun (name, after) => (c :: name, after)
      else
        none

/-- Splits a capital letter off a text, if one is wanted. -/
def splitAxis? (hasAxis : Bool) (text : List Char) : Option (Option Char × List Char) :=
  match hasAxis, text with
  | false, _ => some (none, text)
  | true, c :: rest => if c.isUpper then some (some c, rest) else none
  | true, [] => none

/-- The value that a text is: it ends with its line. -/
def value? (text : List Char) : Option String :=
  if '\n' ∈ text then none else some (String.ofList text)

/-- Takes the tail of a line apart, adding to the parts found so far. -/
def Tail.parts? (tail : Tail) (parts : LineParts) (text : List Char) : Option LineParts :=
  match tail, text with
  | nothing, [] => some parts
  | assigned, '=' :: rest => (value? rest).map fun value => { parts with value := some value }
  | spaced, c :: rest =>
      if Text.isBlank c then
        (value? (Text.trimStart rest)).map fun value => { parts with value := some value }
      else
        none
  | spacedNumeral, c :: rest =>
      let numeral := Text.trimStart rest
      let isNumeral := numeral.all fun c => Text.isDecimalDigit c || c == '.'
      if Text.isBlank c ∧ numeral ≠ [] ∧ isNumeral then
        some { parts with value := some (String.ofList numeral) }
      else
        none
  | index, _ =>
      let digits := Text.trimStart text
      if digits ≠ [] ∧ digits.all Text.isDecimalDigit then
        some { parts with index := some (String.ofList digits) }
      else
        none
  | indexed, _ =>
      let trimmed := Text.trimStart text
      let digits := trimmed.takeWhile Text.isDecimalDigit
      match digits, trimmed.dropWhile Text.isDecimalDigit with
      | _ :: _, ',' :: rest =>
          (value? rest).map fun value =>
            { parts with index := some (String.ofList digits), value := some value }
      | _, _ => none
  | _, _ => none

/-- Takes a line of the form apart. -/
def LinePattern.parts? (pattern : LinePattern) (line : List Char) : Option LineParts :=
  let text := Text.trimStart line
  match pattern with
  | opening texts => if texts.any fun t => t.toList.isPrefixOf text then some {} else none
  | blank => if text = [] then some {} else none
  | setting names hasAxis tail => do
      let (name, afterName) ← names.findSome? fun letters => splitName? letters text
      let (axis, afterAxis) ← splitAxis? hasAxis afterName
      tail.parts? { name := String.ofList name, axis } afterAxis

end Settings
end MotionController
