import MotionController.Config.Toml
import MotionController.Config.TomlString
import MotionController.Numeric.Numeral
import MotionController.Text.Pieces

/-!
# Unquoted configuration values

Booleans, integers, floating point numbers, dates and times. Of floating point numbers and dates no
more is kept than that they are well formed.
-/

namespace MotionController
namespace Toml

/-! ## Numbers -/

/-- The digits of a number in which underscores may stand between digits. -/
def plainDigits? (isDigit : Char → Bool) (text : List Char) : Option (List Char) :=
  let groups := Text.cut '_' text
  if groups.all fun group => !group.isEmpty && group.all isDigit then some groups.flatten else none

/-- The value of digits in a base. -/
def valueInBase? (base : Nat) (digits : List Char) : Option Nat := do
  let values ← digits.mapM hexValue?
  if values.all (· < base) then some (values.foldl (fun n d => base * n + d) 0) else none

/-- Reads a decimal number, which has no leading zeros. -/
def readNatural? (text : List Char) : Option Nat := do
  let digits ← plainDigits? Char.isDigit text
  if digits.head? = some '0' ∧ 1 < digits.length then none
  else some (Numeric.digitsValue digits)

/-- Splits a sign off a number; the flag says whether it is a minus. -/
def splitSign : List Char → Bool × List Char
  | '-' :: rest => (true, rest)
  | '+' :: rest => (false, rest)
  | text => (false, text)

/-- Reads an integer: decimal with an optional sign, or in base sixteen, eight or two behind a mark.
It fits 64 bits. -/
def readInteger? (text : List Char) : Option Int := do
  let value ← match text with
    | '0' :: 'x' :: digits =>
        let isDigit (c : Char) := (hexValue? c).isSome
        ((plainDigits? isDigit digits).bind (valueInBase? 16)).map Int.ofNat
    | '0' :: 'o' :: digits =>
        ((plainDigits? Char.isDigit digits).bind (valueInBase? 8)).map Int.ofNat
    | '0' :: 'b' :: digits =>
        ((plainDigits? Char.isDigit digits).bind (valueInBase? 2)).map Int.ofNat
    | _ =>
        let (negative, digits) := splitSign text
        (readNatural? digits).map fun n => if negative then -(n : Int) else (n : Int)
  if -(Nat.pow 2 63 : Int) ≤ value ∧ value < (Nat.pow 2 63 : Int) then some value else none

/-- The text is a floating point number: it has a fraction or a power of ten, or is a word. A
positive number must not be too great for the format. -/
def isReal (text : List Char) : Bool :=
  let (_, magnitude) := splitSign text
  let isMark (c : Char) := c = 'e' || c = 'E'
  let mantissa := magnitude.takeWhile fun c => !isMark c
  let power := magnitude.dropWhile fun c => !isMark c
  let isPower := match power with
    | [] => true
    | _ :: digits => (plainDigits? Char.isDigit (splitSign digits).2).isSome
  let isMantissa := match Text.cut '.' mantissa with
    | [whole] => (readNatural? whole).isSome && !power.isEmpty
    | [whole, fraction] =>
        (readNatural? whole).isSome && (plainDigits? Char.isDigit fraction).isSome
    | _ => false
  let isWord := magnitude == "inf".toList || magnitude == "nan".toList
  let isInRange := Numeric.read? (text.filter (· ≠ '_')) != some (.infinite false)
  isWord || (isMantissa && isPower && isInRange)

/-! ## Dates -/

/-- Reads a number of two digits within bounds. -/
def readTwoDigits (least greatest : Nat) : List Char → Option (Nat × List Char)
  | a :: b :: rest =>
      let n := Numeric.digitsValue [a, b]
      if a.isDigit ∧ b.isDigit ∧ least ≤ n ∧ n ≤ greatest then some (n, rest) else none
  | _ => none

/-- The text behind a character. -/
def behind? (expected : Char) : List Char → Option (List Char)
  | c :: rest => if c = expected then some rest else none
  | [] => none

/-- The number of days of a month. -/
def daysOf (year month : Nat) : Nat :=
  let isLeap := year % 4 = 0 ∧ (year % 100 ≠ 0 ∨ year % 400 = 0)
  if month = 2 then
    if isLeap then 29 else 28
  else if [4, 6, 9, 11].contains month then 30
  else 31

/-- The text behind a calendar date. -/
def skipDay? : List Char → Option (List Char)
  | a :: b :: c :: d :: rest => do
      let year := [a, b, c, d]
      if year.all Char.isDigit then
        let (month, rest) ← readTwoDigits 1 12 (← behind? '-' rest)
        let greatest := daysOf (Numeric.digitsValue year) month
        let (_, rest) ← readTwoDigits 1 greatest (← behind? '-' rest)
        return rest
      else
        none
  | _ => none

/-- The text behind a fraction of a second, which may be missing. -/
def skipFraction (text : List Char) : List Char :=
  match text with
  | '.' :: c :: rest => if c.isDigit then rest.dropWhile Char.isDigit else text
  | _ => text

/-- The text behind a time of day. A minute may have a leap second. -/
def skipTime? (text : List Char) : Option (List Char) := do
  let (_, rest) ← readTwoDigits 0 23 text
  let (_, rest) ← readTwoDigits 0 59 (← behind? ':' rest)
  let (_, rest) ← readTwoDigits 0 60 (← behind? ':' rest)
  return skipFraction rest

/-- The text behind the distance between two clocks in hours and minutes. -/
def skipDistance? (text : List Char) : Option (List Char) := do
  let (_, rest) ← readTwoDigits 0 23 text
  let (_, rest) ← readTwoDigits 0 59 (← behind? ':' rest)
  return rest

/-- The text behind a distance from universal time, which may be missing. -/
def skipOffset (text : List Char) : List Char :=
  match text with
  | c :: rest =>
      if c = 'Z' ∨ c = 'z' then rest
      else if c = '+' ∨ c = '-' then (skipDistance? rest).getD text
      else text
  | [] => []

/-- The text behind a time that follows a date, which may be missing. -/
def skipTimeOfDate (text : List Char) : List Char :=
  match text with
  | c :: rest =>
      if c = 'T' ∨ c = 't' ∨ c = ' ' then ((skipTime? rest).map skipOffset).getD text else text
  | [] => []

/-- The text behind a date, a date with a time, or a time. -/
def skipDate? (text : List Char) : Option (List Char) :=
  match skipDay? text with
  | some rest => some (skipTimeOfDate rest)
  | none => skipTime? text

/-! ## Unquoted values -/

/-- A character of booleans and numbers. -/
def isAtomChar (c : Char) : Bool :=
  c.isAlphanum || c = '_' || c = '+' || c = '-' || c = '.'

/-- Reads a boolean or a number. -/
def readPlain (text : List Char) : Option (Value × List Char) :=
  let atom := text.takeWhile isAtomChar
  let rest := text.dropWhile isAtomChar
  if atom = "true".toList then some (.boolean true, rest)
  else if atom = "false".toList then some (.boolean false, rest)
  else
    match readInteger? atom with
    | some value => some (.integer value, rest)
    | none => if isReal atom then some (.real, rest) else none

/-- Reads an unquoted value. -/
def readAtom (text : List Char) : Option (Value × List Char) :=
  match skipDate? text with
  | some rest => some (.date, rest)
  | none => readPlain text

end Toml
end MotionController
