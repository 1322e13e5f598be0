import MotionController.Text.Blank
import MotionController.Text.Bytes

/-!
# String cells

A controller variable is a cell of six bytes. Used for text, it holds up to six bytes of UTF-8,
filled up with NUL bytes, and travels as a dollar sign, eight upper-case hexadecimal digits, a point
and four more digits: the text `12345` is `$31323334.3500`.
-/

namespace MotionController
namespace StringCell

/-- The number of bytes in a cell. -/
def capacity : Nat :=
  6

/-- Why a text is not encoded or decoded. -/
inductive Fault where
  | tooLong (bytes : Nat)
  | invalidHex (written : String)
  deriving DecidableEq, Repr

/-- The report of a fault. -/
def Fault.message : Fault → String
  | tooLong bytes => s!"Controller strings may have at most 6 characters, got {bytes}"
  | invalidHex written => s!"Invalid controller hex string: {written}"

/-! ## Hexadecimal digits -/

/-- The upper-case digit of a number below sixteen. -/
def hexDigit (n : Nat) : Char :=
  if n < 10 then Char.ofNat ('0'.toNat + n) else Char.ofNat ('A'.toNat + (n - 10))

/-- The value of a hexadecimal digit in either letter case. -/
def hexValue? (c : Char) : Option Nat :=
  if '0' ≤ c ∧ c ≤ '9' then some (c.toNat - '0'.toNat)
  else if 'A' ≤ c ∧ c ≤ 'F' then some (c.toNat - 'A'.toNat + 10)
  else if 'a' ≤ c ∧ c ≤ 'f' then some (c.toNat - 'a'.toNat + 10)
  else none

/-- The two digits of a byte. -/
def hexOfByte (byte : UInt8) : List Char :=
  [hexDigit (byte.toNat / 16), hexDigit (byte.toNat % 16)]

/-- The bytes that a run of digits spells, two digits a byte. -/
def bytesOfHex? : List Char → Option (List UInt8)
  | [] => some []
  | [_] => none
  | high :: low :: rest => do
      let h ← hexValue? high
      let l ← hexValue? low
      let bytes ← bytesOfHex? rest
      return UInt8.ofNat (16 * h + l) :: bytes

/-! ## Encoding and decoding -/

/-- The bytes of a cell that holds the given bytes, filled up with NULs. -/
def fill (bytes : List UInt8) : List UInt8 :=
  bytes ++ List.replicate (capacity - bytes.length) 0

/-- A cell as it travels: the point stands behind the fourth byte. -/
def render (cell : List UInt8) : List Char :=
  let digits := cell.flatMap hexOfByte
  '$' :: (digits.take 8 ++ '.' :: digits.drop 8)

/-- Writes a text as a cell. -/
def encode (text : String) : Except Fault String :=
  let bytes := Text.utf8Bytes text.toList
  if bytes.length ≤ capacity then
    .ok (String.ofList (render (fill bytes)))
  else
    .error (.tooLong bytes.length)

/-- The digits of a written cell: blanks at the ends and the two marks do not count. -/
def writtenDigits (written : List Char) : List Char :=
  (Text.trim written).filter fun c => c ≠ '$' ∧ c ≠ '.'

/-- Reads the characters of a cell, one for each byte, trailing NULs included. -/
def decodeBinary (written : String) : Except Fault String :=
  match bytesOfHex? (writtenDigits written.toList) with
  | some bytes => .ok (String.ofList (bytes.map fun byte => Char.ofNat byte.toNat))
  | none => .error (.invalidHex written)

/-- The text without the NULs it ends with. -/
def dropTrailingNuls (text : String) : String :=
  String.ofList ((text.toList.reverse.dropWhile fun c => c = '\x00').reverse)

/-- Reads the text of a cell, without trailing NULs. -/
def decode (written : String) : Except Fault String :=
  (decodeBinary written).map dropTrailingNuls

end StringCell
end MotionController
