/-!
# JSON strings

A JSON string stands between double quotes. Quotes, backslashes and control characters are escaped,
the common ones by a letter, the others by four lower-case hexadecimal digits.
-/

namespace MotionController
namespace Text

/-- The four digits of a code point below `0x10000`. -/
def fourHexDigits (n : Nat) : List Char :=
  let digits := Nat.toDigits 16 n
  List.replicate (4 - digits.length) '0' ++ digits

/-- The form of a character inside a JSON string. -/
def jsonForm (c : Char) : List Char :=
  match c with
  | '"' => ['\\', '"']
  | '\\' => ['\\', '\\']
  | '\n' => ['\\', 'n']
  | '\r' => ['\\', 'r']
  | '\t' => ['\\', 't']
  | '\x08' => ['\\', 'b']
  | '\x0c' => ['\\', 'f']
  | _ => if c.toNat < 0x20 then ['\\', 'u'] ++ fourHexDigits c.toNat else [c]

/-- The JSON string of a text. -/
def jsonString (text : List Char) : List Char :=
  '"' :: text.flatMap jsonForm ++ ['"']

end Text
end MotionController
