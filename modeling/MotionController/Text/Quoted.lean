import MotionController.Text.Printable

/-!
# Quoted text

A text is quoted by writing a backslash form for whatever could not be told apart or seen on a
terminal: NUL, tab, line feed, carriage return, the backslash and the quotes by a letter or
themselves, all else that is hidden by its code point in lower-case hexadecimal.
-/

namespace MotionController
namespace Text

/-- The form of a character by its code point. -/
def codePointForm (c : Char) : List Char :=
  ['\\', 'u', '\x7b'] ++ Nat.toDigits 16 c.toNat ++ ['\x7d']

/-- The backslash form of a character other than a quote, if it has a short one. -/
def shortForm? : Char → Option (List Char)
  | '\x00' => some ['\\', '0']
  | '\t' => some ['\\', 't']
  | '\n' => some ['\\', 'n']
  | '\r' => some ['\\', 'r']
  | '\\' => some ['\\', '\\']
  | _ => none

/-- The quoted form of a character; `isQuote` tells the quotes to escape, `isHidden` what is written
by its code point. -/
def quotedForm (isQuote isHidden : Char → Bool) (c : Char) : List Char :=
  match shortForm? c with
  | some form => form
  | none =>
      if isQuote c then ['\\', c]
      else if isHidden c then codePointForm c
      else [c]

/-- Needs its code point whatever stands before it. -/
def isHidden (c : Char) : Bool :=
  !isPrintable c

/-- Needs its code point when nothing stands before it that it could extend. -/
def isHiddenAlone (c : Char) : Bool :=
  isExtending c || !isPrintable c

/-- A text between double quotes. Single quotes stand for themselves. -/
def quoted (text : List Char) : List Char :=
  '"' :: text.flatMap (quotedForm (· == '"') isHiddenAlone) ++ ['"']

/-- A text with its hidden characters and both quotes escaped, without quotes around it. -/
def escaped : List Char → List Char
  | [] => []
  | first :: rest =>
      let isQuote (c : Char) := c == '"' || c == '\''
      quotedForm isQuote isHiddenAlone first ++ rest.flatMap (quotedForm isQuote isHidden)

end Text
end MotionController
