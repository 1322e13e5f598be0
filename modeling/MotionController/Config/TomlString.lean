/-!
# Configuration strings

A string stands on one line between quotes, or may go over several lines between threefold quotes.
Between double quotes a backslash escapes; between single quotes every character stands for itself.
What may stand between other things is here too: gaps, line breaks and comments.
-/

namespace MotionController
namespace Toml

/-! ## Filler -/

/-- A control character that may not stand in a comment or a string. -/
def isForbidden (c : Char) : Bool :=
  (c.toNat < 0x20 && c != '\t') || c.toNat = 0x7F

/-- A space or a tab. -/
def isGap (c : Char) : Bool :=
  c = ' ' || c = '\t'

/-- The text behind spaces and tabs. -/
def skipGap (text : List Char) : List Char :=
  text.dropWhile isGap

/-- The text behind a line break, which may have a carriage return before it. -/
def lineBreak? : List Char → Option (List Char)
  | '\n' :: rest => some rest
  | '\r' :: '\n' :: rest => some rest
  | _ => none

/-- The text behind gaps, line breaks and comments. -/
def skipFiller : (inComment : Bool) → List Char → Option (List Char)
  | _, [] => some []
  | inComment, c :: rest =>
      if c = '\n' then skipFiller false rest
      else if c = '\r' then
        if rest.head? = some '\n' then skipFiller inComment rest else none
      else if inComment then
        if isForbidden c then none else skipFiller true rest
      else if isGap c then skipFiller false rest
      else if c = '#' then skipFiller true rest
      else some (c :: rest)

/-- The text behind the rest of a line, which may hold a comment and nothing else. -/
def endOfLine? (text : List Char) : Option (List Char) :=
  match skipGap text with
  | [] => some []
  | '#' :: comment =>
      let isInside (c : Char) := !isForbidden c
      match comment.dropWhile isInside with
      | [] => some []
      | rest => lineBreak? rest
  | rest => lineBreak? rest

/-! ## Strings -/

/-- The value of a hexadecimal digit. -/
def hexValue? (c : Char) : Option Nat :=
  if c.isDigit then some (c.toNat - '0'.toNat)
  else if 'a' ≤ c ∧ c ≤ 'f' then some (c.toNat - 'a'.toNat + 10)
  else if 'A' ≤ c ∧ c ≤ 'F' then some (c.toNat - 'A'.toNat + 10)
  else none

/-- The character whose code point the hexadecimal digits give. -/
def codePoint? (digits : List Char) : Option Char := do
  let values ← digits.mapM hexValue?
  let n := values.foldl (fun n d => 16 * n + d) 0
  if n.isValidChar then some (Char.ofNat n) else none

/-- The character that a letter behind a backslash stands for. -/
def escapeLetter? : Char → Option Char
  | 'b' => some '\x08'
  | 't' => some '\t'
  | 'n' => some '\n'
  | 'f' => some '\x0c'
  | 'r' => some '\r'
  | '"' => some '"'
  | '\\' => some '\\'
  | _ => none

/-- Reads a string with escapes up to its closing double quote. -/
def readBasic : List Char → Option (List Char × List Char)
  | [] => none
  | '"' :: rest => some ([], rest)
  | '\\' :: 'u' :: a :: b :: c :: d :: rest => do
      let read ← codePoint? [a, b, c, d]
      let (content, after) ← readBasic rest
      return (read :: content, after)
  | '\\' :: 'U' :: a :: b :: c :: d :: e :: f :: g :: h :: rest => do
      let read ← codePoint? [a, b, c, d, e, f, g, h]
      let (content, after) ← readBasic rest
      return (read :: content, after)
  | '\\' :: letter :: rest => do
      let read ← escapeLetter? letter
      let (content, after) ← readBasic rest
      return (read :: content, after)
  | c :: rest =>
      if isForbidden c ∨ c = '\\' then
        none
      else do
        let (content, after) ← readBasic rest
        return (c :: content, after)

/-- Reads a string without escapes up to its closing single quote. -/
def readLiteral : List Char → Option (List Char × List Char)
  | [] => none
  | '\'' :: rest => some ([], rest)
  | c :: rest =>
      if isForbidden c then
        none
      else do
        let (content, after) ← readLiteral rest
        return (c :: content, after)

/-! ## Strings of several lines -/

/-- The text without the line break it begins with. -/
def dropLineBreak (text : List Char) : List Char :=
  (lineBreak? text).getD text

/-- Reads up to two quotes, which end a string of several lines if they stand behind its closing
quotes. -/
def readLastQuotes (quote : Char) : List Char → List Char × List Char
  | a :: b :: rest =>
      if a = quote ∧ b = quote then ([a, b], rest)
      else if a = quote then ([a], b :: rest)
      else ([], a :: b :: rest)
  | [a] => if a = quote then ([a], []) else ([], [a])
  | [] => ([], [])

/-- Reads a string with escapes up to three double quotes. Behind a backslash at the end of a line
the string is `folded`: it goes on with the next character that is no gap or line break. -/
def readBasicBlock : (folded : Bool) → List Char → Option (List Char × List Char)
  | _, [] => none
  | _, '"' :: '"' :: '"' :: rest => some (readLastQuotes '"' rest)
  | _, '\\' :: 'u' :: a :: b :: c :: d :: rest => do
      let read ← codePoint? [a, b, c, d]
      let (content, after) ← readBasicBlock false rest
      return (read :: content, after)
  | _, '\\' :: 'U' :: a :: b :: c :: d :: e :: f :: g :: h :: rest => do
      let read ← codePoint? [a, b, c, d, e, f, g, h]
      let (content, after) ← readBasicBlock false rest
      return (read :: content, after)
  | _, '\\' :: letter :: rest =>
      if (lineBreak? (skipGap (letter :: rest))).isSome then
        readBasicBlock true (letter :: rest)
      else do
        let read ← escapeLetter? letter
        let (content, after) ← readBasicBlock false rest
        return (read :: content, after)
  | folded, c :: rest =>
      if c = '\r' ∧ rest.head? = some '\n' then readBasicBlock folded rest
      else if folded ∧ (isGap c ∨ c = '\n') then readBasicBlock folded rest
      else if (isForbidden c ∧ c ≠ '\n') ∨ c = '\\' then none
      else do
        let (content, after) ← readBasicBlock false rest
        return (c :: content, after)

/-- Reads a string without escapes up to three single quotes. -/
def readLiteralBlock : List Char → Option (List Char × List Char)
  | [] => none
  | '\'' :: '\'' :: '\'' :: rest => some (readLastQuotes '\'' rest)
  | c :: rest =>
      if c = '\r' ∧ rest.head? = some '\n' then readLiteralBlock rest
      else if isForbidden c ∧ c ≠ '\n' then none
      else do
        let (content, after) ← readLiteralBlock rest
        return (c :: content, after)

/-- Reads a string. A line break right behind threefold quotes does not belong to it. -/
def readString : List Char → Option (List Char × List Char)
  | '"' :: '"' :: '"' :: rest => readBasicBlock false (dropLineBreak rest)
  | '\'' :: '\'' :: '\'' :: rest => readLiteralBlock (dropLineBreak rest)
  | '"' :: rest => readBasic rest
  | '\'' :: rest => readLiteral rest
  | _ => none

end Toml
end MotionController
