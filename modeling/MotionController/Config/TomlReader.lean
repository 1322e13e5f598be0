import MotionController.Config.TomlAtom

/-!
# Reading configuration texts

A configuration text is TOML: lines that give a key its value, gathered in tables under bracketed
headers. Values are strings, integers, booleans, floating point numbers, dates, arrays and inline
tables; keys may be quoted, and dotted to reach into tables. Arrays and inline tables within each
other, and the parts of a key, are limited in number (`maxDepth`).
-/

namespace MotionController
namespace Toml

/-- How deep arrays and inline tables may stand within each other, and how many parts a key may
have. -/
def maxDepth : Nat :=
  79

/-! ## Keys -/

/-- A character of keys that need no quotes. -/
def isBareKeyChar (c : Char) : Bool :=
  c.isAlphanum || c = '_' || c = '-'

/-- Reads one part of a key. -/
def readKeyPart : List Char → Option (List Char × List Char)
  | '"' :: rest => readBasic rest
  | '\'' :: rest => readLiteral rest
  | text =>
      match text.takeWhile isBareKeyChar with
      | [] => none
      | part => some (part, text.dropWhile isBareKeyChar)

/-- Reads a key of parts with points between them. Each part takes a character at least. -/
def readKey : (fuel : Nat) → List Char → Option (List String × List Char)
  | 0, _ => none
  | fuel + 1, text => do
      let (part, after) ← readKeyPart (skipGap text)
      match skipGap after with
      | '.' :: rest =>
          let (parts, after) ← readKey fuel rest
          return (String.ofList part :: parts, after)
      | rest => return ([String.ofList part], rest)

/-- Reads a key that does not have too many parts. -/
def readPath (text : List Char) : Option (List String × List Char) := do
  let (path, rest) ← readKey (text.length + 1) text
  if path.length ≤ maxDepth then return (path, rest) else none

/-! ## Values -/

mutual

/-- Reads a value with arrays and inline tables that are at most `room` deep. Every two steps take a
character, so twice the length of the text is fuel enough. -/
def readValue : (fuel room : Nat) → List Char → Option (Value × List Char)
  | 0, _, _ => none
  | fuel + 1, room, text =>
      match text, room with
      | '"' :: _, _ | '\'' :: _, _ => (readString text).map fun (content, after) =>
          (.text (String.ofList content), after)
      | '[' :: _, 0 | '\x7b' :: _, 0 => none
      | '[' :: rest, room + 1 => (readItems fuel room rest).map fun (items, after) =>
          (.array items, after)
      | '\x7b' :: rest, room + 1 =>
          match skipGap rest with
          | '\x7d' :: after => some (.closed [], after)
          | _ => (readPairs fuel room [] rest).map fun (entries, after) => (.closed entries, after)
      | _, _ => readAtom text

/-- Reads the items of an array up to its closing bracket. -/
def readItems : (fuel room : Nat) → List Char → Option (List Value × List Char)
  | 0, _, _ => none
  | fuel + 1, room, text => do
      match ← skipFiller false text with
      | ']' :: after => return ([], after)
      | start =>
          let (item, rest) ← readValue fuel room start
          match ← skipFiller false rest with
          | ',' :: rest =>
              let (items, after) ← readItems fuel room rest
              return (item :: items, after)
          | ']' :: after => return ([item], after)
          | _ => none

/-- Reads the pairs of an inline table up to its closing brace, adding them to those before. -/
def readPairs : (fuel room : Nat) → Entries → List Char → Option (Entries × List Char)
  | 0, _, _, _ => none
  | fuel + 1, room, entries, text => do
      let (path, value, rest) ← readPair fuel room text
      let entries ← insertKey path value entries
      match skipGap rest with
      | ',' :: rest => readPairs fuel room entries rest
      | '\x7d' :: after => return (entries, after)
      | _ => none

/-- Reads a key, an equals sign and a value. -/
def readPair : (fuel room : Nat) → List Char → Option (List String × Value × List Char)
  | 0, _, _ => none
  | fuel + 1, room, text => do
      let (path, rest) ← readPath text
      let (value, after) ← readValue fuel room (skipGap (← behind? '=' rest))
      return (path, value, after)

end

/-! ## Documents -/

/-- Reads the header of a table or of a further one of an array of tables, behind the first opening
bracket: the path of the table, the entries with the table opened, and the text behind it. -/
def readHeader (entries : Entries) (text : List Char) :
    Option (List String × Entries × List Char) := do
  let (isFurther, start) := match text with
    | '[' :: start => (true, start)
    | start => (false, start)
  let (path, rest) ← readPath start
  let key ← path.getLast?
  let change := if isFurther then openFurther key else openTable key
  let entries ← changeAt change path.dropLast entries
  let rest ← behind? ']' rest
  let rest ← if isFurther then behind? ']' rest else some rest
  return (path, entries, rest)

/-- Reads the lines of a document, adding to the tables so far. -/
def readLines : (fuel : Nat) → (header : List String) → Entries → List Char → Option Entries
  | 0, _, _, _ => none
  | fuel + 1, header, entries, text => do
      match ← skipFiller false text with
      | [] => return entries
      | '[' :: rest =>
          let (path, entries, rest) ← readHeader entries rest
          readLines fuel path entries (← endOfLine? rest)
      | start =>
          let (path, value, rest) ← readPair (2 * start.length + 2) maxDepth start
          let entries ← changeAt (insertKey path value) header entries
          readLines fuel header entries (← endOfLine? rest)

/-- Reads a document. A byte order mark at its start does not count. -/
def read? (content : String) : Option Entries :=
  let text := match content.toList with
    | '\uFEFF' :: rest => rest
    | text => text
  readLines (text.length + 1) [] [] text

end Toml
end MotionController
