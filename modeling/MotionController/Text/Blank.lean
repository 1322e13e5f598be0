import MotionController.Text.CodeRange

/-!
# Blanks

The twenty-five characters with the Unicode property White_Space, and what it means to trim a text:
`trimEnd` and `trimStart` drop the blanks at one end, `trim` those at both.
-/

namespace MotionController
namespace Text

/-- The characters with the property White_Space, ascending. -/
def blankRanges : CodeRanges :=
  [(0x9, 0xD), (0x20, 0x20), (0x85, 0x85), (0xA0, 0xA0), (0x1680, 0x1680), (0x2000, 0x200A),
   (0x2028, 0x2029), (0x202F, 0x202F), (0x205F, 0x205F), (0x3000, 0x3000)]

/-- A white space character. -/
def isBlank (c : Char) : Bool :=
  blankRanges.holds c

/-! ## Trimming -/

/-- The text without the blanks it begins with. -/
def trimStart (text : List Char) : List Char :=
  text.dropWhile isBlank

/-- The text without the blanks it ends with. -/
def trimEnd (text : List Char) : List Char :=
  (text.reverse.dropWhile isBlank).reverse

/-- The text without the blanks at either end. -/
def trim (text : List Char) : List Char :=
  trimEnd (trimStart text)

end Text
end MotionController
