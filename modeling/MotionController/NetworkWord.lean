import MotionController.Numeric.Digits
import MotionController.Text.Pieces

/-!
# Network addresses

An address or a network mask is packed into one word of 32 bits and shown as its four octets in
decimal, the most significant one first, with points between them.
-/

namespace MotionController

/-- A packed address or mask. -/
abbrev NetworkWord := BitVec 32

namespace NetworkWord

/-- The octets of a word, the most significant one first. -/
def octets (word : NetworkWord) : List Nat :=
  [word.toNat / 16777216, word.toNat / 65536 % 256, word.toNat / 256 % 256, word.toNat % 256]

/-- The word in dotted notation. -/
def dotted (word : NetworkWord) : String :=
  String.ofList (Text.join '.' (word.octets.map Numeric.decimal))

end NetworkWord
end MotionController
