/-!
# The MD5 digest

A message is padded to whole blocks of sixteen words of 32 bits, and the four words of the state are
stirred with each block in sixty-four steps. The digest is the state after the last block, sixteen
bytes, each word with its least significant byte first.
-/

namespace MotionController
namespace Md5

/-- The four words of the state. -/
structure State where
  a : UInt32
  b : UInt32
  c : UInt32
  d : UInt32
  deriving DecidableEq, Repr

/-- The state before the first block. -/
def State.initial : State :=
  ⟨0x67452301, 0xEFCDAB89, 0x98BADCFE, 0x10325476⟩

/-! ## Constants -/

/-- The added constant of each step: the whole part of `2^32 * |sin i|` for `i` from 1 on. -/
def sines : Array UInt32 :=
  #[0xD76AA478, 0xE8C7B756, 0x242070DB, 0xC1BDCEEE, 0xF57C0FAF, 0x4787C62A,
    0xA8304613, 0xFD469501, 0x698098D8, 0x8B44F7AF, 0xFFFF5BB1, 0x895CD7BE,
    0x6B901122, 0xFD987193, 0xA679438E, 0x49B40821, 0xF61E2562, 0xC040B340,
    0x265E5A51, 0xE9B6C7AA, 0xD62F105D, 0x02441453, 0xD8A1E681, 0xE7D3FBC8,
    0x21E1CDE6, 0xC33707D6, 0xF4D50D87, 0x455A14ED, 0xA9E3E905, 0xFCEFA3F8,
    0x676F02D9, 0x8D2A4C8A, 0xFFFA3942, 0x8771F681, 0x6D9D6122, 0xFDE5380C,
    0xA4BEEA44, 0x4BDECFA9, 0xF6BB4B60, 0xBEBFBC70, 0x289B7EC6, 0xEAA127FA,
    0xD4EF3085, 0x04881D05, 0xD9D4D039, 0xE6DB99E5, 0x1FA27CF8, 0xC4AC5665,
    0xF4292244, 0x432AFF97, 0xAB9423A7, 0xFC93A039, 0x655B59C3, 0x8F0CCC92,
    0xFFEFF47D, 0x85845DD1, 0x6FA87E4F, 0xFE2CE6E0, 0xA3014314, 0x4E0811A1,
    0xF7537E82, 0xBD3AF235, 0x2AD7D2BB, 0xEB86D391]

/-- The rotations of the four rounds, which repeat every four steps. -/
def rotations : Array UInt32 :=
  #[7, 12, 17, 22, 5, 9, 14, 20, 4, 11, 16, 23, 6, 10, 15, 21]

/-! ## One block -/

/-- The word turned left by some bits. -/
def rotate (word bits : UInt32) : UInt32 :=
  (word <<< bits) ||| (word >>> (32 - bits))

/-- The mixture of three words in a step, and the position of the message word it takes. -/
def mixture (step : Nat) (b c d : UInt32) : UInt32 × Nat :=
  match step / 16 with
  | 0 => ((b &&& c) ||| (~~~b &&& d), step)
  | 1 => ((d &&& b) ||| (~~~d &&& c), (5 * step + 1) % 16)
  | 2 => (b ^^^ c ^^^ d, (3 * step + 5) % 16)
  | _ => (c ^^^ (b ||| ~~~d), 7 * step % 16)

/-- One of the sixty-four steps of a block. -/
def State.step (words : Array UInt32) (state : State) (step : Nat) : State :=
  let (mixed, position) := mixture step state.b state.c state.d
  let sum := state.a + mixed + sines.getD step 0 + words.getD position 0
  let turned := rotate sum (rotations.getD (4 * (step / 16) + step % 4) 0)
  ⟨state.d, state.b + turned, state.b, state.c⟩

/-- The words of a block, each from four bytes, the least significant one first. -/
def wordsOf : List UInt8 → List UInt32
  | b0 :: b1 :: b2 :: b3 :: rest =>
      (b0.toUInt32 ||| (b1.toUInt32 <<< 8) ||| (b2.toUInt32 <<< 16) ||| (b3.toUInt32 <<< 24)) ::
        wordsOf rest
  | _ => []

/-- Stirs the state with a block. -/
def State.stir (state : State) (block : List UInt8) : State :=
  let words := (wordsOf block).toArray
  let stirred := (List.range 64).foldl (State.step words) state
  ⟨state.a + stirred.a, state.b + stirred.b, state.c + stirred.c, state.d + stirred.d⟩

/-! ## Messages -/

/-- The bytes of a number, the least significant one first. -/
def littleEndian : (size : Nat) → Nat → List UInt8
  | 0, _ => []
  | size + 1, n => UInt8.ofNat (n % 256) :: littleEndian size (n / 256)

/-- The message filled up to whole blocks: a one bit, zeros, and its length in bits. -/
def pad (message : List UInt8) : List UInt8 :=
  let zeros := (119 - message.length % 64) % 64
  message ++ 0x80 :: (List.replicate zeros 0 ++ littleEndian 8 (8 * message.length % Nat.pow 2 64))

/-- The blocks of a padded message. -/
def blocks (padded : List UInt8) : List (List UInt8) :=
  (List.range (padded.length / 64)).map fun i => (padded.drop (64 * i)).take 64

/-- The digest of a message. -/
def digest (message : List UInt8) : List UInt8 :=
  let final := (blocks (pad message)).foldl State.stir .initial
  [final.a, final.b, final.c, final.d].flatMap fun word => littleEndian 4 word.toNat

/-- The digest in lower-case hexadecimal digits. -/
def hexDigest (message : List UInt8) : List Char :=
  let digit (n : Nat) : Char :=
    if n < 10 then Char.ofNat ('0'.toNat + n) else Char.ofNat ('a'.toNat + (n - 10))
  (digest message).flatMap fun byte => [digit (byte.toNat / 16), digit (byte.toNat % 16)]

end Md5
end MotionController
