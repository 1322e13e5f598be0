import Mathlib.Data.List.Basic
import MotionController.StringCell

/-!
# Bytes in hexadecimal digits

The digits of bytes read back as those bytes in either letter case (`bytesOfHex?_flatMap_hexOfByte`,
`bytesOfHex?_map_toUpper`), and an even number of upper-case digits are the digits of some bytes
(`exists_bytes_of_upper`).
-/

namespace MotionController
namespace StringCell

variable {n : Nat} {c : Char} {digits : List Char} {bytes : List UInt8}

/-! ## Digits -/

/-- The upper-case digits in the order of their values. -/
def upperDigits : List Char :=
  "0123456789ABCDEF".toList

theorem hexValue?_hexDigit (h : n < 16) : hexValue? (hexDigit n) = some n := by
  have hall : ∀ n < 16, hexValue? (hexDigit n) = some n := by decide
  exact hall n h

theorem getElem?_upperDigits (h : n < 16) : upperDigits[n]? = some (hexDigit n) := by
  have hall : ∀ n < 16, upperDigits[n]? = some (hexDigit n) := by decide
  exact hall n h

theorem hexDigit_mem_upperDigits (h : n < 16) : hexDigit n ∈ upperDigits :=
  List.mem_of_getElem? (getElem?_upperDigits h)

theorem idxOf_hexDigit (h : n < 16) : upperDigits.idxOf (hexDigit n) = n := by
  have hall : ∀ n < 16, upperDigits.idxOf (hexDigit n) = n := by decide
  exact hall n h

theorem exists_hexDigit (h : c ∈ upperDigits) : ∃ n < 16, hexDigit n = c := by
  rcases List.mem_iff_getElem?.1 h with ⟨n, hn⟩
  have hlt : n < 16 := (List.getElem?_eq_some_iff.1 hn).1
  exact ⟨n, hlt, Option.some.inj ((getElem?_upperDigits hlt).symm.trans hn)⟩

/-- A digit has the same value in either letter case. -/
theorem hexValue?_toUpper (c : Char) : hexValue? c.toUpper = hexValue? c := by
  -- Outside of ASCII letters have no other case, and no value.
  by_cases hc : c.toNat < 128
  · have hall : ∀ n < 128, hexValue? (Char.ofNat n).toUpper = hexValue? (Char.ofNat n) := by decide
    simpa only [Char.ofNat_toNat] using hall c.toNat hc
  · have hsame : c.toUpper = c := by
      apply dif_neg
      rintro ⟨_, hlast⟩
      have hle : c.toNat ≤ 'z'.toNat := UInt32.le_iff_toNat_le.1 hlast
      exact hc (Nat.lt_of_le_of_lt hle (by decide))
    rw [hsame]

/-! ## Pairs of digits -/

/-- The values that the digits spell two by two, the high one first. -/
def pairValues : List Char → List Nat
  | high :: low :: rest =>
      (16 * upperDigits.idxOf high + upperDigits.idxOf low) :: pairValues rest
  | _ => []

theorem ofNat_halves (byte : UInt8) :
    UInt8.ofNat (16 * (byte.toNat / 16) + byte.toNat % 16) = byte := by
  rw [Nat.div_add_mod, UInt8.ofNat_toNat]

theorem halves_lt (byte : UInt8) : byte.toNat / 16 < 16 ∧ byte.toNat % 16 < 16 := by
  have hbyte := byte.toNat_lt
  omega

theorem bytesOfHex?_flatMap_hexOfByte (bytes : List UInt8) :
    bytesOfHex? (bytes.flatMap hexOfByte) = some bytes := by
  induction bytes with
  | nil => rfl
  | cons byte bytes ih =>
      rcases halves_lt byte with ⟨hhigh, hlow⟩
      simp only [List.flatMap_cons, hexOfByte, List.cons_append, List.nil_append, bytesOfHex?,
        hexValue?_hexDigit hhigh, hexValue?_hexDigit hlow, ih, Option.bind_eq_bind,
        Option.bind_some, ofNat_halves]
      rfl

theorem bytesOfHex?_map_toUpper (digits : List Char) :
    bytesOfHex? (digits.map Char.toUpper) = bytesOfHex? digits := by
  induction digits using bytesOfHex?.induct with
  | case1 => rfl
  | case2 c => rfl
  | case3 high low rest ih =>
      simp only [List.map_cons, bytesOfHex?, hexValue?_toUpper, ih]

theorem pairValues_flatMap_hexOfByte (bytes : List UInt8) :
    pairValues (bytes.flatMap hexOfByte) = bytes.map UInt8.toNat := by
  induction bytes with
  | nil => rfl
  | cons byte bytes ih =>
      rcases halves_lt byte with ⟨hhigh, hlow⟩
      simp [hexOfByte, pairValues, idxOf_hexDigit hhigh, idxOf_hexDigit hlow, ih, Nat.div_add_mod]

theorem length_flatMap_hexOfByte (bytes : List UInt8) :
    (bytes.flatMap hexOfByte).length = 2 * bytes.length := by
  induction bytes with
  | nil => rfl
  | cons byte bytes ih =>
      simp only [List.flatMap_cons, List.length_append, ih, List.length_cons]
      simp [hexOfByte]
      omega

theorem flatMap_hexOfByte_subset (bytes : List UInt8) :
    bytes.flatMap hexOfByte ⊆ upperDigits := by
  intro c h
  rcases List.mem_flatMap.1 h with ⟨byte, _, hc⟩
  rcases halves_lt byte with ⟨hhigh, hlow⟩
  simp only [hexOfByte, List.mem_cons, List.not_mem_nil, or_false] at hc
  rcases hc with rfl | rfl
  · exact hexDigit_mem_upperDigits hhigh
  · exact hexDigit_mem_upperDigits hlow

/-- Two upper-case digits are those of one byte. -/
theorem exists_hexOfByte {high low : Char} (hhigh : high ∈ upperDigits) (hlow : low ∈ upperDigits) :
    ∃ byte, hexOfByte byte = [high, low] := by
  rcases exists_hexDigit hhigh with ⟨h, hh, rfl⟩
  rcases exists_hexDigit hlow with ⟨l, hl, rfl⟩
  have hbyte : (UInt8.ofNat (16 * h + l)).toNat = 16 * h + l := by
    simp only [UInt8.toNat_ofNat']
    omega
  have hdiv : (16 * h + l) / 16 = h := by omega
  have hmod : (16 * h + l) % 16 = l := by omega
  exact ⟨UInt8.ofNat (16 * h + l), by simp only [hexOfByte, hbyte, hdiv, hmod]⟩

theorem exists_bytes_of_upper (heven : 2 ∣ digits.length)
    (hupper : digits ⊆ upperDigits) :
    ∃ bytes : List UInt8, digits = bytes.flatMap hexOfByte := by
  -- The digits are gone through two by two, as they are read.
  induction digits using bytesOfHex?.induct with
  | case1 => exact ⟨[], rfl⟩
  | case2 c => simp at heven
  | case3 high low rest ih =>
      simp only [List.length_cons, List.cons_subset] at heven hupper
      rcases exists_hexOfByte hupper.1 hupper.2.1 with ⟨byte, hbyte⟩
      rcases ih (by omega) hupper.2.2 with ⟨bytes, hbytes⟩
      exact ⟨byte :: bytes, by simp [hbyte, hbytes]⟩

end StringCell
end MotionController
