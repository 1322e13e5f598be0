import Mathlib.Data.List.TakeWhile
import Mathlib.Data.Nat.Digits.Defs
import MotionController.Numeric.Numeral
import MotionController.Proofs.Numeric.Decimal

/-!
# Whole numbers in the binary format

A whole number of magnitude below `2^53` is a value of the format, and that value is read from its
decimal digits (`exists_read?_decimalInt`). A value that is a whole number is rounded to that number
(`roundToWord_of_toWhole?`).
-/

namespace MotionController
namespace Binary64

variable {negative : Bool} {units magnitude : Nat} {value : Binary64} {n : Int}

/-! ## Rounding -/

theorem roundQuotient_mul (quotient : Nat) {den : Nat} (hden : 0 < den) :
    roundQuotient (quotient * den) den = quotient := by
  have hbelow : compare 0 den = .lt := Nat.compare_eq_lt.2 hden
  simp [roundQuotient, hbelow, Nat.mul_div_cancel _ hden]

theorem spacing_pos (units : Nat) : 0 < spacing units :=
  Nat.two_pow_pos _

/-- A whole number of units that is a multiple of its spacing is a value of the format. -/
theorem ofRatio_of_spacing_dvd (hdvd : spacing units ∣ units) (hlt : units < unitsLimit) :
    ofRatio negative units 1 = finite negative units := by
  have hrounded : roundQuotient units (spacing units) * spacing units = units := by
    rcases hdvd with ⟨quotient, hquotient⟩
    rw [Nat.mul_comm] at hquotient
    calc
      roundQuotient units (spacing units) * spacing units =
          roundQuotient (quotient * spacing units) (spacing units) * spacing units := by
        rw [← hquotient]
      _ = quotient * spacing units := by rw [roundQuotient_mul _ (spacing_pos units)]
      _ = units := hquotient.symm
  simp only [ofRatio, Nat.div_one, Nat.one_mul, hrounded, if_pos hlt]

theorem log2_mul_two_pow (hpos : 0 < magnitude) (k : Nat) :
    (magnitude * 2 ^ k).log2 = magnitude.log2 + k := by
  have hne := Nat.ne_of_gt hpos
  have hproduct : magnitude * 2 ^ k ≠ 0 := Nat.mul_ne_zero hne (Nat.ne_of_gt (Nat.two_pow_pos k))
  rcases (Nat.log2_eq_iff hne).1 rfl with ⟨hlow, hhigh⟩
  refine (Nat.log2_eq_iff hproduct).2 ⟨?_, ?_⟩
  · rw [Nat.pow_add]
    exact Nat.mul_le_mul_right _ hlow
  · rw [Nat.add_right_comm, Nat.pow_add]
    exact Nat.mul_lt_mul_of_pos_right hhigh (Nat.two_pow_pos k)

/-! ## Whole numbers -/

theorem unitsPerOne_eq : unitsPerOne = 2 ^ 1074 := by
  decide +kernel

theorem unitsPerOne_pos : 0 < unitsPerOne := by
  decide +kernel

theorem two_pow_mul_unitsPerOne_le : 2 ^ 53 * unitsPerOne ≤ unitsLimit := by
  decide +kernel

/-- Up to `2^53` neighbouring values are at most one apart. -/
theorem spacing_dvd_unitsPerOne (hpos : 0 < magnitude) (hlt : magnitude < 2 ^ 53) :
    spacing (magnitude * unitsPerOne) ∣ unitsPerOne := by
  have hlog : magnitude.log2 < 53 := (Nat.log2_lt (Nat.ne_of_gt hpos)).2 hlt
  -- The exponent is kept general, so that no power of two is computed.
  have hdvd : ∀ k, 52 ≤ k → spacing (magnitude * 2 ^ k) ∣ 2 ^ k := by
    intro k hk
    rw [spacing, log2_mul_two_pow hpos]
    exact Nat.pow_dvd_pow 2 (by omega)
  rw [unitsPerOne_eq]
  exact hdvd 1074 (by decide)

theorem ofDecimal_of_lt (hlt : magnitude < 2 ^ 53) (hpos : 0 < magnitude) :
    ofDecimal negative magnitude 0 = finite negative (magnitude * unitsPerOne) := by
  have hdvd := (spacing_dvd_unitsPerOne hpos hlt).mul_left magnitude
  have hbelow := Nat.mul_lt_mul_of_pos_right hlt unitsPerOne_pos
  have hlimit := hbelow.trans_le two_pow_mul_unitsPerOne_le
  simpa [ofDecimal] using ofRatio_of_spacing_dvd hdvd hlimit

theorem toWhole?_mul_unitsPerOne (hlt : magnitude < wordLimit) :
    (finite negative (magnitude * unitsPerOne)).toWhole? = some (signed negative magnitude) := by
  simp [toWhole?, Nat.mul_div_cancel _ unitsPerOne_pos, hlt]

/-- A value that is a whole number is that number of ones. -/
theorem toWhole?_eq_some (h : value.toWhole? = some n) :
    ∃ negative magnitude, value = finite negative (magnitude * unitsPerOne) ∧
      magnitude < wordLimit ∧ signed negative magnitude = n := by
  cases value with
  | nan | infinite negative => cases h
  | finite negative units =>
      simp only [toWhole?] at h
      split at h
      · next hwhole =>
          have hunits := Nat.div_mul_cancel (Nat.dvd_of_mod_eq_zero hwhole.1)
          exact ⟨negative, units / unitsPerOne, by rw [hunits], hwhole.2, Option.some.inj h⟩
      · cases h

theorem roundToWord_of_toWhole? (h : value.toWhole? = some n) : value.roundToWord = n := by
  rcases toWhole?_eq_some h with ⟨negative, magnitude, rfl, hlt, rfl⟩
  -- Half of one, which rounding adds, does not reach the next whole number.
  have hnearest :
      (2 * (magnitude * unitsPerOne) + unitsPerOne) / (2 * unitsPerOne) = magnitude := by
    have hone := unitsPerOne_pos
    generalize unitsPerOne = one at hone
    rw [← Nat.mul_assoc, Nat.mul_comm 2 magnitude, Nat.mul_assoc, Nat.add_comm,
      Nat.add_mul_div_right _ _ (by omega), Nat.div_eq_of_lt (by omega), Nat.zero_add]
  -- Nothing is clamped.
  simp only [roundToWord, hnearest]
  generalize wordLimit = limit at hlt
  cases negative <;> simp only [signed] <;> omega

end Binary64

namespace Numeric

open Binary64

variable {negative : Bool} {magnitude : Nat} {digits : List Char}

/-! ## Reading -/

theorem splitSign_of_isDigits (h : IsDigits digits) : splitSign digits = (false, digits) := by
  unfold splitSign
  split
  · exact absurd (h.isDigit '-' List.mem_cons_self) (by decide)
  · exact absurd (h.isDigit '+' List.mem_cons_self) (by decide)
  · rfl

theorem readDecimal?_of_isDigits (h : IsDigits digits) :
    readDecimal? digits = some ⟨digitsValue digits, 0⟩ := by
  have hsplit : splitDigits digits = (digits, []) := by
    have htake : digits.takeWhile Char.isDigit = digits := List.takeWhile_eq_self_iff.2 h.isDigit
    have hdrop : digits.dropWhile Char.isDigit = [] := List.dropWhile_eq_nil_iff.2 h.isDigit
    rw [splitDigits, htake, hdrop]
  simp [readDecimal?, hsplit, splitFraction, readExponent?, h.ne_nil]

theorem toBinary64_of_lt (h : magnitude < 2 ^ 53) :
    Decimal.toBinary64 negative ⟨magnitude, 0⟩ = .finite negative (magnitude * unitsPerOne) := by
  rcases Nat.eq_zero_or_pos magnitude with rfl | hpos
  · simp [Decimal.toBinary64]
  · -- A number of so few digits is neither out of range nor next to zero.
    have hlength : (decimal magnitude).length ≤ 16 :=
      Nat.toDigits_length 10 magnitude 16 (by decide) (h.trans (by decide))
    have hlow : ¬(((decimal magnitude).length : Int) + 0 < -330) := by omega
    have hhigh : ¬(310 < ((decimal magnitude).length : Int) + 0) := by omega
    simp only [Decimal.toBinary64, Nat.ne_of_gt hpos, hlow, or_self, if_false, hhigh,
      ofDecimal_of_lt h hpos]

/-- A whole number of magnitude below `2^53` is read from its decimal digits as it is. -/
theorem exists_read?_decimalInt {n : Int} (h : n.natAbs < 2 ^ 53) :
    ∃ value, read? (decimalInt n) = some value ∧ value.toWhole? = some n := by
  have hword : n.natAbs < wordLimit := h.trans (by decide)
  cases n with
  | ofNat magnitude =>
      have hsmall : magnitude < 2 ^ 53 := h
      have hdigits := isDigits_decimal magnitude
      refine ⟨.finite false (magnitude * unitsPerOne), ?_, toWhole?_mul_unitsPerOne hword⟩
      simp only [decimalInt, read?, splitSign_of_isDigits hdigits, readDecimal?_of_isDigits hdigits,
        digitsValue_decimal, toBinary64_of_lt hsmall]
  | negSucc magnitude =>
      have hsmall : magnitude + 1 < 2 ^ 53 := h
      have hdigits := isDigits_decimal (magnitude + 1)
      refine ⟨.finite true ((magnitude + 1) * unitsPerOne), ?_, toWhole?_mul_unitsPerOne hword⟩
      simp only [decimalInt, read?, splitSign, readDecimal?_of_isDigits hdigits,
        digitsValue_decimal, toBinary64_of_lt hsmall]

end Numeric
end MotionController
