import Mathlib.Data.List.Induction
import MotionController.Numeric.Digits

/-!
# Decimal spellings

A number is read back from its decimal digits (`readUnsigned?_decimal`), and a run of digits is the
decimal spelling of its value behind zeros (`exists_zeros_append_decimal`).
-/

namespace MotionController
namespace Numeric

variable {width n : Nat} {digits text : List Char} {c : Char}

/-- Not empty and made of ASCII digits. -/
structure IsDigits (digits : List Char) : Prop where
  ne_nil : digits ≠ []
  isDigit : ∀ c ∈ digits, c.isDigit = true

/-! ## Spelling and value -/

theorem isDigits_decimal (n : Nat) : IsDigits (decimal n) where
  ne_nil := Nat.toDigits_ne_nil
  isDigit := fun _ hc => Nat.isDigit_of_mem_toDigits (by decide) (by decide) hc

theorem digitsValue_decimal (n : Nat) : digitsValue (decimal n) = n :=
  Nat.ofDigitChars_ten_toDigits

theorem digitsValue_append_singleton (digits : List Char) (c : Char) :
    digitsValue (digits ++ [c]) = 10 * digitsValue digits + (c.toNat - '0'.toNat) := by
  simp [digitsValue]

theorem toNat_of_isDigit (hc : c.isDigit = true) : 48 ≤ c.toNat ∧ c.toNat ≤ 57 :=
  Char.isDigit_iff_toNat.1 hc

theorem not_isAlpha_of_isDigit (hc : c.isDigit = true) : c.isAlpha = false := by
  have hrange := toNat_of_isDigit hc
  have hdigits : ∀ n < 58, 48 ≤ n → (Char.ofNat n).isAlpha = false := by decide
  have hchar := hdigits c.toNat (Nat.lt_succ_of_le hrange.2) hrange.1
  rwa [Char.ofNat_toNat] at hchar

theorem value_lt_of_isDigit (hc : c.isDigit = true) : c.toNat - '0'.toNat < 10 := by
  have hrange := toNat_of_isDigit hc
  have hzero : '0'.toNat = 48 := rfl
  omega

theorem decimal_value_of_isDigit (hc : c.isDigit = true) : decimal (c.toNat - '0'.toNat) = [c] := by
  have hrange := toNat_of_isDigit hc
  have hlt := value_lt_of_isDigit hc
  have hzero : '0'.toNat = 48 := rfl
  have hchar : Nat.digitChar (c.toNat - '0'.toNat) = c := by
    apply Char.toNat_inj.1
    simp only [Nat.toNat_digitChar_of_lt_ten hlt]
    omega
  calc
    decimal (c.toNat - '0'.toNat) = [Nat.digitChar (c.toNat - '0'.toNat)] :=
      Nat.toDigits_of_lt_base hlt
    _ = [c] := by rw [hchar]

/-- A run of digits spells its value, behind zeros. -/
theorem IsDigits.exists_zeros_append_decimal (h : IsDigits digits) :
    ∃ zeros, (∀ c ∈ zeros, c = '0') ∧ digits = zeros ++ decimal (digitsValue digits) := by
  -- The value grows at its right end, and so does the spelling unless all digits so far are zeros.
  induction digits using List.reverseRecOn with
  | nil => exact absurd rfl h.ne_nil
  | append_singleton init c ih =>
      have hc : c.isDigit = true := h.isDigit c (by simp)
      have hlast := decimal_value_of_isDigit hc
      rcases eq_or_ne init [] with rfl | hne
      · refine ⟨[], by simp, ?_⟩
        simpa [digitsValue] using hlast.symm
      · have hinit : IsDigits init :=
          ⟨hne, fun d hd => h.isDigit d (List.mem_append_left _ hd)⟩
        rcases ih hinit with ⟨zeros, hzeros, heq⟩
        rcases Nat.eq_zero_or_pos (digitsValue init) with hvalue | hvalue
        · have hspelled : decimal (digitsValue init) = ['0'] := by
            simp only [hvalue]
            rfl
          refine ⟨init, ?_, ?_⟩
          · rw [heq, hspelled]
            intro d hd
            rcases List.mem_append.1 hd with hd | hd
            · exact hzeros d hd
            · simpa using hd
          · simp only [digitsValue_append_singleton, hvalue, Nat.mul_zero, Nat.zero_add, hlast]
        · refine ⟨zeros, hzeros, ?_⟩
          have hspelled : decimal (digitsValue init) ++ [c] =
              decimal (digitsValue (init ++ [c])) := by
            have happend := Nat.toDigits_append_toDigits (b := 10) (by decide) hvalue
              (value_lt_of_isDigit hc)
            rw [digitsValue_append_singleton, ← hlast]
            exact happend
          calc
            init ++ [c] = zeros ++ (decimal (digitsValue init) ++ [c]) := by
              simp only [← List.append_assoc, ← heq]
            _ = zeros ++ decimal (digitsValue (init ++ [c])) := by rw [hspelled]

/-- The text is the number in digits, with no zero in front of other digits. -/
structure Spells (text : List Char) (n : Nat) : Prop where
  digits : IsDigits text
  value : digitsValue text = n
  first : text.head? = some '0' → text = ['0']

theorem spells_decimal (n : Nat) : Spells (decimal n) n where
  digits := isDigits_decimal n
  value := digitsValue_decimal n
  first := by
    intro hzero
    rcases List.head?_eq_some_iff.1 hzero with ⟨rest, hrest⟩
    have hvalue : digitsValue rest = n := by
      simpa [hrest, digitsValue] using digitsValue_decimal n
    rcases eq_or_ne rest [] with rfl | hne
    · exact hrest
    · -- The digits behind the zero would spell the number too, and there are fewer of them.
      have hdigits := (isDigits_decimal n).isDigit
      rw [hrest] at hdigits
      have hbehind : IsDigits rest := ⟨hne, fun c hc => hdigits c (List.mem_cons_of_mem _ hc)⟩
      rcases hbehind.exists_zeros_append_decimal with ⟨zeros, -, heq⟩
      have hlength := congrArg List.length heq
      simp only [hvalue, hrest, List.length_append, List.length_cons] at hlength
      omega

/-- A number has one spelling. -/
theorem Spells.eq_decimal (h : Spells text n) : text = decimal n := by
  rcases h.digits.exists_zeros_append_decimal with ⟨zeros, hzeros, heq⟩
  rw [h.value] at heq
  cases zeros with
  | nil => exact heq
  | cons zero zeros =>
      obtain rfl := hzeros zero List.mem_cons_self
      have hone := h.first (by simp [heq])
      have hlength := List.length_pos_iff.2 (isDigits_decimal n).ne_nil
      simp_all

theorem decimal_injective : Function.Injective decimal :=
  Function.LeftInverse.injective digitsValue_decimal

/-! ## Reading -/

theorem IsDigits.head?_ne_plus (h : IsDigits digits) : digits.head? ≠ some '+' := by
  intro hplus
  have hdigit := h.isDigit '+' (List.mem_of_mem_head? hplus)
  exact absurd hdigit (by decide)

/-- The value of a text in digits that is in range. -/
theorem value_of_digits_eq_some_iff :
    (if text ≠ [] ∧ text.all Char.isDigit ∧ digitsValue text < Nat.pow 2 width then
        some (digitsValue text)
      else none) = some n ↔ IsDigits text ∧ digitsValue text = n ∧ n < Nat.pow 2 width := by
  constructor
  · intro h
    split at h
    · next hok =>
        rcases hok with ⟨hne, hall, hlt⟩
        cases h
        exact ⟨⟨hne, List.all_eq_true.1 hall⟩, rfl, hlt⟩
    · cases h
  · rintro ⟨hdigits, rfl, hlt⟩
    have hall : text.all Char.isDigit = true := List.all_eq_true.2 hdigits.isDigit
    exact if_pos ⟨hdigits.ne_nil, hall, hlt⟩

theorem readUnsigned?_eq_some_iff (hplus : text.head? ≠ some '+') :
    readUnsigned? width text = some n ↔
      IsDigits text ∧ digitsValue text = n ∧ n < Nat.pow 2 width := by
  have hread : readUnsigned? width text =
      if text ≠ [] ∧ text.all Char.isDigit ∧ digitsValue text < Nat.pow 2 width then
        some (digitsValue text)
      else none := by
    unfold readUnsigned?
    dsimp only
    split
    · simp at hplus
    · rfl
  simp only [hread]
  exact value_of_digits_eq_some_iff

theorem readUnsigned?_plus_eq_some_iff :
    readUnsigned? width ('+' :: text) = some n ↔
      IsDigits text ∧ digitsValue text = n ∧ n < Nat.pow 2 width :=
  value_of_digits_eq_some_iff

/-- A text is read when it is digits of a number in range, or a plus sign and such digits. -/
theorem readUnsigned?_eq_some_iff_exists :
    readUnsigned? width text = some n ↔
      ∃ digits, (text = digits ∨ text = '+' :: digits) ∧ IsDigits digits ∧
        digitsValue digits = n ∧ n < Nat.pow 2 width := by
  by_cases hplus : text.head? = some '+'
  · rcases List.head?_eq_some_iff.1 hplus with ⟨rest, rfl⟩
    rw [readUnsigned?_plus_eq_some_iff]
    constructor
    · intro h
      exact ⟨rest, .inr rfl, h⟩
    · rintro ⟨digits, rfl | hrest, hdigits, hvalue⟩
      · exact absurd rfl hdigits.head?_ne_plus
      · obtain rfl := (List.cons.inj hrest).2
        exact ⟨hdigits, hvalue⟩
  · rw [readUnsigned?_eq_some_iff hplus]
    constructor
    · intro h
      exact ⟨text, .inl rfl, h⟩
    · rintro ⟨digits, rfl | rfl, hdigits, hvalue⟩
      · exact ⟨hdigits, hvalue⟩
      · exact absurd rfl hplus

theorem readUnsigned?_decimal (h : n < Nat.pow 2 width) :
    readUnsigned? width (decimal n) = some n := by
  have hdigits := isDigits_decimal n
  exact (readUnsigned?_eq_some_iff hdigits.head?_ne_plus).2 ⟨hdigits, digitsValue_decimal n, h⟩

end Numeric
end MotionController
