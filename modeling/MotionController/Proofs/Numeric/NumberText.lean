import MotionController.DeviceNumber
import MotionController.Proofs.Numeric.Decimal

/-!
# What number texts are made of

The text of a number is never empty, and it holds digits, a minus sign, a point and the letters of
`NaN` and `inf` only (`DeviceNumber.isNumberText_text`).
-/

namespace MotionController
namespace Numeric

variable {width : Nat} {digits a b : List Char} {c : Char}

/-- A digit, a sign, a point, or a letter of `NaN` or `inf`. -/
def isNumberChar (c : Char) : Bool :=
  c.isDigit || "-.NaNinf".toList.contains c

/-- Not empty and made of characters that numbers are written with. -/
structure IsNumberText (text : List Char) : Prop where
  ne_nil : text ≠ []
  chars : ∀ c ∈ text, isNumberChar c = true

/-- What a text is made of can be tested. -/
theorem IsNumberText.of_all {text : List Char} (hne : text ≠ [])
    (h : text.all isNumberChar = true) : IsNumberText text :=
  ⟨hne, List.all_eq_true.1 h⟩

theorem IsNumberText.not_mem {text : List Char} (h : IsNumberText text)
    (hc : isNumberChar c = false) : c ∉ text := by
  intro hmem
  simp [h.chars c hmem] at hc

theorem IsNumberText.append (ha : IsNumberText a) (hb : IsNumberText b) :
    IsNumberText (a ++ b) where
  ne_nil := List.append_ne_nil_of_left_ne_nil ha.ne_nil b
  chars := List.forall_mem_append.2 ⟨ha.chars, hb.chars⟩

theorem IsNumberText.cons (hc : isNumberChar c = true) (ha : IsNumberText a) :
    IsNumberText (c :: a) where
  ne_nil := List.cons_ne_nil c a
  chars := List.forall_mem_cons.2 ⟨hc, ha.chars⟩

theorem IsDigits.isNumberText (h : IsDigits digits) : IsNumberText digits where
  ne_nil := h.ne_nil
  chars := fun c hc => by simp [isNumberChar, h.isDigit c hc]

theorem isNumberText_decimal (n : Nat) : IsNumberText (decimal n) :=
  (isDigits_decimal n).isNumberText

theorem isNumberText_decimalInt (value : Int) : IsNumberText (decimalInt value) := by
  cases value with
  | ofNat n => exact isNumberText_decimal n
  | negSucc n => exact (isNumberText_decimal (n + 1)).cons (by decide)

theorem isNumberText_padZeros (h : IsNumberText digits) :
    IsNumberText (padZeros width digits) where
  ne_nil := List.append_ne_nil_of_right_ne_nil _ h.ne_nil
  chars := by
    intro c hc
    rcases List.mem_append.1 hc with hc | hc
    · obtain rfl := List.eq_of_mem_replicate hc
      decide
    · exact h.chars c hc

theorem isNumberText_positional (number : Decimal) : IsNumberText number.positional := by
  unfold Decimal.positional
  split
  · exact isNumberText_decimal _
  · exact (isNumberText_decimal _).append
      ((isNumberText_padZeros (isNumberText_decimal _)).cons (by decide))

end Numeric

open Numeric

theorem Binary64.isNumberText_text (x : Binary64) : IsNumberText x.text := by
  have hsigned : ∀ (negative : Bool) {text : List Char}, IsNumberText text →
      IsNumberText ((if negative then ['-'] else []) ++ text) := by
    intro negative text h
    cases negative with
    | false => exact h
    | true => exact h.cons (by decide)
  cases x with
  | nan => exact .of_all (by decide) (by decide)
  | infinite negative => exact hsigned negative (.of_all (by decide) (by decide))
  | finite negative units =>
      apply hsigned negative
      split
      · exact .of_all (by decide) (by decide)
      · exact isNumberText_positional _

theorem DeviceNumber.isNumberText_text (x : DeviceNumber) : IsNumberText x.text.toList := by
  cases x with
  | whole value => simpa [DeviceNumber.text] using isNumberText_decimalInt value
  | real value => simpa [DeviceNumber.text] using value.isNumberText_text

end MotionController
