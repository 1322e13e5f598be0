import Mathlib.Data.List.DropRight
import MotionController.Text.Bytes

/-!
# Characters and their bytes

A text in ASCII is its own bytes, a character a byte (`utf8Bytes_charsOf`, `charsOf_utf8Bytes`).
Any other character is written as several bytes, none of them NUL, so that a text has as many bytes
as characters other than NUL only if it is in ASCII (`countP_utf8Bytes_eq_iff`).
-/

namespace MotionController
namespace Text

variable {bytes : List UInt8} {text : List Char} {byte : UInt8} {c : Char}

/-- Where each character is one byte, there are as many bytes as characters. -/
theorem byteLength_eq_length (h : ∀ c ∈ text, c.utf8Size = 1) : byteLength text = text.length := by
  induction text with
  | nil => rfl
  | cons c rest ih =>
      simp only [List.forall_mem_cons] at h
      simp [h.1, ih h.2, Nat.add_comm]

/-- Letters and digits are in ASCII. -/
theorem toNat_lt_of_isAlphanum (hc : c.isAlphanum = true) : c.toNat < 128 := by
  have hlt : ∀ last : Char, last.toNat < 128 → c.val ≤ last.val → c.toNat < 128 :=
    fun last hlast hle => Nat.lt_of_le_of_lt (UInt32.le_iff_toNat_le.1 hle) hlast
  rcases Bool.or_eq_true_iff.1 hc with halpha | hdigit
  · rcases Bool.or_eq_true_iff.1 halpha with hupper | hlower
    · exact hlt 'Z' (by decide) (of_decide_eq_true hupper).2
    · exact hlt 'z' (by decide) (of_decide_eq_true (Bool.and_eq_true_iff.1 hlower).2)
  · exact hlt '9' (by decide) (of_decide_eq_true (Bool.and_eq_true_iff.1 hdigit).2)

/-! ## Characters of bytes -/

/-- The character that has the byte for its code point. -/
def charOf (byte : UInt8) : Char :=
  Char.ofNat byte.toNat

/-- One character for each byte. -/
def charsOf (bytes : List UInt8) : List Char :=
  bytes.map charOf

theorem toNat_charOf (byte : UInt8) : (charOf byte).toNat = byte.toNat := by
  -- The code points of bytes lie below the surrogates.
  have hlt := byte.toNat_lt
  have hvalid : byte.toNat.isValidChar := Or.inl (by omega)
  have hchar : charOf byte = Char.ofNatAux byte.toNat hvalid := dif_pos hvalid
  rw [hchar]
  rfl

theorem charOf_eq_nul_iff : charOf byte = '\x00' ↔ byte = 0 := by
  constructor
  · intro h
    have hzero : byte.toNat = '\x00'.toNat := by
      simpa only [toNat_charOf] using congrArg Char.toNat h
    exact UInt8.toNat_inj.1 hzero
  · intro h
    simp only [h]
    rfl

theorem charOf_toUInt8 (hc : c.toNat < 128) : charOf (UInt8.ofNat c.toNat) = c := by
  have hsame : (UInt8.ofNat c.toNat).toNat = c.toNat := by
    simp only [UInt8.toNat_ofNat']
    omega
  simp only [charOf, hsame, Char.ofNat_toNat]

theorem map_toNat_charsOf (bytes : List UInt8) :
    (charsOf bytes).map Char.toNat = bytes.map UInt8.toNat := by
  simp [charsOf, toNat_charOf]

theorem forall_ascii_charsOf_iff :
    (∀ c ∈ charsOf bytes, c.toNat < 128) ↔ ∀ byte ∈ bytes, byte.toNat < 128 := by
  simp only [charsOf, List.forall_mem_map, toNat_charOf]

theorem charsOf_append (bytes more : List UInt8) :
    charsOf (bytes ++ more) = charsOf bytes ++ charsOf more :=
  List.map_append

theorem charsOf_replicate_zero (n : Nat) :
    charsOf (List.replicate n 0) = List.replicate n '\x00' :=
  List.map_replicate

/-! ## Texts in ASCII -/

theorem utf8Bytes_cons (c : Char) (text : List Char) :
    utf8Bytes (c :: text) = String.utf8EncodeChar c ++ utf8Bytes text :=
  List.flatMap_cons

theorem utf8Bytes_append (a b : List Char) : utf8Bytes (a ++ b) = utf8Bytes a ++ utf8Bytes b :=
  List.flatMap_append

/-- The bytes of a text are those that the text is made of. -/
theorem utf8Bytes_toList (text : String) : utf8Bytes text.toList = text.toUTF8.data.toList := by
  have hencode : text.toList.utf8Encode = text.toByteArray := String.utf8Encode_toList
  simp only [String.toUTF8_eq_toByteArray, ← hencode]
  exact List.toList_data_toByteArray.symm

theorem length_utf8Bytes_toList (text : String) :
    (utf8Bytes text.toList).length = text.utf8ByteSize := by
  simp only [utf8Bytes_toList]
  exact Array.length_toList

theorem utf8EncodeChar_of_ascii (hc : c.toNat < 128) :
    String.utf8EncodeChar c = [UInt8.ofNat c.toNat] := by
  have hval : c.val.toNat ≤ 127 := Nat.le_of_lt_succ hc
  simp only [String.utf8EncodeChar, hval, if_true]
  rfl

theorem utf8Bytes_charsOf (h : ∀ byte ∈ bytes, byte.toNat < 128) :
    utf8Bytes (charsOf bytes) = bytes := by
  induction bytes with
  | nil => rfl
  | cons byte bytes ih =>
      have hbyte : (charOf byte).toNat < 128 := by
        simpa only [toNat_charOf] using h byte List.mem_cons_self
      have hrest := ih fun other hother => h other (List.mem_cons_of_mem _ hother)
      calc
        utf8Bytes (charsOf (byte :: bytes))
            = String.utf8EncodeChar (charOf byte) ++ utf8Bytes (charsOf bytes) :=
          utf8Bytes_cons _ _
        _ = [UInt8.ofNat (charOf byte).toNat] ++ bytes := by
          rw [utf8EncodeChar_of_ascii hbyte, hrest]
        _ = byte :: bytes := by simp only [toNat_charOf, UInt8.ofNat_toNat, List.singleton_append]

theorem charsOf_utf8Bytes (h : ∀ c ∈ text, c.toNat < 128) : charsOf (utf8Bytes text) = text := by
  induction text with
  | nil => rfl
  | cons c text ih =>
      have hc := h c List.mem_cons_self
      have hrest := ih fun other hother => h other (List.mem_cons_of_mem _ hother)
      calc
        charsOf (utf8Bytes (c :: text)) = charsOf (String.utf8EncodeChar c ++ utf8Bytes text) :=
          congrArg charsOf (utf8Bytes_cons c text)
        _ = charsOf [UInt8.ofNat c.toNat] ++ charsOf (utf8Bytes text) := by
          rw [charsOf_append, utf8EncodeChar_of_ascii hc]
        _ = c :: text := by
          rw [hrest]
          exact congrArg (· :: text) (charOf_toUInt8 hc)

/-! ## Counting -/

theorem countP_charsOf (bytes : List UInt8) :
    (charsOf bytes).countP (· ≠ '\x00') = bytes.countP (· ≠ 0) := by
  simp [charsOf, List.countP_map, Function.comp_def, charOf_eq_nul_iff]

theorem ofNat_ne_zero {n : Nat} (h : n % 256 ≠ 0) : UInt8.ofNat n ≠ 0 := by
  intro hzero
  exact h (by simpa using congrArg UInt8.toNat hzero)

theorem countP_utf8EncodeChar_of_ascii (hc : c.toNat < 128) :
    (String.utf8EncodeChar c).countP (· ≠ 0) = [c].countP (· ≠ '\x00') := by
  have hsame := countP_charsOf (String.utf8EncodeChar c)
  simp only [utf8EncodeChar_of_ascii hc] at hsame ⊢
  simpa only [charsOf, List.map_cons, List.map_nil, charOf_toUInt8 hc] using hsame.symm

/-- A character that is not in ASCII begins with two bytes other than NUL. -/
theorem two_le_countP_utf8EncodeChar (hc : 128 ≤ c.toNat) :
    2 ≤ (String.utf8EncodeChar c).countP (· ≠ 0) := by
  have hlead : ∃ first second rest, String.utf8EncodeChar c = first :: second :: rest ∧
      first ≠ 0 ∧ second ≠ 0 := by
    have hval : ¬c.val.toNat ≤ 127 := Nat.not_le_of_lt hc
    simp only [String.utf8EncodeChar, hval, if_false]
    -- The forms of two, three and four bytes all begin with marked bytes.
    split
    · exact ⟨_, _, _, rfl, ofNat_ne_zero (by omega), ofNat_ne_zero (by omega)⟩
    · split
      · exact ⟨_, _, _, rfl, ofNat_ne_zero (by omega), ofNat_ne_zero (by omega)⟩
      · exact ⟨_, _, _, rfl, ofNat_ne_zero (by omega), ofNat_ne_zero (by omega)⟩
  rcases hlead with ⟨first, second, rest, hencode, hfirst, hsecond⟩
  simp [hencode, hfirst, hsecond]

theorem countP_le_countP_utf8EncodeChar (c : Char) :
    [c].countP (· ≠ '\x00') ≤ (String.utf8EncodeChar c).countP (· ≠ 0) := by
  by_cases hc : c.toNat < 128
  · exact (countP_utf8EncodeChar_of_ascii hc).ge
  · have hone : [c].countP (· ≠ '\x00') ≤ 1 := List.countP_le_length
    have htwo := two_le_countP_utf8EncodeChar (Nat.le_of_not_lt hc)
    omega

theorem countP_cons_eq_add (c : Char) (text : List Char) :
    (c :: text).countP (· ≠ '\x00') = [c].countP (· ≠ '\x00') + text.countP (· ≠ '\x00') := by
  have hsplit : c :: text = [c] ++ text := rfl
  rw [hsplit, List.countP_append]

theorem countP_le_countP_utf8Bytes (text : List Char) :
    text.countP (· ≠ '\x00') ≤ (utf8Bytes text).countP (· ≠ 0) := by
  induction text with
  | nil => exact Nat.le_refl 0
  | cons c text ih =>
      calc
        (c :: text).countP (· ≠ '\x00')
            = [c].countP (· ≠ '\x00') + text.countP (· ≠ '\x00') := countP_cons_eq_add c text
        _ ≤ (String.utf8EncodeChar c).countP (· ≠ 0) + (utf8Bytes text).countP (· ≠ 0) :=
          Nat.add_le_add (countP_le_countP_utf8EncodeChar c) ih
        _ = (utf8Bytes (c :: text)).countP (· ≠ 0) := by rw [utf8Bytes_cons, List.countP_append]

/-- Every character that is not in ASCII has a byte to spare. -/
theorem countP_utf8Bytes_eq_iff :
    (utf8Bytes text).countP (· ≠ 0) = text.countP (· ≠ '\x00') ↔ ∀ c ∈ text, c.toNat < 128 := by
  induction text with
  | nil => simp [utf8Bytes]
  | cons c text ih =>
      have hbytes : (utf8Bytes (c :: text)).countP (· ≠ 0) =
          (String.utf8EncodeChar c).countP (· ≠ 0) + (utf8Bytes text).countP (· ≠ 0) := by
        simp only [utf8Bytes_cons, List.countP_append]
      have hrest := countP_le_countP_utf8Bytes text
      simp only [List.forall_mem_cons, ← ih, hbytes, countP_cons_eq_add c text]
      constructor
      · intro h
        -- Neither summand has too few bytes, so that neither has bytes to spare.
        have hfirst := countP_le_countP_utf8EncodeChar c
        refine ⟨?_, by omega⟩
        by_contra hc
        have hone : [c].countP (· ≠ '\x00') ≤ 1 := List.countP_le_length
        have htwo := two_le_countP_utf8EncodeChar (Nat.le_of_not_lt hc)
        omega
      · rintro ⟨hc, htext⟩
        rw [countP_utf8EncodeChar_of_ascii hc, htext]

/-! ## Trailing NULs -/

theorem exists_rdropWhile_append_nuls (text : List Char) :
    ∃ n, text = text.rdropWhile (· = '\x00') ++ List.replicate n '\x00' := by
  have hnuls : ∀ c ∈ text.rtakeWhile (· = '\x00'), c = '\x00' := by
    intro c hc
    simpa using List.mem_rtakeWhile_imp hc
  refine ⟨(text.rtakeWhile (· = '\x00')).length, ?_⟩
  rw [← List.eq_replicate_of_mem hnuls]
  exact (List.rdropWhile_append_rtakeWhile ..).symm

theorem rdropWhile_append_nuls (text : List Char) (n : Nat) :
    (text ++ List.replicate n '\x00').rdropWhile (· = '\x00') =
      text.rdropWhile (· = '\x00') := by
  induction n with
  | zero => simp
  | succ n ih => simpa [List.replicate_succ', ← List.append_assoc, List.rdropWhile_concat] using ih

theorem countP_rdropWhile (text : List Char) :
    (text.rdropWhile (· = '\x00')).countP (· ≠ '\x00') = text.countP (· ≠ '\x00') := by
  rcases exists_rdropWhile_append_nuls text with ⟨n, hn⟩
  have hnuls : (List.replicate n '\x00').countP (· ≠ '\x00') = 0 := by simp
  calc
    (text.rdropWhile (· = '\x00')).countP (· ≠ '\x00')
        = (text.rdropWhile (· = '\x00') ++ List.replicate n '\x00').countP (· ≠ '\x00') := by
      rw [List.countP_append, hnuls, Nat.add_zero]
    _ = text.countP (· ≠ '\x00') := by rw [← hn]

theorem forall_ascii_rdropWhile_iff (text : List Char) :
    (∀ c ∈ text.rdropWhile (· = '\x00'), c.toNat < 128) ↔ ∀ c ∈ text, c.toNat < 128 := by
  rcases exists_rdropWhile_append_nuls text with ⟨n, hn⟩
  have hnuls : ∀ c ∈ List.replicate n '\x00', c.toNat < 128 := by
    intro c hc
    rw [List.eq_of_mem_replicate hc]
    decide
  constructor
  · intro h
    rw [hn]
    exact List.forall_mem_append.2 ⟨h, hnuls⟩
  · intro h c hc
    exact h c ((List.rdropWhile_prefix _ text).mem hc)

/-- Trailing NULs aside, exactly a text in ASCII is made of the characters of its bytes. -/
theorem rdropWhile_charsOf_utf8Bytes_eq_iff :
    (charsOf (utf8Bytes text)).rdropWhile (· = '\x00') = text.rdropWhile (· = '\x00') ↔
      ∀ c ∈ text, c.toNat < 128 := by
  constructor
  · intro h
    apply countP_utf8Bytes_eq_iff.1
    calc
      (utf8Bytes text).countP (· ≠ 0)
          = ((charsOf (utf8Bytes text)).rdropWhile (· = '\x00')).countP (· ≠ '\x00') := by
        rw [countP_rdropWhile, countP_charsOf]
      _ = text.countP (· ≠ '\x00') := by rw [h, countP_rdropWhile]
  · intro h
    rw [charsOf_utf8Bytes h]

end Text
end MotionController
