import MotionController.Proofs.StringCell.Hexadecimal
import MotionController.Proofs.Text.Ascii
import MotionController.Proofs.Text.Tokens

/-!
# Fidelity of string cells

A cell holds six bytes (`Cell.Holds`), and every six bytes are held by one (`exists_cell`). A text
of at most six bytes is written as the cell that holds them, filled up with NULs, and is read back
as it was if it is in ASCII. A cell whose bytes are in ASCII is read and written again as it was,
and a cell may be respelled without changing what is read (`cell_is_faithful`).
-/

namespace MotionController
namespace StringCell

open Text

variable {bytes : List UInt8} {text other : String}

/-! ## Cells as they travel -/

/-- The parts of a written cell: eight upper-case digits in front of the point and four behind. -/
structure Cell where
  front : List Char
  back : List Char
  length_front : front.length = 8
  length_back : back.length = 4
  upper : front ++ back ⊆ upperDigits

namespace Cell

variable {cell : Cell}

/-- The cell with its marks, a dollar sign and a point. -/
def written (cell : Cell) : String :=
  String.ofList ('$' :: (cell.front ++ '.' :: cell.back))

def digits (cell : Cell) : List Char :=
  cell.front ++ cell.back

/-- The values of the six bytes that the digits spell. -/
def values (cell : Cell) : List Nat :=
  pairValues cell.digits

/-- The text has the digits of the cell in any letter case, blanks at the ends and marks aside. -/
def IsRespelled (cell : Cell) (other : String) : Prop :=
  ((trim other.toList).filter fun c => c ≠ '$' ∧ c ≠ '.').map Char.toUpper = cell.digits

instance (cell : Cell) : DecidablePred cell.IsRespelled :=
  fun _ => inferInstanceAs (Decidable (_ = _))

theorem mem_marks_or_digits {c : Char} (h : c ∈ cell.written.toList) :
    c ∈ '$' :: '.' :: upperDigits := by
  have hparts : ∀ c ∈ cell.front ++ cell.back, c ∈ upperDigits := fun _ hc => cell.upper hc
  simp only [List.forall_mem_append] at hparts
  simp only [written, String.toList_ofList, List.mem_cons, List.mem_append] at h
  rcases h with rfl | h | rfl | h
  · decide
  · exact List.mem_cons_of_mem _ (List.mem_cons_of_mem _ (hparts.1 c h))
  · decide
  · exact List.mem_cons_of_mem _ (List.mem_cons_of_mem _ (hparts.2 c h))

theorem byteLength_written (cell : Cell) : byteLength cell.written.toList = 14 := by
  have hall : ∀ n < 16, (hexDigit n).utf8Size = 1 := by decide
  have hone : ∀ c ∈ '$' :: '.' :: upperDigits, c.utf8Size = 1 := by
    simp only [List.forall_mem_cons]
    refine ⟨by decide, by decide, fun c hc => ?_⟩
    rcases exists_hexDigit hc with ⟨n, hn, rfl⟩
    exact hall n hn
  have hlength : cell.written.toList.length = 14 := by
    simp [written, cell.length_front, cell.length_back]
  have hbytes := byteLength_eq_length fun c hc => hone c (cell.mem_marks_or_digits hc)
  simpa only [hlength] using hbytes

/-! ## Bytes of a cell -/

/-- The digits of the cell are those of six bytes. -/
structure Holds (cell : Cell) (bytes : List UInt8) : Prop where
  length : bytes.length = 6
  digits : cell.digits = bytes.flatMap hexOfByte

theorem exists_holds (cell : Cell) : ∃ bytes, cell.Holds bytes := by
  have hlength : cell.digits.length = 2 * 6 := by
    simp only [Cell.digits, List.length_append, cell.length_front, cell.length_back]
  have heven : 2 ∣ cell.digits.length := ⟨6, hlength⟩
  rcases exists_bytes_of_upper heven cell.upper with ⟨bytes, hbytes⟩
  have hdouble : 2 * bytes.length = 2 * 6 := by
    simpa only [hbytes, length_flatMap_hexOfByte] using hlength
  exact ⟨bytes, Nat.eq_of_mul_eq_mul_left Nat.two_pos hdouble, hbytes⟩

theorem Holds.values_eq (h : cell.Holds bytes) : cell.values = bytes.map UInt8.toNat := by
  simp only [values, h.digits, pairValues_flatMap_hexOfByte]

theorem Holds.written_eq (h : cell.Holds bytes) : cell.written = String.ofList (render bytes) := by
  have hfront : (bytes.flatMap hexOfByte).take 8 = cell.front := by
    simp only [← h.digits, Cell.digits, List.take_left' cell.length_front]
  have hback : (bytes.flatMap hexOfByte).drop 8 = cell.back := by
    simp only [← h.digits, Cell.digits, List.drop_left' cell.length_front]
  simp only [written, render, hfront, hback]

end Cell

theorem exists_cell (h : bytes.length = 6) : ∃ cell : Cell, cell.Holds bytes := by
  have hlength : (bytes.flatMap hexOfByte).length = 12 := by
    simp only [length_flatMap_hexOfByte, h]
  have hfront : ((bytes.flatMap hexOfByte).take 8).length = 8 := by
    simp only [List.length_take, hlength]
    rfl
  have hback : ((bytes.flatMap hexOfByte).drop 8).length = 4 := by
    simp only [List.length_drop, hlength]
  have hparts := List.take_append_drop 8 (bytes.flatMap hexOfByte)
  have hupper : (bytes.flatMap hexOfByte).take 8 ++ (bytes.flatMap hexOfByte).drop 8 ⊆
      upperDigits := by
    simpa only [hparts] using flatMap_hexOfByte_subset bytes
  exact ⟨⟨_, _, hfront, hback, hupper⟩, h, hparts⟩

/-! ## Reading a cell -/

/-- A digit is neither a blank nor a mark, and it is its own upper case. -/
theorem plain_of_mem_upperDigits {c : Char} (h : c ∈ upperDigits) :
    isBlank c = false ∧ (c ≠ '$' ∧ c ≠ '.') ∧ c.toUpper = c := by
  have hall : ∀ n < 16, isBlank (hexDigit n) = false ∧ (hexDigit n ≠ '$' ∧ hexDigit n ≠ '.') ∧
      (hexDigit n).toUpper = hexDigit n := by
    decide
  rcases exists_hexDigit h with ⟨n, hn, rfl⟩
  exact hall n hn

theorem filter_marks_of_upper {part : List Char} (h : part ⊆ upperDigits) :
    (part.filter fun c => c ≠ '$' ∧ c ≠ '.') = part := by
  apply List.filter_eq_self.2
  intro c hc
  exact decide_eq_true (plain_of_mem_upperDigits (h hc)).2.1

theorem Cell.writtenDigits_written (cell : Cell) :
    writtenDigits cell.written.toList = cell.digits := by
  have hupper := cell.upper
  simp only [List.append_subset] at hupper
  rcases hupper with ⟨hfront, hback⟩
  -- No character of the cell is blank, so that nothing is trimmed.
  have htoken : IsToken ('$' :: (cell.front ++ '.' :: cell.back)) := by
    refine ⟨List.cons_ne_nil _ _, ?_⟩
    simp only [List.forall_mem_cons, List.forall_mem_append]
    exact ⟨by decide, fun c hc => (plain_of_mem_upperDigits (hfront hc)).1, by decide,
      fun c hc => (plain_of_mem_upperDigits (hback hc)).1⟩
  calc
    writtenDigits cell.written.toList
        = ('$' :: (cell.front ++ '.' :: cell.back)).filter fun c => c ≠ '$' ∧ c ≠ '.' := by
      simp only [writtenDigits, written, String.toList_ofList, htoken.trim_eq]
    _ = (cell.front.filter fun c => c ≠ '$' ∧ c ≠ '.') ++
          cell.back.filter fun c => c ≠ '$' ∧ c ≠ '.' := by simp
    _ = cell.digits := by rw [filter_marks_of_upper hfront, filter_marks_of_upper hback, digits]

theorem Cell.isRespelled_written (cell : Cell) : cell.IsRespelled cell.written := by
  have hsame : cell.digits.map Char.toUpper = cell.digits.map id := by
    apply List.map_congr_left
    intro c hc
    exact (plain_of_mem_upperDigits (cell.upper hc)).2.2
  calc
    (writtenDigits cell.written.toList).map Char.toUpper = cell.digits.map Char.toUpper :=
      congrArg _ cell.writtenDigits_written
    _ = cell.digits := by rw [hsame, List.map_id]

/-- However a cell is spelled, the characters of its bytes are read. -/
theorem Cell.Holds.decodeBinary_eq {cell : Cell} (h : cell.Holds bytes)
    (hother : cell.IsRespelled other) :
    decodeBinary other = .ok (String.ofList (charsOf bytes)) := by
  have hbytes : bytesOfHex? (writtenDigits other.toList) = some bytes := by
    have hdigits : (writtenDigits other.toList).map Char.toUpper = bytes.flatMap hexOfByte :=
      hother.trans h.digits
    rw [← bytesOfHex?_map_toUpper, hdigits, bytesOfHex?_flatMap_hexOfByte]
  simp only [decodeBinary, hbytes]
  rfl

theorem Cell.Holds.decode_eq {cell : Cell} (h : cell.Holds bytes)
    (hother : cell.IsRespelled other) :
    decode other = .ok (String.ofList ((charsOf bytes).rdropWhile (· = '\x00'))) := by
  simp only [decode, h.decodeBinary_eq hother, Except.map, dropTrailingNuls, String.toList_ofList]
  rfl

/-- Cells that are written alike hold the same bytes. -/
theorem Cell.Holds.bytes_eq {cell again : Cell} {more : List UInt8} (h : cell.Holds bytes)
    (hmore : again.Holds more) (hwritten : cell.written = again.written) : bytes = more := by
  have hdigits : cell.digits = again.digits := by
    simp only [← Cell.writtenDigits_written, hwritten]
  have hsame : some bytes = some more := by
    rw [← bytesOfHex?_flatMap_hexOfByte bytes, ← h.digits, hdigits, hmore.digits,
      bytesOfHex?_flatMap_hexOfByte]
  exact Option.some.inj hsame

/-! ## Writing a text -/

theorem length_fill (h : bytes.length ≤ 6) : (fill bytes).length = 6 := by
  simp only [fill, capacity, List.length_append, List.length_replicate]
  omega

theorem charsOf_fill (bytes : List UInt8) :
    charsOf (fill bytes) = charsOf bytes ++ List.replicate (6 - bytes.length) '\x00' := by
  simp only [fill, capacity, charsOf_append, charsOf_replicate_zero]

theorem countP_fill (bytes : List UInt8) :
    (fill bytes).countP (· ≠ 0) = bytes.countP (· ≠ 0) := by
  simp [fill]

theorem encode_eq_ok_iff {written : String} :
    encode text = .ok written ↔ (utf8Bytes text.toList).length ≤ 6 ∧
      String.ofList (render (fill (utf8Bytes text.toList))) = written := by
  by_cases hsize : (utf8Bytes text.toList).length ≤ 6
  · simp [encode, capacity, hsize]
  · simp [encode, capacity, hsize]

/-- The cell holds the text: its bytes are those of the text, filled up with NULs, and the text is
read from it, without the NULs it ends with, exactly when it is in ASCII. -/
structure Cell.IsOf (cell : Cell) (text : String) : Prop where
  binary : ∃ read, decodeBinary cell.written = .ok read ∧ read.length = 6 ∧
    read.toList.map Char.toNat = text.toUTF8.data.toList.map UInt8.toNat ++
      List.replicate (6 - text.utf8ByteSize) 0
  faithful : decode cell.written = .ok (String.ofList (text.toList.rdropWhile (· = '\x00'))) ↔
    ∀ c ∈ text.toList, c.toNat < 128

theorem Cell.Holds.isOf {cell : Cell} (h : cell.Holds (fill (utf8Bytes text.toList))) :
    cell.IsOf text where
  binary := by
    refine ⟨_, h.decodeBinary_eq cell.isRespelled_written, ?_, ?_⟩
    · simp only [String.length_ofList, charsOf, List.length_map, h.length]
    · simp only [String.toList_ofList, map_toNat_charsOf, fill, capacity, List.map_append,
        List.map_replicate, length_utf8Bytes_toList]
      rw [utf8Bytes_toList]
      rfl
  faithful := by
    -- The NULs that fill the cell are read as trailing ones.
    have hdecode := h.decode_eq cell.isRespelled_written
    simp only [charsOf_fill, rdropWhile_append_nuls] at hdecode
    simp only [hdecode, Except.ok.injEq, String.ofList_inj, rdropWhile_charsOf_utf8Bytes_eq_iff]

/-- What becomes of a text that is to be written: the cell that holds it, if it has at most six
bytes. -/
inductive Encodes (text : String) : Except Fault String → Prop where
  | written (hsize : text.utf8ByteSize ≤ 6) (cell : Cell) (hcell : cell.IsOf text) :
      Encodes text (.ok cell.written)
  | tooLong (hsize : 6 < text.utf8ByteSize) :
      Encodes text (.error (.tooLong text.utf8ByteSize))

theorem encodes (text : String) : Encodes text (encode text) := by
  rcases Nat.lt_or_ge 6 text.utf8ByteSize with hsize | hsize
  · have hencode : encode text = .error (.tooLong text.utf8ByteSize) := by
      simp only [encode, length_utf8Bytes_toList, capacity, Nat.not_le_of_lt hsize, if_false]
    simpa only [hencode] using Encodes.tooLong hsize
  · have hfits : (utf8Bytes text.toList).length ≤ 6 := by
      simpa only [length_utf8Bytes_toList] using hsize
    rcases exists_cell (length_fill hfits) with ⟨cell, hcell⟩
    have hencode : encode text = .ok cell.written :=
      encode_eq_ok_iff.2 ⟨hfits, hcell.written_eq.symm⟩
    simpa only [hencode] using Encodes.written hsize cell hcell.isOf

/-! ## Writing what was read -/

/-- What is left of bytes in ASCII without the NULs at their end is filled up to them again. -/
theorem fill_utf8Bytes_of_ascii {text : List Char} {n : Nat} (hlength : bytes.length = 6)
    (hascii : ∀ byte ∈ bytes, byte.toNat < 128)
    (htext : charsOf bytes = text ++ List.replicate n '\x00') :
    (utf8Bytes text).length ≤ 6 ∧ fill (utf8Bytes text) = bytes := by
  have hnuls : utf8Bytes (List.replicate n '\x00') = List.replicate n 0 := by
    rw [← charsOf_replicate_zero, utf8Bytes_charsOf]
    intro byte hbyte
    rw [List.eq_of_mem_replicate hbyte]
    decide
  have hbytes : bytes = utf8Bytes text ++ List.replicate n 0 := by
    rw [← hnuls, ← utf8Bytes_append, ← htext, utf8Bytes_charsOf hascii]
  have hsum : (utf8Bytes text).length + n = 6 := by
    simpa only [hlength, List.length_append, List.length_replicate] using
      (congrArg List.length hbytes).symm
  have hn : 6 - (utf8Bytes text).length = n := by omega
  exact ⟨by omega, by rw [fill, capacity, hn, ← hbytes]⟩

/-- Reading a cell and writing what was read gives the cell exactly if its bytes are in ASCII: any
other byte is read as a character of two bytes. -/
theorem Cell.Holds.encode_decode_iff {cell : Cell} (h : cell.Holds bytes) :
    (decode cell.written).bind encode = .ok cell.written ↔ ∀ byte ∈ bytes, byte.toNat < 128 := by
  have hdecode := h.decode_eq cell.isRespelled_written
  have hascii := (forall_ascii_rdropWhile_iff (charsOf bytes)).trans forall_ascii_charsOf_iff
  have hcount := (countP_rdropWhile (charsOf bytes)).trans (countP_charsOf bytes)
  rcases exists_rdropWhile_append_nuls (charsOf bytes) with ⟨n, hn⟩
  generalize (charsOf bytes).rdropWhile (· = '\x00') = text at hdecode hascii hcount hn
  simp only [hdecode, Except.bind, encode_eq_ok_iff, String.toList_ofList]
  constructor
  · rintro ⟨hsize, hwritten⟩
    rcases exists_cell (length_fill hsize) with ⟨again, hagain⟩
    have hbytes : fill (utf8Bytes text) = bytes :=
      hagain.bytes_eq h (hagain.written_eq.trans hwritten)
    -- What was read takes as many bytes as it has characters, NULs aside.
    apply hascii.1
    apply countP_utf8Bytes_eq_iff.1
    rw [hcount, ← hbytes, countP_fill]
  · intro hbytes
    have hfill := fill_utf8Bytes_of_ascii h.length hbytes hn
    exact ⟨hfill.1, by rw [hfill.2, h.written_eq]⟩

/-! ## Both ways -/

/-- Writing a text gives the cell that holds it, or refuses it for its size. A cell is read and
written again as it was exactly if its bytes are in ASCII, and it is read alike however it is
spelled. -/
theorem cell_is_faithful (text : String) (cell : Cell) :
    Encodes text (encode text) ∧
      ((decode cell.written).bind encode = .ok cell.written ↔ ∀ value ∈ cell.values, value < 128) ∧
      ∀ other, cell.IsRespelled other →
        ∃ read, decode cell.written = .ok read ∧ decode other = .ok read := by
  rcases cell.exists_holds with ⟨bytes, hbytes⟩
  refine ⟨encodes text, ?_, ?_⟩
  · simp only [hbytes.encode_decode_iff, hbytes.values_eq, List.forall_mem_map]
  · intro other hother
    exact ⟨_, hbytes.decode_eq cell.isRespelled_written, hbytes.decode_eq hother⟩

theorem cell_is_faithful_lower_case :
    Encodes "Hé" (encode "Hé") ∧
      (decode "$486F6D69.6E00").bind encode = .ok "$486F6D69.6E00" ∧
      ∃ read, decode "$486F6D69.6E00" = .ok read ∧ decode "\t486f.6D69$6e00 " = .ok read := by
  have hfaithful :=
    cell_is_faithful "Hé" ⟨"486F6D69".toList, "6E00".toList, rfl, rfl, by decide⟩
  exact ⟨hfaithful.1, hfaithful.2.1.2 (by decide),
    hfaithful.2.2 "\t486f.6D69$6e00 " (by decide)⟩

end StringCell
end MotionController
