import MotionController.Proofs.Text.Ascii

/-!
# Positions in a text

A position counts the bytes of a text in UTF-8. A text can be sliced only where one of its
characters ends, which is where the rest of the text begins (`sliceFrom_eq_ok_iff`,
`sliceFrom_positionOf`).

The bytes of an ASCII character occur in a text only where the character does, so that a search for
them finds the positions of characters: at a given place (`prefix_utf8Bytes_iff`), as a run from
there on (`takeWhile_utf8Bytes`), and anywhere behind it (`positionsBehind_utf8Bytes_cons`).
-/

namespace MotionController
namespace Text

variable {text rest a b : List Char} {c d : Char} {position : Nat}

/-! ## Slices -/

/-- A text cannot be sliced at this position: it is inside a character or outside the text. -/
structure BadPosition where
  position : Nat
  deriving DecidableEq, Repr

/-- Splits a text at a position, if a character ends there. -/
def splitAtByte? : (position : Nat) → List Char → Option (List Char × List Char)
  | 0, text => some ([], text)
  | _ + 1, [] => none
  | position + 1, c :: rest =>
      if c.utf8Size ≤ position + 1 then
        (splitAtByte? (position + 1 - c.utf8Size) rest).map fun (before, behind) =>
          (c :: before, behind)
      else
        none

/-- The text behind a position. -/
def sliceFrom (text : List Char) (start : Nat) : Except BadPosition (List Char) :=
  match splitAtByte? start text with
  | some (_, behind) => .ok behind
  | none => .error ⟨start⟩

/-- The text between two positions. -/
def slice (text : List Char) (start stop : Nat) : Except BadPosition (List Char) := do
  let behind ← sliceFrom text start
  match if start ≤ stop then splitAtByte? (stop - start) behind else none with
  | some (between, _) => .ok between
  | none => .error ⟨stop⟩

/-- The bytes behind a position. -/
def bytesFrom (text : List Char) (start : Nat) : Except BadPosition (List UInt8) := do
  let behind ← sliceFrom text start
  return utf8Bytes behind

theorem splitAtByte?_append (a b : List Char) :
    splitAtByte? (byteLength a) (a ++ b) = some (a, b) := by
  induction a with
  | nil => simp [splitAtByte?]
  | cons c a ih =>
      have hpos := c.utf8Size_pos
      obtain ⟨size, hsize⟩ : ∃ size, c.utf8Size = size + 1 := ⟨c.utf8Size - 1, by omega⟩
      have hlength : byteLength (c :: a) = (size + byteLength a) + 1 := by
        simp only [byteLength_cons, hsize]
        omega
      have hle : size + 1 ≤ size + byteLength a + 1 := by omega
      have hrest : size + byteLength a + 1 - (size + 1) = byteLength a := by omega
      simp [hlength, splitAtByte?, hsize, hle, hrest, ih]

theorem splitAtByte?_eq_some_iff :
    splitAtByte? position text = some (a, b) ↔ text = a ++ b ∧ byteLength a = position := by
  constructor
  · intro h
    induction text generalizing position a with
    | nil =>
        cases position with
        | zero =>
            simp only [splitAtByte?, Option.some.injEq, Prod.mk.injEq] at h
            simp [← h.1, ← h.2]
        | succ position => simp [splitAtByte?] at h
    | cons c text ih =>
        cases position with
        | zero =>
            simp only [splitAtByte?, Option.some.injEq, Prod.mk.injEq] at h
            simp [← h.1, h.2]
        | succ position =>
            simp only [splitAtByte?] at h
            split at h
            · next hle =>
                obtain ⟨⟨before, behind⟩, hsplit, heq⟩ := Option.map_eq_some_iff.1 h
                simp only [Prod.mk.injEq] at heq
                rcases heq with ⟨rfl, rfl⟩
                rcases ih hsplit with ⟨rfl, hlength⟩
                refine ⟨rfl, ?_⟩
                simp only [byteLength_cons]
                omega
            · cases h
  · rintro ⟨rfl, rfl⟩
    exact splitAtByte?_append a b

/-- A text is sliced exactly where one of its characters ends. -/
theorem sliceFrom_eq_ok_iff :
    sliceFrom text position = .ok b ↔ ∃ a, text = a ++ b ∧ byteLength a = position := by
  unfold sliceFrom
  constructor
  · intro h
    split at h
    · next before behind hsplit =>
        simp only [Except.ok.injEq] at h
        subst h
        exact ⟨before, splitAtByte?_eq_some_iff.1 hsplit⟩
    · cases h
  · rintro ⟨a, rfl, rfl⟩
    simp [splitAtByte?_append]

/-! ## Where the rest of a text begins -/

/-- The position in a text where its end `rest` begins. -/
def positionOf (text rest : List Char) : Nat :=
  byteLength text - byteLength rest

@[simp] theorem positionOf_self (text : List Char) : positionOf text text = 0 :=
  Nat.sub_self _

theorem positionOf_append (before rest : List Char) :
    positionOf (before ++ rest) rest = byteLength before := by
  simp [positionOf]

/-- A text in front of the rest takes its bytes. -/
theorem positionOf_add (h : a ++ b <:+ text) :
    positionOf text (a ++ b) + byteLength a = positionOf text b := by
  rcases h with ⟨before, rfl⟩
  simp only [positionOf, byteLength_append]
  omega

theorem positionOf_le (h : b <:+ a) (ha : a <:+ text) : positionOf text a ≤ positionOf text b := by
  rcases h with ⟨between, rfl⟩
  have hadd := positionOf_add ha
  omega

theorem positionOf_lt (h : c :: b <:+ a) (ha : a <:+ text) :
    positionOf text a < positionOf text b := by
  have hpos := c.utf8Size_pos
  rcases ha with ⟨before, rfl⟩
  rcases h with ⟨between, rfl⟩
  simp only [positionOf, byteLength_append, byteLength_cons]
  omega

theorem positionOf_le_byteLength (text rest : List Char) : positionOf text rest ≤ byteLength text :=
  Nat.sub_le _ _

theorem sliceFrom_positionOf (h : rest <:+ text) :
    sliceFrom text (positionOf text rest) = .ok rest := by
  rcases h with ⟨before, rfl⟩
  rw [sliceFrom_eq_ok_iff, positionOf_append]
  exact ⟨before, rfl, rfl⟩

theorem slice_positionOf (h : a ++ b <:+ text) :
    slice text (positionOf text (a ++ b)) (positionOf text b) = .ok a := by
  have hle : positionOf text (a ++ b) ≤ positionOf text b := by
    have hadd := positionOf_add h
    omega
  have hlength : positionOf text b - positionOf text (a ++ b) = byteLength a := by
    have hadd := positionOf_add h
    omega
  simp [slice, sliceFrom_positionOf h, bind, Except.bind, hle, hlength, splitAtByte?_append]

theorem bytesFrom_positionOf (h : rest <:+ text) :
    bytesFrom text (positionOf text rest) = .ok (utf8Bytes rest) := by
  simp [bytesFrom, sliceFrom_positionOf h, bind, Except.bind, pure, Except.pure]

theorem getElem?_utf8Bytes_positionOf (h : rest <:+ text) :
    (utf8Bytes text)[positionOf text rest]? = (utf8Bytes rest).head? := by
  rcases h with ⟨before, rfl⟩
  have hlength : (utf8Bytes before).length = positionOf (before ++ rest) rest := by
    rw [length_utf8Bytes, positionOf_append]
  rw [utf8Bytes_append, List.getElem?_append_right hlength.le, hlength, Nat.sub_self,
    List.head?_eq_getElem?]

/-! ## The bytes of ASCII characters -/

theorem le_toNat_ofNat {n : Nat} (hle : 128 ≤ n) (hlt : n < 256) : 128 ≤ (UInt8.ofNat n).toNat := by
  simp only [UInt8.toNat_ofNat']
  omega

/-- All bytes of a character that is not in ASCII have their highest bit set. -/
theorem le_toNat_of_mem_utf8EncodeChar (hc : 128 ≤ c.toNat) :
    ∀ byte ∈ String.utf8EncodeChar c, 128 ≤ byte.toNat := by
  have hval : ¬c.val.toNat ≤ 127 := Nat.not_le_of_lt hc
  simp only [String.utf8EncodeChar, hval, if_false]
  -- The forms of two, three and four bytes consist of marked bytes.
  split
  · simp only [List.forall_mem_cons]
    exact ⟨le_toNat_ofNat (by omega) (by omega), le_toNat_ofNat (by omega) (by omega), by simp⟩
  · split
    · simp only [List.forall_mem_cons]
      exact ⟨le_toNat_ofNat (by omega) (by omega), le_toNat_ofNat (by omega) (by omega),
        le_toNat_ofNat (by omega) (by omega), by simp⟩
    · simp only [List.forall_mem_cons]
      exact ⟨le_toNat_ofNat (by omega) (by omega), le_toNat_ofNat (by omega) (by omega),
        le_toNat_ofNat (by omega) (by omega), le_toNat_ofNat (by omega) (by omega), by simp⟩

theorem toNat_toUInt8 (hd : d.toNat < 128) : d.toUInt8.toNat = d.toNat := by
  have hbyte : d.toUInt8 = UInt8.ofNat d.toNat := rfl
  simp only [hbyte, UInt8.toNat_ofNat']
  omega

@[simp] theorem utf8Bytes_nil : utf8Bytes [] = [] := rfl

theorem utf8Bytes_cons_of_ascii (hd : d.toNat < 128) (text : List Char) :
    utf8Bytes (d :: text) = d.toUInt8 :: utf8Bytes text := by
  rw [utf8Bytes_cons, utf8EncodeChar_of_ascii hd]
  rfl

theorem utf8Size_of_ascii (hd : d.toNat < 128) : d.utf8Size = 1 := by
  rw [← String.length_utf8EncodeChar, utf8EncodeChar_of_ascii hd]
  rfl

theorem exists_utf8EncodeChar_eq_cons (c : Char) :
    ∃ byte bytes, String.utf8EncodeChar c = byte :: bytes := by
  apply List.exists_cons_of_length_pos
  rw [String.length_utf8EncodeChar]
  exact c.utf8Size_pos

/-- An ASCII byte of a character is all of it. -/
theorem charOf_of_mem_utf8EncodeChar {byte : UInt8} (hmem : byte ∈ String.utf8EncodeChar c)
    (hbyte : byte.toNat < 128) : charOf byte = c := by
  by_cases hc : c.toNat < 128
  · rw [utf8EncodeChar_of_ascii hc, List.mem_singleton] at hmem
    rw [hmem, charOf_toUInt8 hc]
  · have hle := le_toNat_of_mem_utf8EncodeChar (Nat.le_of_not_lt hc) byte hmem
    omega

/-- No other character has the byte of an ASCII character. -/
theorem not_mem_utf8EncodeChar (hd : d.toNat < 128) (hne : c ≠ d) :
    d.toUInt8 ∉ String.utf8EncodeChar c := by
  intro hmem
  have hbyte : d.toUInt8.toNat < 128 := by rwa [toNat_toUInt8 hd]
  have hchar : charOf d.toUInt8 = d := charOf_toUInt8 hd
  exact hne (hchar ▸ charOf_of_mem_utf8EncodeChar hmem hbyte).symm

/-- A text in ASCII begins the bytes of a text where it begins the text. -/
theorem prefix_utf8Bytes_iff (ha : ∀ c ∈ a, c.toNat < 128) :
    utf8Bytes a <+: utf8Bytes text ↔ a <+: text := by
  constructor
  · intro h
    induction a generalizing text with
    | nil => exact List.nil_prefix
    | cons d a ih =>
        simp only [List.forall_mem_cons] at ha
        rw [utf8Bytes_cons_of_ascii ha.1] at h
        cases text with
        | nil => simp [utf8Bytes] at h
        | cons c text =>
            have hcd : c = d := by
              by_contra hne
              have hnot := not_mem_utf8EncodeChar ha.1 hne
              rcases exists_utf8EncodeChar_eq_cons c with ⟨byte, bytes, hencode⟩
              simp only [utf8Bytes_cons, hencode, List.cons_append, List.cons_prefix_cons] at h
              simp [hencode, h.1] at hnot
            subst hcd
            rw [utf8Bytes_cons_of_ascii ha.1, List.cons_prefix_cons] at h
            exact List.cons_prefix_cons.2 ⟨rfl, ih ha.2 h.2⟩
  · rintro ⟨rest, rfl⟩
    exact ⟨utf8Bytes rest, (utf8Bytes_append a rest).symm⟩

theorem head?_utf8Bytes_eq_some_iff (hd : d.toNat < 128) :
    (utf8Bytes text).head? = some d.toUInt8 ↔ text.head? = some d := by
  have hascii : ∀ c ∈ [d], c.toNat < 128 := by simpa using hd
  have hprefix : utf8Bytes [d] <+: utf8Bytes text ↔ [d] <+: text := prefix_utf8Bytes_iff hascii
  simpa only [utf8Bytes_cons_of_ascii hd, utf8Bytes_nil, List.singleton_prefix_iff_head?_eq_some]
    using hprefix

/-- A run of ASCII characters is a run of their bytes. -/
theorem takeWhile_utf8Bytes {accepts : Char → Bool} (h : ∀ c, accepts c = true → c.toNat < 128)
    (text : List Char) :
    (utf8Bytes text).takeWhile (fun byte => accepts (charOf byte)) =
      utf8Bytes (text.takeWhile accepts) := by
  induction text with
  | nil => rfl
  | cons c text ih =>
      cases hc : accepts c with
      | true =>
          have hascii := h c hc
          have hchar : accepts (charOf c.toUInt8) = true := by
            rw [show charOf c.toUInt8 = c from charOf_toUInt8 hascii, hc]
          simp [utf8Bytes_cons_of_ascii hascii, hc, hchar, ih]
      | false =>
          rcases exists_utf8EncodeChar_eq_cons c with ⟨byte, bytes, hencode⟩
          have hmem : byte ∈ String.utf8EncodeChar c := by simp [hencode]
          have hbyte : accepts (charOf byte) = false := by
            cases htrue : accepts (charOf byte) with
            | false => rfl
            | true =>
                have hascii : byte.toNat < 128 := by simpa only [toNat_charOf] using h _ htrue
                rw [charOf_of_mem_utf8EncodeChar hmem hascii, hc] at htrue
                exact htrue.symm
          simp [utf8Bytes_cons, hencode, hbyte, hc]

/-- The positions behind the occurrences of a byte. -/
def positionsBehind (byte : UInt8) : (start : Nat) → List UInt8 → List Nat
  | _, [] => []
  | start, next :: rest =>
      if next = byte then (start + 1) :: positionsBehind byte (start + 1) rest
      else positionsBehind byte (start + 1) rest

theorem positionsBehind_append_of_not_mem {byte : UInt8} {bytes : List UInt8} (h : byte ∉ bytes)
    (start : Nat) (rest : List UInt8) :
    positionsBehind byte start (bytes ++ rest) =
      positionsBehind byte (start + bytes.length) rest := by
  induction bytes generalizing start with
  | nil => rfl
  | cons next bytes ih =>
      simp only [List.mem_cons, not_or] at h
      have hne : next ≠ byte := Ne.symm h.1
      simp [positionsBehind, hne, ih h.2, Nat.add_comm, Nat.add_left_comm]

/-- The occurrences of an ASCII character in a text are those of its byte. -/
theorem positionsBehind_utf8Bytes_cons (hd : d.toNat < 128) (h : c :: rest <:+ text) :
    positionsBehind d.toUInt8 (positionOf text (c :: rest)) (utf8Bytes (c :: rest)) =
      if c = d then
        positionOf text rest :: positionsBehind d.toUInt8 (positionOf text rest) (utf8Bytes rest)
      else
        positionsBehind d.toUInt8 (positionOf text rest) (utf8Bytes rest) := by
  have hadd : positionOf text (c :: rest) + c.utf8Size = positionOf text rest := by
    have hadd := positionOf_add (a := [c]) h
    simpa using hadd
  by_cases hc : c = d
  · subst hc
    simp [utf8Bytes_cons_of_ascii hd, positionsBehind, ← hadd, utf8Size_of_ascii hd]
  · rw [if_neg hc, utf8Bytes_cons,
      positionsBehind_append_of_not_mem (not_mem_utf8EncodeChar hd hc), ← hadd]
    simp

end Text
end MotionController
