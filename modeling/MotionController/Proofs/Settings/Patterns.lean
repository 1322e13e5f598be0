import MotionController.Proofs.Numeric.Decimal
import MotionController.Proofs.Text.Trimming
import MotionController.Settings.Pattern

/-!
# What patterns take apart

A pattern that fits a line says how the line is made up: the name, the axis letter, and the tail
with its value or index. For the tails whose blanks may vary, the line with single blanks and a
plain index fits the same pattern again (`Tail.parts?_respaced`, `Tail.parts?_index`,
`Tail.parts?_indexed`).
-/

namespace MotionController
namespace Settings

open Text

variable {letters : List NameLetter} {names : List (List NameLetter)} {tail : Tail}
  {parts found : LineParts} {name after rest text digits : List Char} {pattern : LinePattern}
  {axis : Option Char} {c : Char} {length : Nat}

/-! ## Characters -/

theorem isBlank_of_isDigit (hc : c.isDigit = true) : isBlank c = false := by
  have hrange := Numeric.toNat_of_isDigit hc
  have hcontrol : 13 < c.toNat := by omega
  have hspace : 32 < c.toNat := by omega
  have hnextLine : ¬ 133 < c.toNat := by omega
  simp [isBlank, blankRanges, CodeRanges.holds, hcontrol, hspace, hnextLine]
  omega

theorem isDecimalDigit_of_isDigit (hc : c.isDigit = true) : isDecimalDigit c = true := by
  simp [isDecimalDigit, hc]

theorem newline_not_mem_of_isDecimalDigit (h : ∀ c ∈ text, isDecimalDigit c = true ∨ c = '.') :
    '\n' ∉ text := by
  intro hmem
  rcases h '\n' hmem with hdigit | hpoint
  · exact absurd hdigit (by decide)
  · exact absurd hpoint (by decide)

theorem trimStart_digits_append (h : Numeric.IsDigits digits) :
    trimStart (digits ++ rest) = digits ++ rest := by
  cases digits with
  | nil => exact absurd rfl h.ne_nil
  | cons c digits =>
      have hblank := isBlank_of_isDigit (h.isDigit c List.mem_cons_self)
      exact trimStart_cons_of_not_blank hblank

/-! ## Names -/

theorem splitName?_eq_some (h : splitName? letters text = some (name, after)) :
    text = name ++ after ∧ name.length = letters.length := by
  induction letters generalizing text name with
  | nil =>
      simp only [splitName?, Option.some.injEq, Prod.mk.injEq] at h
      rcases h with ⟨rfl, rfl⟩
      exact ⟨rfl, rfl⟩
  | cons letter letters ih =>
      cases text with
      | nil => simp [splitName?] at h
      | cons c text =>
          simp only [splitName?] at h
          split at h
          · rcases Option.map_eq_some_iff.1 h with ⟨⟨front, back⟩, hsplit, heq⟩
            cases heq
            rcases ih hsplit with ⟨htext, hlength⟩
            exact ⟨by simp [htext], by simp [hlength]⟩
          · cases h

/-- Whether letters as many as a name's split it off does not depend on what follows it. -/
theorem splitName?_append (h : letters.length = name.length) :
    splitName? letters (name ++ after) = (splitName? letters name).map fun _ => (name, after) := by
  induction letters generalizing name with
  | nil =>
      have hnil : name = [] := List.eq_nil_of_length_eq_zero h.symm
      simp [hnil, splitName?]
  | cons letter letters ih =>
      cases name with
      | nil => cases h
      | cons c name =>
          have hrest := ih (Nat.succ.inj h)
          simp only [List.cons_append, splitName?, hrest]
          split
          · cases splitName? letters name <;> rfl
          · rfl

theorem splitNames?_append (hlength : ∀ letters ∈ names, letters.length = name.length) :
    (names.findSome? fun letters => splitName? letters (name ++ after)) =
      (names.findSome? fun letters => splitName? letters name).map fun _ => (name, after) := by
  induction names with
  | nil => rfl
  | cons letters names ih =>
      have hhead : splitName? letters (name ++ after) =
          (splitName? letters name).map fun _ => (name, after) :=
        splitName?_append (hlength letters List.mem_cons_self)
      have htail := ih fun other hother => hlength other (List.mem_cons_of_mem letters hother)
      simp only [List.findSome?_cons, hhead, htail]
      cases splitName? letters name <;> rfl

theorem splitName?_exactly {spelled : List Char}
    (h : splitName? (spelled.map .exactly) text = some (name, after)) : name = spelled := by
  induction spelled generalizing text name with
  | nil =>
      cases h
      rfl
  | cons letter spelled ih =>
      cases text with
      | nil => cases h
      | cons c text =>
          simp only [List.map_cons, splitName?] at h
          split at h
          · next hc =>
              have hletter : c = letter := beq_iff_eq.1 hc
              rcases Option.map_eq_some_iff.1 h with ⟨⟨front, back⟩, hrest, heq⟩
              cases heq
              simp only [ih hrest, hletter]
          · cases h

/-! ## Tails -/

theorem value?_eq_some_iff {value : String} :
    value? text = some value ↔ '\n' ∉ text ∧ value = String.ofList text := by
  unfold value?
  split
  · next h => simp [h]
  · next h => simp [h, eq_comm]

theorem Tail.parts?_nothing (h : Tail.nothing.parts? parts text = some found) :
    text = [] ∧ found = parts := by
  cases text with
  | nil => exact ⟨rfl, (Option.some.inj h).symm⟩
  | cons c rest => cases h

theorem Tail.parts?_assigned (h : Tail.assigned.parts? parts text = some found) :
    ∃ value, text = '=' :: value ∧ found = { parts with value := some (String.ofList value) } := by
  unfold Tail.parts? at h
  split at h <;> try contradiction
  next rest _ =>
    rcases Option.map_eq_some_iff.1 h with ⟨value, hvalue, rfl⟩
    exact ⟨rest, rfl, by rw [(value?_eq_some_iff.1 hvalue).2]⟩

/-- The tails of a value behind blanks. -/
def Tail.IsSpaced (tail : Tail) : Prop :=
  tail = .spaced ∨ tail = .spacedNumeral

/-- A value behind blanks is found behind one blank as well. -/
theorem Tail.parts?_respaced (htail : tail.IsSpaced) (h : tail.parts? parts text = some found) :
    ∃ blank rest, text = blank :: rest ∧ isBlank blank = true ∧
      found = { parts with value := some (String.ofList (trimStart rest)) } ∧
        '\n' ∉ trimStart rest ∧ tail.parts? parts (' ' :: trimStart rest) = some found := by
  have hspace : isBlank ' ' = true := by decide
  -- The blanks behind the first one are skipped, so skipping them twice changes nothing.
  cases text with
  | nil => rcases htail with rfl | rfl <;> cases h
  | cons blank rest =>
      rcases htail with rfl | rfl
      · simp only [Tail.parts?] at h
        split at h
        · next hblank =>
            rcases Option.map_eq_some_iff.1 h with ⟨value, hvalue, rfl⟩
            rcases value?_eq_some_iff.1 hvalue with ⟨hnewline, rfl⟩
            refine ⟨blank, rest, rfl, hblank, rfl, hnewline, ?_⟩
            simp [Tail.parts?, hspace, trimStart_trimStart, hvalue]
        · cases h
      · simp only [Tail.parts?] at h
        split at h
        · next hnumeral =>
            rcases hnumeral with ⟨hblank, hne, hall⟩
            have hnewline : '\n' ∉ trimStart rest := by
              apply newline_not_mem_of_isDecimalDigit
              simpa using hall
            refine ⟨blank, rest, rfl, hblank, (Option.some.inj h).symm, hnewline, ?_⟩
            simp only [← h]
            simp only [Tail.parts?, trimStart_trimStart]
            exact if_pos ⟨hspace, hne, hall⟩
        · cases h

theorem Tail.parts?_index (h : Tail.index.parts? parts text = some found) :
    (trimStart text).head? ≠ some '+' ∧
      found = { parts with index := some (String.ofList (trimStart text)) } := by
  simp only [Tail.parts?] at h
  split at h
  · next hdigits =>
      refine ⟨?_, (Option.some.inj h).symm⟩
      intro hplus
      have hdigit := List.all_eq_true.1 hdigits.2 '+' (List.mem_of_mem_head? hplus)
      exact absurd hdigit (by decide)
  · cases h

theorem Tail.parts?_plain_index (parts : LineParts) (h : Numeric.IsDigits digits) :
    Tail.index.parts? parts digits = some { parts with index := some (String.ofList digits) } := by
  have happend : trimStart (digits ++ []) = digits ++ [] := trimStart_digits_append h
  have htrim : trimStart digits = digits := by
    simpa using happend
  have hall : digits.all isDecimalDigit = true :=
    List.all_eq_true.2 fun c hc => isDecimalDigit_of_isDigit (h.isDigit c hc)
  simp only [Tail.parts?, htrim]
  exact if_pos ⟨h.ne_nil, hall⟩

theorem Tail.parts?_indexed (h : Tail.indexed.parts? parts text = some found) :
    ∃ digits value, trimStart text = digits ++ ',' :: value ∧ digits.head? ≠ some '+' ∧
      '\n' ∉ value ∧
        found = { parts with
          index := some (String.ofList digits), value := some (String.ofList value) } := by
  simp only [Tail.parts?] at h
  split at h
  · next first digits rest hdigits hrest =>
      rcases Option.map_eq_some_iff.1 h with ⟨value, hvalue, rfl⟩
      rcases value?_eq_some_iff.1 hvalue with ⟨hnewline, rfl⟩
      -- The index is all digits of the text, of any script; a sign is none of them.
      have hsplit := List.takeWhile_append_dropWhile (p := isDecimalDigit) (l := trimStart text)
      refine ⟨first :: digits, rest, ?_, ?_, hnewline, by rw [hdigits]⟩
      · simp only [← hdigits, ← hrest, hsplit]
      · intro hplus
        have hmem : '+' ∈ (trimStart text).takeWhile isDecimalDigit := by
          simp only [hdigits]
          exact List.mem_of_mem_head? hplus
        exact absurd (List.mem_takeWhile_imp hmem) (by decide)
  · cases h

theorem Tail.parts?_plain_indexed (parts : LineParts) (h : Numeric.IsDigits digits)
    (hnewline : '\n' ∉ rest) :
    Tail.indexed.parts? parts (' ' :: digits ++ ',' :: rest) =
      some { parts with
        index := some (String.ofList digits), value := some (String.ofList rest) } := by
  have hspace : isBlank ' ' = true := by decide
  have hcomma : isDecimalDigit ',' = false := by decide
  have htrim : trimStart (' ' :: digits ++ ',' :: rest) = digits ++ ',' :: rest := by
    simp only [List.cons_append, trimStart_cons_of_blank hspace, trimStart_digits_append h]
  have hall : ∀ c ∈ digits, isDecimalDigit c = true :=
    fun c hc => isDecimalDigit_of_isDigit (h.isDigit c hc)
  have htake : (digits ++ ',' :: rest).takeWhile isDecimalDigit = digits := by
    simp [List.takeWhile_append_of_pos hall, hcomma]
  have hdrop : (digits ++ ',' :: rest).dropWhile isDecimalDigit = ',' :: rest := by
    simp [List.dropWhile_append_of_pos hall, hcomma]
  have hvalue := value?_eq_some_iff.2 ⟨hnewline, rfl⟩
  simp only [Tail.parts?, htrim, htake, hdrop]
  cases digits with
  | nil => exact absurd rfl h.ne_nil
  | cons c digits => simp [hvalue]

end Settings
end MotionController
