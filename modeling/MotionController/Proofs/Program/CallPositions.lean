import MotionController.Proofs.Program.CallScan
import MotionController.Proofs.Text.Positions

/-!
# Calls at positions

Whether a call begins at a position of a line can be found out from the bytes of the line: behind a
mnemonic and a number sign each length that the name may have is tried, the longest first, and with
it each parenthesis that may close the arguments, the first one first (`callAt`). All positions at
which the line is sliced on the way are between characters, and the call is the one that is read
from the text behind its start (`callAt_positionOf`). Only the whole run of label characters gives a
call (`callWithin_callHead`, `callWithin_eq_none`).
-/

namespace MotionController
namespace Program

open Text

variable {line text rest after tail name mnemonic arguments : List Char} {call : Call}
  {start stop : Nat}

/-! ## One call -/

/-- A call may end at the position. -/
def endsAt (line : Line) (position : Nat) : Except BadPosition Bool := do
  let behind ← sliceFrom line position
  .ok (callEndsBefore behind)

/-- The first of some positions at which a call may end. -/
def firstEnd? (line : Line) : List Nat → Except BadPosition (Option Nat)
  | [] => .ok none
  | position :: positions => do
      let ends ← endsAt line position
      if ends then .ok (some position) else firstEnd? line positions

/-- The end of a call whose label ends at a position: behind a closing parenthesis if one is opened
there, or that position itself. -/
def callEnd? (line : Line) (labelEnd : Nat) : Except BadPosition (Option Nat) := do
  let closed? ←
    if (utf8Bytes line)[labelEnd]? = some '('.toUInt8 then do
      let bytes ← bytesFrom line labelEnd
      firstEnd? line (positionsBehind ')'.toUInt8 labelEnd bytes)
    else
      .ok none
  match closed? with
  | some stop => .ok (some stop)
  | none => do
      let ends ← endsAt line labelEnd
      .ok (if ends then some labelEnd else none)

/-- The call that begins at `start` and has a name of at most the given length, with the position of
its end. Longer names are tried first. -/
def callWithin (line : Line) (start : Nat) :
    (length : Nat) → Except BadPosition (Option (Call × Nat))
  | 0 => .ok none
  | length + 1 => do
      let labelEnd := start + 3 + (length + 1)
      let mnemonic ← slice line start (start + 2)
      let label ← slice line (start + 2) labelEnd
      let stop? ← callEnd? line labelEnd
      match stop? with
      | some stop => do
          let arguments ← slice line labelEnd stop
          .ok (some (⟨mnemonic, label, arguments⟩, stop))
      | none => callWithin line start length

/-- The call that begins at `start`, with the position of its end. -/
def callAt (line : Line) (start : Nat) : Except BadPosition (Option (Call × Nat)) := do
  let bytes ← bytesFrom line start
  if (∃ mnemonic ∈ callMnemonics, utf8Bytes mnemonic <+: bytes) ∧
      (utf8Bytes line)[start + 2]? = some '#'.toUInt8 then do
    let bytes ← bytesFrom line (start + 3)
    let name := (bytes.take maxLabelLength).takeWhile fun byte => isLabelChar (charOf byte)
    callWithin line start name.length
  else
    .ok none

/-! ## Ends of calls -/

theorem append_of_splitArguments? (h : splitArguments? text = some (arguments, after)) :
    text = arguments ++ after := by
  induction text generalizing arguments with
  | nil => simp [splitArguments?] at h
  | cons c rest ih =>
      rcases splitArguments?_cons_cases h with ⟨-, rfl, rfl⟩ | ⟨inner, hinner, rfl⟩
      · rfl
      · simp [ih hinner]

theorem append_of_splitCallEnd? (h : splitCallEnd? tail = some (arguments, after)) :
    tail = arguments ++ after := by
  unfold splitCallEnd? at h
  split at h
  · exact append_of_splitArguments? h
  · split at h
    · simp only [Option.some.injEq, Prod.mk.injEq] at h
      simp [← h.1, h.2]
    · cases h

/-- Arguments end with a parenthesis. -/
theorem suffix_close_of_splitArguments? (h : splitArguments? text = some (arguments, after)) :
    ')' :: after <:+ text := by
  induction text generalizing arguments with
  | nil => simp [splitArguments?] at h
  | cons c rest ih =>
      rcases splitArguments?_cons_cases h with ⟨rfl, -, rfl⟩ | ⟨inner, hinner, -⟩
      · exact List.suffix_rfl
      · exact (ih hinner).trans (List.suffix_cons c rest)

/-- The last character of a call is not a semicolon. -/
theorem exists_last_of_splitCall? (h : splitCall? text = some (call, after)) :
    ∃ c, c ≠ ';' ∧ c :: after <:+ text := by
  rcases splitCall?_eq_some_iff.1 h with ⟨mnemonic, name, tail, arguments, hhead, rfl, hends, -⟩
  unfold splitCallEnd? at hends
  split at hends
  · have hclose := suffix_close_of_splitArguments? hends
    exact ⟨')', by decide, hclose.trans (List.suffix_append _ tail)⟩
  · simp only [ite_eq_iff, Option.some.injEq, Prod.mk.injEq, reduceCtorEq, and_false, or_false]
      at hends
    rcases hends with ⟨-, -, rfl⟩
    rcases List.eq_nil_or_concat' name with hnil | ⟨name, c, rfl⟩
    · exact absurd hnil hhead.name_ne_nil
    · have hsemicolon : ';' ∉ name ++ [c] := hhead.not_mem_name (by decide)
      refine ⟨c, ?_, ⟨callHead mnemonic name, by simp [callHead]⟩⟩
      rintro rfl
      simp at hsemicolon

theorem endsAt_positionOf (h : rest <:+ line) :
    endsAt line (positionOf line rest) = .ok (callEndsBefore rest) := by
  simp [endsAt, sliceFrom_positionOf h, bind, Except.bind]

/-- Of the closing parentheses, the first one that may end a call is taken. -/
theorem firstEnd?_positionsBehind (h : text <:+ line) :
    firstEnd? line (positionsBehind ')'.toUInt8 (positionOf line text) (utf8Bytes text)) =
      .ok ((splitArguments? text).map fun ending => positionOf line ending.2) := by
  induction text with
  | nil => rfl
  | cons c rest ih =>
      have hrest : rest <:+ line := (List.suffix_cons c rest).trans h
      rw [positionsBehind_utf8Bytes_cons (by decide) h]
      by_cases hc : c = ')'
      · cases hends : callEndsBefore rest with
        | true => simp [hc, firstEnd?, endsAt_positionOf hrest, bind, Except.bind, hends,
            splitArguments?]
        | false => simp [hc, firstEnd?, endsAt_positionOf hrest, bind, Except.bind, hends,
            splitArguments?, ih hrest, Function.comp_def]
      · simp [hc, ih hrest, splitArguments?_cons_of_ne hc, Function.comp_def]

theorem callEnd?_positionOf (h : tail <:+ line) :
    callEnd? line (positionOf line tail) =
      .ok ((splitCallEnd? tail).map fun ending => positionOf line ending.2) := by
  by_cases hopen : tail.head? = some '('
  · have hbyte := (head?_utf8Bytes_eq_some_iff (by decide)).2 hopen
    have hends : callEndsBefore tail = false := by
      rcases List.head?_eq_some_iff.1 hopen with ⟨inner, rfl⟩
      rfl
    cases harguments : splitArguments? tail <;>
      simp [callEnd?, getElem?_utf8Bytes_positionOf h, hbyte, bytesFrom_positionOf h,
        firstEnd?_positionsBehind h, endsAt_positionOf h, hends, splitCallEnd?, hopen, harguments,
        bind, Except.bind]
  · have hbyte : (utf8Bytes tail).head? ≠ some '('.toUInt8 := fun hbyte =>
      hopen ((head?_utf8Bytes_eq_some_iff (by decide)).1 hbyte)
    cases hends : callEndsBefore tail <;>
      simp [callEnd?, getElem?_utf8Bytes_positionOf h, hbyte, endsAt_positionOf h, hends,
        splitCallEnd?, hopen, bind, Except.bind]

/-! ## Calls at positions -/

theorem toNat_lt_of_isLabelChar {c : Char} (h : isLabelChar c = true) : c.toNat < 128 := by
  simp only [isLabelChar, Bool.or_eq_true, beq_iff_eq] at h
  rcases h with h | rfl
  · exact toNat_lt_of_isAlphanum h
  · decide

/-- No call ends before a character of a label. -/
theorem splitCallEnd?_of_isLabelChar {c : Char} (hc : isLabelChar c = true) (rest : List Char) :
    splitCallEnd? (c :: rest) = none := by
  have hne : ∀ d, isLabelChar d = false → c ≠ d := by
    rintro d hd rfl
    simp [hc] at hd
  have hopen : c ≠ '(' := hne '(' (by decide)
  have hsemicolon : c ≠ ';' := hne ';' (by decide)
  have hcomma : c ≠ ',' := hne ',' (by decide)
  simp [splitCallEnd?, callEndsBefore, hopen, hsemicolon, hcomma]

theorem byteLength_mnemonic (h : mnemonic ∈ callMnemonics) : byteLength mnemonic = 2 := by
  simp only [callMnemonics, List.mem_cons, List.not_mem_nil, or_false] at h
  rcases h with rfl | rfl | rfl <;> decide

theorem toNat_lt_of_mem_mnemonic (h : mnemonic ∈ callMnemonics) :
    ∀ c ∈ mnemonic, c.toNat < 128 := by
  have hall : (callMnemonics.all fun mnemonic => mnemonic.all fun c => c.toNat < 128) = true := by
    decide
  simpa using List.all_eq_true.1 hall mnemonic h

theorem byteLength_name (h : ∀ c ∈ name, isLabelChar c = true) : byteLength name = name.length :=
  byteLength_eq_length fun c hc => utf8Size_of_ascii (toNat_lt_of_isLabelChar (h c hc))

/-- With the whole length of a name, the call behind it is read, or shorter names are tried. -/
theorem callWithin_positionOf (hmnemonic : mnemonic ∈ callMnemonics)
    (hname : ∀ c ∈ name, isLabelChar c = true) (hne : name ≠ [])
    (h : callHead mnemonic name ++ tail <:+ line) :
    callWithin line (positionOf line (callHead mnemonic name ++ tail)) name.length =
      match splitCallEnd? tail with
      | some (arguments, after) =>
          .ok (some (⟨mnemonic, '#' :: name, arguments⟩, positionOf line after))
      | none =>
          callWithin line (positionOf line (callHead mnemonic name ++ tail)) (name.length - 1) := by
  have hassoc : callHead mnemonic name ++ tail = mnemonic ++ ('#' :: name ++ tail) := by
    simp [callHead]
  obtain ⟨length, hlength⟩ : ∃ length, name.length = length + 1 :=
    Nat.exists_eq_succ_of_ne_zero (by simpa using hne)
  have hlabel : '#' :: name ++ tail <:+ line :=
    (List.suffix_append mnemonic _).trans (hassoc ▸ h)
  have htail : tail <:+ line := (List.suffix_append ('#' :: name) tail).trans hlabel
  -- The three positions where the line is sliced are those between the parts of the call.
  have hstart : positionOf line (callHead mnemonic name ++ tail) + 2 =
      positionOf line ('#' :: name ++ tail) := by
    have hadd := positionOf_add (hassoc ▸ h)
    rwa [byteLength_mnemonic hmnemonic, ← hassoc] at hadd
  have hend : positionOf line (callHead mnemonic name ++ tail) + 3 + (length + 1) =
      positionOf line tail := by
    have hadd := positionOf_add hlabel
    have hsize : byteLength ('#' :: name) = 1 + name.length := by
      rw [byteLength_cons, byteLength_name hname]
      rfl
    omega
  have hslice : slice line (positionOf line (callHead mnemonic name ++ tail))
      (positionOf line ('#' :: name ++ tail)) = .ok mnemonic := by
    rw [hassoc]
    exact slice_positionOf (hassoc ▸ h)
  rw [hlength, callWithin]
  simp only [hstart, hend, hslice, slice_positionOf hlabel, callEnd?_positionOf htail, bind,
    Except.bind]
  cases hends : splitCallEnd? tail with
  | none => rfl
  | some ending =>
      have htail' : tail = ending.1 ++ ending.2 := append_of_splitCallEnd? hends
      have hsplit : slice line (positionOf line tail) (positionOf line ending.2) =
          .ok ending.1 := by
        rw [htail']
        exact slice_positionOf (htail' ▸ htail)
      simp only [Option.map_some, hsplit]

/-- No call has a shorter name than the run of label characters that begins it. -/
theorem callWithin_eq_none {c : Char} (hmnemonic : mnemonic ∈ callMnemonics)
    (hname : ∀ d ∈ name, isLabelChar d = true) (hc : isLabelChar c = true)
    (h : callHead mnemonic name ++ c :: tail <:+ line) :
    callWithin line (positionOf line (callHead mnemonic name ++ c :: tail)) name.length =
      .ok none := by
  induction name using List.reverseRecOn generalizing c tail with
  | nil => rfl
  | append_singleton name d ih =>
      have hassoc : callHead mnemonic (name ++ [d]) ++ c :: tail =
          callHead mnemonic name ++ d :: c :: tail := by simp [callHead]
      have hparts := List.forall_mem_append.1 hname
      rw [callWithin_positionOf hmnemonic hname (by simp) h, splitCallEnd?_of_isLabelChar hc]
      simpa [hassoc] using ih hparts.1 (hparts.2 d (List.mem_singleton_self d)) (hassoc ▸ h)

/-- With the whole run of label characters for its name, a call is read as it is behind its head. -/
theorem callWithin_callHead (hhead : IsCallHead mnemonic name tail)
    (h : callHead mnemonic name ++ tail <:+ line) :
    callWithin line (positionOf line (callHead mnemonic name ++ tail)) name.length =
      .ok ((splitCall? (callHead mnemonic name ++ tail)).map fun read =>
        (read.1, positionOf line read.2)) := by
  rw [callWithin_positionOf hhead.mnemonic_mem hhead.name_all hhead.name_ne_nil h,
    splitCall?_callHead hhead]
  cases hends : splitCallEnd? tail with
  | some ending => rfl
  | none =>
      -- All shorter names leave a label character behind them.
      rcases List.eq_nil_or_concat' name with hnil | ⟨name, d, rfl⟩
      · exact absurd hnil hhead.name_ne_nil
      · have hassoc : callHead mnemonic (name ++ [d]) ++ tail =
            callHead mnemonic name ++ d :: tail := by simp [callHead]
        have hparts := List.forall_mem_append.1 hhead.name_all
        simpa [hassoc] using callWithin_eq_none hhead.mnemonic_mem hparts.1
          (hparts.2 d (List.mem_singleton_self d)) (hassoc ▸ h)

/-- What has to stand at a position for a call to be looked for there. -/
theorem beginsCall_iff (h : text <:+ line) :
    ((∃ mnemonic ∈ callMnemonics, utf8Bytes mnemonic <+: utf8Bytes text) ∧
      (utf8Bytes line)[positionOf line text + 2]? = some '#'.toUInt8) ↔
      ∃ mnemonic ∈ callMnemonics, ∃ rest, text = mnemonic ++ '#' :: rest := by
  constructor
  · rintro ⟨⟨mnemonic, hmem, hprefix⟩, hsign⟩
    rcases (prefix_utf8Bytes_iff (toNat_lt_of_mem_mnemonic hmem)).1 hprefix with ⟨behind, rfl⟩
    have hbehind : behind <:+ line := (List.suffix_append mnemonic behind).trans h
    have hadd := positionOf_add h
    rw [byteLength_mnemonic hmem] at hadd
    rw [hadd, getElem?_utf8Bytes_positionOf hbehind, head?_utf8Bytes_eq_some_iff (by decide)]
      at hsign
    rcases List.head?_eq_some_iff.1 hsign with ⟨rest, rfl⟩
    exact ⟨mnemonic, hmem, rest, rfl⟩
  · rintro ⟨mnemonic, hmem, rest, rfl⟩
    have hbehind : '#' :: rest <:+ line := (List.suffix_append mnemonic _).trans h
    have hadd := positionOf_add h
    rw [byteLength_mnemonic hmem] at hadd
    refine ⟨⟨mnemonic, hmem, ?_⟩, ?_⟩
    · rw [prefix_utf8Bytes_iff (toNat_lt_of_mem_mnemonic hmem)]
      exact List.prefix_append mnemonic _
    · rw [hadd, getElem?_utf8Bytes_positionOf hbehind, head?_utf8Bytes_eq_some_iff (by decide)]
      rfl

/-- Behind a mnemonic and a number sign, a run of label characters of another length is no name. -/
theorem splitCall?_of_run (hmnemonic : mnemonic ∈ callMnemonics)
    (h : rest.takeWhile isLabelChar = [] ∨ maxLabelLength < (rest.takeWhile isLabelChar).length) :
    splitCall? (mnemonic ++ '#' :: rest) = none := by
  rcases (mnemonic_of_mem hmnemonic).1 with ⟨c, d, rfl⟩
  rcases h with hnil | hlong
  · simp [splitCall?, hnil]
  · have hnot : ¬(rest.takeWhile isLabelChar).length ≤ maxLabelLength := Nat.not_le_of_lt hlong
    simp [splitCall?, hnot]

/-- Behind a mnemonic and a number sign, the lengths of the run of label characters or of as many as
a label may have are tried. -/
theorem callWithin_run (hmnemonic : mnemonic ∈ callMnemonics)
    (h : mnemonic ++ '#' :: rest <:+ line) :
    callWithin line (positionOf line (mnemonic ++ '#' :: rest))
        (min maxLabelLength (rest.takeWhile isLabelChar).length) =
      .ok ((splitCall? (mnemonic ++ '#' :: rest)).map fun read =>
        (read.1, positionOf line read.2)) := by
  have hrest : rest.takeWhile isLabelChar ++ rest.dropWhile isLabelChar = rest :=
    List.takeWhile_append_dropWhile
  by_cases hnil : rest.takeWhile isLabelChar = []
  · simp [hnil, callWithin, splitCall?_of_run hmnemonic (.inl hnil)]
  by_cases hlong : maxLabelLength < (rest.takeWhile isLabelChar).length
  · -- The longest name that is tried stands before the next character of the run.
    have hall : ∀ c ∈ rest.takeWhile isLabelChar, isLabelChar c = true := fun c hc =>
      List.mem_takeWhile_imp hc
    obtain ⟨c, others, hdrop⟩ := List.exists_cons_of_ne_nil
      (List.drop_eq_nil_iff.not.2 (Nat.not_le_of_lt hlong))
    have hname : ∀ d ∈ (rest.takeWhile isLabelChar).take maxLabelLength, isLabelChar d = true :=
      fun d hd => hall d (List.mem_of_mem_take hd)
    have hc : isLabelChar c = true :=
      hall c (List.mem_of_mem_drop (hdrop ▸ List.mem_cons_self))
    have hrun : (rest.takeWhile isLabelChar).take maxLabelLength ++
        c :: (others ++ rest.dropWhile isLabelChar) = rest := by
      rw [← List.cons_append, ← hdrop, ← List.append_assoc, List.take_append_drop, hrest]
    have hassoc : callHead mnemonic ((rest.takeWhile isLabelChar).take maxLabelLength) ++
        c :: (others ++ rest.dropWhile isLabelChar) = mnemonic ++ '#' :: rest := by
      simp [callHead, hrun]
    have hnone := callWithin_eq_none hmnemonic hname hc (hassoc ▸ h)
    rw [hassoc, List.length_take] at hnone
    rw [hnone, splitCall?_of_run hmnemonic (.inr hlong)]
    rfl
  · have hle : (rest.takeWhile isLabelChar).length ≤ maxLabelLength := Nat.le_of_not_lt hlong
    have hassoc : callHead mnemonic (rest.takeWhile isLabelChar) ++ rest.dropWhile isLabelChar =
        mnemonic ++ '#' :: rest := by simp [callHead, hrest]
    have hread := callWithin_callHead (isCallHead_of_run hmnemonic hnil hle) (hassoc ▸ h)
    rwa [hassoc, ← Nat.min_eq_right hle] at hread

theorem callAt_positionOf (h : text <:+ line) :
    callAt line (positionOf line text) =
      .ok ((splitCall? text).map fun read => (read.1, positionOf line read.2)) := by
  simp only [callAt, bytesFrom_positionOf h, bind, Except.bind]
  by_cases hbegins : ∃ mnemonic ∈ callMnemonics, ∃ rest, text = mnemonic ++ '#' :: rest
  · rw [if_pos ((beginsCall_iff h).2 hbegins)]
    rcases hbegins with ⟨mnemonic, hmnemonic, rest, rfl⟩
    have hassoc : mnemonic ++ '#' :: rest = (mnemonic ++ ['#']) ++ rest := by simp
    have hrest : rest <:+ line := (List.suffix_append _ rest).trans (hassoc ▸ h)
    have hstart : positionOf line (mnemonic ++ '#' :: rest) + 3 = positionOf line rest := by
      have hadd := positionOf_add (hassoc ▸ h)
      rwa [byteLength_append, byteLength_mnemonic hmnemonic, ← hassoc] at hadd
    have hname : ((utf8Bytes rest).take maxLabelLength |>.takeWhile fun byte =>
        isLabelChar (charOf byte)).length =
          min maxLabelLength (rest.takeWhile isLabelChar).length := by
      rw [← List.take_takeWhile, takeWhile_utf8Bytes fun c hc => toNat_lt_of_isLabelChar hc,
        List.length_take, length_utf8Bytes, byteLength_name fun c hc => List.mem_takeWhile_imp hc]
    simp only [hstart, bytesFrom_positionOf hrest, hname]
    exact callWithin_run hmnemonic h
  · have hnone : splitCall? text = none := by
      by_contra hsome
      rcases Option.ne_none_iff_exists'.1 hsome with ⟨read, hread⟩
      rcases exists_callHead_of_splitCall? hread with ⟨mnemonic, name, tail, hhead, rfl⟩
      exact hbegins ⟨mnemonic, hhead.mnemonic_mem, name ++ tail, by simp [callHead]⟩
    rw [if_neg (mt (beginsCall_iff h).1 hbegins), hnone]
    rfl

/-- A call is read at a position exactly where the line can be sliced and a call begins what is
behind it. -/
theorem callAt_eq_ok_some_iff :
    callAt line start = .ok (some (call, stop)) ↔
      ∃ text after, text <:+ line ∧ positionOf line text = start ∧
        splitCall? text = some (call, after) ∧ positionOf line after = stop := by
  constructor
  · intro h
    cases hslice : sliceFrom line start with
    | error bad => simp [callAt, bytesFrom, hslice, bind, Except.bind] at h
    | ok text =>
        rcases sliceFrom_eq_ok_iff.1 hslice with ⟨before, rfl, rfl⟩
        have htext : text <:+ before ++ text := List.suffix_append before text
        rw [← positionOf_append before text, callAt_positionOf htext] at h
        simp only [Except.ok.injEq, Option.map_eq_some_iff, Prod.mk.injEq] at h
        rcases h with ⟨⟨call', after⟩, hread, rfl, rfl⟩
        exact ⟨text, after, htext, positionOf_append before text, hread, rfl⟩
  · rintro ⟨text, after, htext, rfl, hread, rfl⟩
    simp [callAt_positionOf htext, hread]

/-- A call takes the cursor forward. -/
theorem lt_of_callAt (h : callAt line start = .ok (some (call, stop))) : start < stop := by
  rcases callAt_eq_ok_some_iff.1 h with ⟨text, after, htext, rfl, hread, rfl⟩
  rcases exists_last_of_splitCall? hread with ⟨c, -, hlast⟩
  exact positionOf_lt hlast htext

end Program
end MotionController
