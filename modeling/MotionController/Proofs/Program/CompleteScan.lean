import MotionController.Proofs.Program.CallPositions
import MotionController.Proofs.Program.JumpNames

/-!
# The scan of a line for calls

The calls of a line can be read with a cursor that moves over its bytes. Behind a call it goes on
from the end of the call, and otherwise from the next command (`scanRound`), so that each round
takes it forward (`lt_of_scanRound`) and the scan ends (`callsFrom`). It reads the calls that
`findCalls` does and never slices the line inside a character (`callsFrom_zero`).

These calls are all that there are: each call that begins where a command may begin is among them,
but for those that begin within another one of them (`call_scan_is_complete`).
-/

namespace MotionController
namespace Program

open Text

variable {line text rest after : List Char} {call : Call} {c : Char} {start stop cursor next : Nat}
  {found : List Call}

/-! ## Moving a cursor -/

/-- The first call that begins at one of some positions. -/
def firstCallAt (line : Line) : List Nat → Except BadPosition (Option (Call × Nat))
  | [] => .ok none
  | start :: starts => do
      let read? ← callAt line start
      match read? with
      | some read => .ok (some read)
      | none => firstCallAt line starts

/-- Where a call may begin next: behind the first semicolon from the cursor on, and before that at
the start of the line. -/
def nextStarts (line : Line) (cursor : Nat) : Except BadPosition (List Nat) := do
  let bytes ← bytesFrom line cursor
  let behind := (positionsBehind ';'.toUInt8 cursor bytes).take 1
  .ok (if cursor = 0 then 0 :: behind else behind)

/-- One round of the scan: the call found in it, if any, and where the cursor goes. The scan ends
where no semicolon comes any more. -/
def scanRound (line : Line) (cursor : Nat) : Except BadPosition (Option (List Call × Nat)) :=
  if cursor ≤ (utf8Bytes line).length then do
    let starts ← nextStarts line cursor
    let read? ← firstCallAt line starts
    match read?, starts.getLast? with
    | some (call, stop), _ => .ok (some ([call], stop))
    | none, some last => .ok (if cursor < last then some ([], last) else none)
    | none, none => .ok none
  else
    .ok none

/-- A text behind a semicolon of `text` begins at a position behind a semicolon. -/
theorem positionsBehind_semicolon (h : text <:+ line) :
    positionsBehind ';'.toUInt8 (positionOf line text) (utf8Bytes text) =
      (behindSemicolons text).map (positionOf line) := by
  induction text with
  | nil => rfl
  | cons c rest ih =>
      have hrest : rest <:+ line := (List.suffix_cons c rest).trans h
      rw [positionsBehind_utf8Bytes_cons (by decide) h, behindSemicolons]
      by_cases hc : c = ';' <;> simp [hc, ih hrest]

theorem head?_behindSemicolons (text : List Char) :
    (behindSemicolons text).head? = behindSemicolon? text := by
  induction text with
  | nil => rfl
  | cons c rest ih =>
      by_cases hc : c = ';'
      · simp [hc, behindSemicolons]
      · simp [hc, behindSemicolons, behindSemicolon?_cons_of_ne hc, ih]

theorem nextStarts_positionOf (h : text <:+ line) :
    nextStarts line (positionOf line text) =
      .ok ((if positionOf line text = 0 then [0] else []) ++
        (behindSemicolon? text).toList.map (positionOf line)) := by
  have htake : (behindSemicolons text).take 1 = (behindSemicolon? text).toList := by
    rw [← head?_behindSemicolons]
    cases behindSemicolons text <;> rfl
  simp only [nextStarts, bytesFrom_positionOf h, bind, Except.bind, positionsBehind_semicolon h,
    ← List.map_take, htake]
  split <;> rfl

/-- What a round finds at the start of a command behind the cursor, and where the cursor goes. -/
def roundAt (line command : Line) : List Call × Nat :=
  match splitCall? command with
  | some (call, after) => ([call], positionOf line after)
  | none => ([], positionOf line command)

theorem lt_roundAt (htext : text <:+ line) (h : ';' :: rest <:+ text) :
    positionOf line text < (roundAt line rest).2 := by
  have hrest : rest <:+ line := ((List.suffix_cons ';' rest).trans h).trans htext
  have hlt : positionOf line text < positionOf line rest := positionOf_lt h htext
  unfold roundAt
  split
  · next call after hread =>
      rcases exists_last_of_splitCall? hread with ⟨c, -, hlast⟩
      exact hlt.trans (positionOf_lt hlast hrest)
  · exact hlt

theorem positionOf_le_length (line text : Line) :
    positionOf line text ≤ (utf8Bytes line).length := by
  rw [length_utf8Bytes]
  exact positionOf_le_byteLength line text

/-- Behind the start of the line, a round goes to the next command. -/
theorem scanRound_positionOf (h : text <:+ line) (hne : positionOf line text ≠ 0) :
    scanRound line (positionOf line text) =
      .ok ((behindSemicolon? text).map (roundAt line)) := by
  simp only [scanRound, positionOf_le_length, if_true, nextStarts_positionOf h, hne, if_false, bind,
    Except.bind, List.nil_append]
  cases hnext : behindSemicolon? text with
  | none => rfl
  | some rest =>
      have hsuffix : ';' :: rest <:+ text := suffix_of_behindSemicolon? hnext
      have hrest : rest <:+ line := ((List.suffix_cons ';' rest).trans hsuffix).trans h
      have hlt : positionOf line text < positionOf line rest := positionOf_lt hsuffix h
      cases hread : splitCall? rest <;>
        simp [firstCallAt, callAt_positionOf hrest, hread, hlt, roundAt, bind, Except.bind]

/-- At the start of the line, a round reads the first command, or else goes to the next one. -/
theorem scanRound_zero (line : Line) :
    scanRound line 0 =
      .ok (match splitCall? line with
        | some (call, after) => some ([call], positionOf line after)
        | none => (behindSemicolon? line).map (roundAt line)) := by
  have hline : line <:+ line := List.suffix_rfl
  have hstarts := nextStarts_positionOf hline
  have hcall := callAt_positionOf hline
  simp only [positionOf_self, if_true] at hstarts hcall
  simp only [scanRound, Nat.zero_le, if_true, hstarts, bind, Except.bind, List.cons_append,
    List.nil_append, firstCallAt, hcall]
  cases hread : splitCall? line with
  | some read => rfl
  | none =>
      cases hnext : behindSemicolon? line with
      | none => rfl
      | some rest =>
          have hsuffix : ';' :: rest <:+ line := suffix_of_behindSemicolon? hnext
          have hrest : rest <:+ line := (List.suffix_cons ';' rest).trans hsuffix
          have hlt : 0 < positionOf line rest := by simpa using positionOf_lt hsuffix hline
          cases hread : splitCall? rest <;>
            simp [firstCallAt, callAt_positionOf hrest, hread, hlt, roundAt, bind, Except.bind]

/-- Each round takes the cursor forward. -/
theorem lt_of_scanRound (h : scanRound line cursor = .ok (some (found, next))) :
    cursor < next ∧ cursor ≤ (utf8Bytes line).length := by
  have hle : cursor ≤ (utf8Bytes line).length := by
    by_contra hnot
    simp [scanRound, hnot] at h
  refine ⟨?_, hle⟩
  by_cases hzero : cursor = 0
  · subst hzero
    have hline : line <:+ line := List.suffix_rfl
    rw [scanRound_zero] at h
    cases hread : splitCall? line with
    | some read =>
        rcases exists_last_of_splitCall? hread with ⟨c, -, hlast⟩
        simp only [hread, Except.ok.injEq, Option.some.injEq, Prod.mk.injEq] at h
        simpa [← h.2] using positionOf_lt hlast hline
    | none =>
        simp only [hread, Except.ok.injEq, Option.map_eq_some_iff] at h
        rcases h with ⟨rest, hnext, hround⟩
        simpa [hround] using lt_roundAt hline (suffix_of_behindSemicolon? hnext)
  · -- A round that comes to an end has sliced the line, so the cursor is between characters.
    cases hslice : sliceFrom line cursor with
    | error bad => simp [scanRound, hle, nextStarts, bytesFrom, hslice, bind, Except.bind] at h
    | ok text =>
        rcases sliceFrom_eq_ok_iff.1 hslice with ⟨before, rfl, rfl⟩
        have htext : text <:+ before ++ text := List.suffix_append before text
        rw [← positionOf_append before text] at h hzero ⊢
        rw [scanRound_positionOf htext hzero] at h
        simp only [Except.ok.injEq, Option.map_eq_some_iff] at h
        rcases h with ⟨rest, hnext, hround⟩
        simpa [hround] using lt_roundAt htext (suffix_of_behindSemicolon? hnext)

/-- The calls of a line from the cursor on. -/
def callsFrom (line : Line) (cursor : Nat) : Except BadPosition (List Call) :=
  match h : scanRound line cursor with
  | .error bad => .error bad
  | .ok none => .ok []
  | .ok (some (found, next)) =>
      have := lt_of_scanRound h
      (callsFrom line next).map (found ++ ·)
termination_by (utf8Bytes line).length + 1 - cursor

/-- One round after the other. -/
theorem callsFrom_eq (line : Line) (cursor : Nat) :
    callsFrom line cursor =
      match scanRound line cursor with
      | .error bad => .error bad
      | .ok none => .ok []
      | .ok (some (found, next)) => (callsFrom line next).map (found ++ ·) := by
  conv_lhs => unfold callsFrom
  split <;> simp [*]

/-- Behind a command that follows a semicolon, the cursor is not at the start of the line. -/
theorem positionOf_ne_zero (h : c :: rest <:+ line) (hafter : after <:+ rest) :
    positionOf line after ≠ 0 := by
  have hrest : rest <:+ line := (List.suffix_cons c rest).trans h
  have hlt := positionOf_lt h List.suffix_rfl
  have hle := positionOf_le hafter hrest
  omega

/-- Where the calls behind a command and behind the call in it are found, so are those from the
command on. -/
theorem callsFrom_roundAt
    (hlater : ∀ after, after <:+ rest → callsFrom line (positionOf line after) =
      .ok (laterCalls after)) :
    (callsFrom line (roundAt line rest).2).map ((roundAt line rest).1 ++ ·) =
      .ok (findCalls rest) := by
  cases hread : splitCall? rest with
  | none =>
      simp [roundAt, hread, hlater rest List.suffix_rfl, findCalls_of_none hread, Except.map]
  | some read =>
      have hafter : read.2 <:+ rest := suffix_of_splitCall? hread
      simp [roundAt, hread, hlater read.2 hafter, findCalls_of_some hread, Except.map]

/-- Behind the start of the line, the scan finds the calls behind the next semicolon. -/
theorem callsFrom_positionOf (h : text <:+ line) (hne : positionOf line text ≠ 0) :
    callsFrom line (positionOf line text) = .ok (laterCalls text) := by
  -- The cursor only comes to texts that are behind the semicolon, and so shorter.
  induction hlength : text.length using Nat.strongRecOn generalizing text with
  | ind length ih =>
      rw [callsFrom_eq, scanRound_positionOf h hne]
      cases hnext : behindSemicolon? text with
      | none => simp [laterCalls, hnext]
      | some rest =>
          have hsuffix : ';' :: rest <:+ text := suffix_of_behindSemicolon? hnext
          have hrest : rest <:+ line := ((List.suffix_cons ';' rest).trans hsuffix).trans h
          have hround : (callsFrom line (roundAt line rest).2).map ((roundAt line rest).1 ++ ·) =
              .ok (findCalls rest) := by
            apply callsFrom_roundAt
            intro after hafter
            have hshorter : after.length < length := by
              have hle := hafter.length_le
              have hlt := hsuffix.length_le
              rw [List.length_cons] at hlt
              omega
            exact ih after.length hshorter (hafter.trans hrest)
              (positionOf_ne_zero (hsuffix.trans h) hafter) rfl
          simpa [laterCalls, hnext] using hround

/-- The scan by positions finds the calls of the line. -/
theorem callsFrom_zero (line : Line) : callsFrom line 0 = .ok (findCalls line) := by
  rw [callsFrom_eq, scanRound_zero]
  cases hread : splitCall? line with
  | some read =>
      have hafter : read.2 <:+ line := suffix_of_splitCall? hread
      rcases exists_last_of_splitCall? hread with ⟨c, -, hlast⟩
      have hlater := callsFrom_positionOf hafter (positionOf_ne_zero hlast List.suffix_rfl)
      simp [hlater, findCalls_of_some hread, Except.map]
  | none =>
      cases hnext : behindSemicolon? line with
      | none => simp [findCalls_of_none hread, laterCalls, hnext]
      | some rest =>
          have hsuffix : ';' :: rest <:+ line := suffix_of_behindSemicolon? hnext
          have hrest : rest <:+ line := (List.suffix_cons ';' rest).trans hsuffix
          have hround : (callsFrom line (roundAt line rest).2).map ((roundAt line rest).1 ++ ·) =
              .ok (findCalls rest) := by
            apply callsFrom_roundAt
            intro after hafter
            exact callsFrom_positionOf (hafter.trans hrest) (positionOf_ne_zero hsuffix hafter)
          simpa [findCalls_of_none hread, laterCalls, hnext] using hround

/-! ## Where commands begin -/

/-- The positions where a command may begin: the start of the line and those behind its
semicolons. -/
def commandBoundaries (line : Line) : List Nat :=
  0 :: positionsBehind ';'.toUInt8 0 (utf8Bytes line)

/-- The positions in the line behind the semicolons of its end `text`. -/
def laterBoundaries (line text : Line) : List Nat :=
  (behindSemicolons text).map (positionOf line)

theorem commandBoundaries_eq (line : Line) :
    commandBoundaries line = positionOf line line :: laterBoundaries line line := by
  have hbehind := positionsBehind_semicolon (List.suffix_rfl (l := line))
  rw [positionOf_self] at hbehind
  rw [commandBoundaries, hbehind, positionOf_self, laterBoundaries]

theorem suffix_of_mem_behindSemicolons (h : rest ∈ behindSemicolons text) :
    ';' :: rest <:+ text := by
  induction text with
  | nil => simp [behindSemicolons] at h
  | cons c text ih =>
      simp only [behindSemicolons] at h
      split at h
      · next hc =>
          rcases List.mem_cons.1 h with rfl | h
          · exact hc ▸ List.suffix_rfl
          · exact (ih h).trans (List.suffix_cons c text)
      · exact (ih h).trans (List.suffix_cons c text)

theorem behindSemicolons_append (a b : List Char) :
    behindSemicolons (a ++ b) = (behindSemicolons a).map (· ++ b) ++ behindSemicolons b := by
  induction a with
  | nil => rfl
  | cons c a ih => by_cases hc : c = ';' <;> simp [behindSemicolons, hc, ih]

theorem behindSemicolons_eq (text : List Char) :
    behindSemicolons text =
      (behindSemicolon? text).elim [] fun rest => rest :: behindSemicolons rest := by
  induction text with
  | nil => rfl
  | cons c text ih =>
      by_cases hc : c = ';'
      · simp [behindSemicolons, hc]
      · simpa [behindSemicolons, hc, behindSemicolon?_cons_of_ne hc] using ih

/-- A call takes the boundaries inside it, and leaves those behind it. -/
theorem exists_inside_of_splitCall? (htext : text <:+ line)
    (hread : splitCall? text = some (call, after)) :
    ∃ inside, laterBoundaries line text = inside ++ laterBoundaries line after ∧
      ∀ boundary ∈ inside, positionOf line text < boundary ∧ boundary < positionOf line after := by
  -- The call does not end with a semicolon, so the boundaries in it are before its end.
  rcases exists_last_of_splitCall? hread with ⟨c, hc, consumed, rfl⟩
  refine ⟨(behindSemicolons consumed).map fun rest => positionOf line (rest ++ c :: after), ?_, ?_⟩
  · simp [laterBoundaries, behindSemicolons_append, behindSemicolons, hc]
  · intro boundary hmem
    rcases List.mem_map.1 hmem with ⟨rest, hrest, rfl⟩
    have hsuffix : ';' :: (rest ++ c :: after) <:+ consumed ++ c :: after := by
      rcases suffix_of_mem_behindSemicolons hrest with ⟨before, rfl⟩
      exact ⟨before, by simp⟩
    have hinner : rest ++ c :: after <:+ line :=
      ((List.suffix_cons ';' _).trans hsuffix).trans htext
    exact ⟨positionOf_lt hsuffix htext, positionOf_lt (List.suffix_append rest _) hinner⟩

/-! ## Complete scans -/

/-- A call with the positions where it begins and ends. -/
structure PlacedCall where
  start : Nat
  call : Call
  stop : Nat
  deriving DecidableEq, Repr

/-- The call is read at one of the boundaries. -/
def IsReadAt (line : Line) (boundaries : List Nat) (placed : PlacedCall) : Prop :=
  placed.start ∈ boundaries ∧ callAt line placed.start = .ok (some (placed.call, placed.stop))

/-- The position is strictly inside one of the calls. -/
def IsInside (position : Nat) (calls : List PlacedCall) : Prop :=
  ∃ placed ∈ calls, placed.start < position ∧ position < placed.stop

/-- These are, in order, the calls that are read at the boundaries and do not begin inside another
of them. -/
structure IsCompleteScan (line : Line) (boundaries : List Nat) (calls : List PlacedCall) :
    Prop where
  mem_iff : ∀ placed, placed ∈ calls ↔
    IsReadAt line boundaries placed ∧ ¬IsInside placed.start calls
  /-- The semicolon before a call is at the end of the call before it or behind that. -/
  apart : calls.Pairwise fun earlier later => earlier.stop < later.start

/-- The label of the call is all label characters that stand behind its mnemonic and number sign. -/
def NamesWholeLabel (line : Line) (placed : PlacedCall) : Prop :=
  ∃ mnemonic name tail, sliceFrom line placed.start = .ok (callHead mnemonic name ++ tail) ∧
    IsCallHead mnemonic name tail ∧ placed.call.label = '#' :: name

theorem isCompleteScan_nil (line : Line) : IsCompleteScan line [] [] where
  mem_iff := by simp [IsReadAt]
  apart := .nil

/-- A boundary where no call is read makes no difference. -/
theorem IsCompleteScan.behind_none {boundaries : List Nat} {calls : List PlacedCall}
    (h : IsCompleteScan line boundaries calls) (hnone : callAt line start = .ok none) :
    IsCompleteScan line (start :: boundaries) calls where
  mem_iff := by
    intro placed
    have hread : IsReadAt line (start :: boundaries) placed ↔ IsReadAt line boundaries placed := by
      constructor
      · rintro ⟨hmem, hcall⟩
        rcases List.mem_cons.1 hmem with hstart | hmem
        · simp [hstart, hnone] at hcall
        · exact ⟨hmem, hcall⟩
      · exact fun hread => ⟨List.mem_cons_of_mem start hread.1, hread.2⟩
    rw [h.mem_iff, hread]
  apart := h.apart

theorem isInside_cons {position : Nat} {placed : PlacedCall} {calls : List PlacedCall} :
    IsInside position (placed :: calls) ↔
      (placed.start < position ∧ position < placed.stop) ∨ IsInside position calls := by
  simp [IsInside]

/-- A call that is read comes before those that are read at the boundaries behind it. -/
theorem IsCompleteScan.behind_call {inside boundaries : List Nat} {calls : List PlacedCall}
    (h : IsCompleteScan line boundaries calls) (hcall : callAt line start = .ok (some (call, stop)))
    (hinside : ∀ boundary ∈ inside, start < boundary ∧ boundary < stop)
    (hbehind : ∀ boundary ∈ boundaries, stop < boundary) :
    IsCompleteScan line (start :: (inside ++ boundaries)) (⟨start, call, stop⟩ :: calls) := by
  have hlt : start < stop := lt_of_callAt hcall
  have hlater : ∀ placed ∈ calls, stop < placed.start := fun placed hmem =>
    hbehind placed.start ((h.mem_iff placed).1 hmem).1.1
  refine ⟨fun placed => ⟨fun hmem => ?_, ?_⟩, List.pairwise_cons.2 ⟨hlater, h.apart⟩⟩
  · rw [isInside_cons]
    rcases List.mem_cons.1 hmem with rfl | hmem
    · refine ⟨⟨List.mem_cons_self, hcall⟩, ?_⟩
      rintro (⟨hself, -⟩ | ⟨other, hother, hless, -⟩)
      · exact absurd hself (Nat.lt_irrefl start)
      · exact absurd hless (Nat.lt_asymm (hlt.trans (hlater other hother)))
    · rcases (h.mem_iff placed).1 hmem with ⟨⟨hboundary, hread⟩, hnot⟩
      refine ⟨⟨List.mem_cons_of_mem start (List.mem_append_right inside hboundary), hread⟩, ?_⟩
      rintro (⟨-, hless⟩ | hin)
      · exact absurd hless (Nat.lt_asymm (hlater placed hmem))
      · exact hnot hin
  · rintro ⟨⟨hmem, hread⟩, hnot⟩
    rw [isInside_cons] at hnot
    rcases List.mem_cons.1 hmem with hstart | hmem
    · -- One call is read at one position.
      rcases placed with ⟨start', call', stop'⟩
      obtain rfl : start' = start := hstart
      simp only [hcall, Except.ok.injEq, Option.some.injEq, Prod.mk.injEq] at hread
      simp [hread]
    · rcases List.mem_append.1 hmem with hin | hboundary
      · exact absurd (.inl (hinside placed.start hin)) hnot
      · apply List.mem_cons_of_mem
        exact (h.mem_iff placed).2 ⟨⟨hboundary, hread⟩, fun hin => hnot (.inr hin)⟩

/-- Which calls a complete scan has is settled from the start of the line on. -/
theorem IsCompleteScan.mem_iff_mem {boundaries : List Nat} {calls others : List PlacedCall}
    (h : IsCompleteScan line boundaries calls) (h' : IsCompleteScan line boundaries others)
    (placed : PlacedCall) : placed ∈ calls ↔ placed ∈ others := by
  induction hstart : placed.start using Nat.strongRecOn generalizing placed with
  | ind position ih =>
      -- Only calls that begin earlier have the start of this one inside them.
      have hinside : IsInside placed.start calls ↔ IsInside placed.start others := by
        refine exists_congr fun other => and_congr_left fun hless => ?_
        exact ih other.start (hstart ▸ hless.1) other rfl
      rw [h.mem_iff, h'.mem_iff, hinside]

theorem IsCompleteScan.pairwise_start_lt {boundaries : List Nat} {calls : List PlacedCall}
    (h : IsCompleteScan line boundaries calls) :
    calls.Pairwise fun earlier later => earlier.start < later.start := by
  refine h.apart.imp_of_mem fun hearlier _ hlt => ?_
  exact (lt_of_callAt ((h.mem_iff _).1 hearlier).1.2).trans hlt

/-- A line has one complete scan at most. -/
theorem IsCompleteScan.unique {boundaries : List Nat} {calls others : List PlacedCall}
    (h : IsCompleteScan line boundaries calls) (h' : IsCompleteScan line boundaries others) :
    calls = others := by
  have hnodup : ∀ {calls}, IsCompleteScan line boundaries calls → calls.Nodup := by
    intro calls hscan
    refine List.Pairwise.imp ?_ hscan.pairwise_start_lt
    rintro earlier later hlt rfl
    exact Nat.lt_irrefl earlier.start hlt
  have hperm : calls.Perm others :=
    (List.perm_ext_iff_of_nodup (hnodup h) (hnodup h')).2 fun placed => h.mem_iff_mem h' placed
  refine hperm.eq_of_pairwise (fun _ _ _ _ hlt hgt => ?_) h.pairwise_start_lt h'.pairwise_start_lt
  exact absurd hgt (Nat.lt_asymm hlt)

/-- The calls found from the start of a command on make up a complete scan. -/
theorem exists_completeScan (htext : text <:+ line) :
    ∃ calls : List PlacedCall, findCalls text = calls.map (·.call) ∧
      IsCompleteScan line (positionOf line text :: laterBoundaries line text) calls := by
  induction text using findCalls.induct with
  | case1 text ih =>
      -- What is scanned behind the first command, or behind the call in it.
      have hlater : ∀ scanned, scanned <:+ line → nextBoundary? text = behindSemicolon? scanned →
          ∃ calls : List PlacedCall, laterCalls scanned = calls.map (·.call) ∧
            IsCompleteScan line (laterBoundaries line scanned) calls := by
        intro scanned hscanned heq
        cases hnext : behindSemicolon? scanned with
        | none =>
            refine ⟨[], by simp [laterCalls, hnext], ?_⟩
            simpa [laterBoundaries, behindSemicolons_eq scanned, hnext]
              using isCompleteScan_nil line
        | some rest =>
            have hrest : rest <:+ line :=
              ((List.suffix_cons ';' rest).trans (suffix_of_behindSemicolon? hnext)).trans hscanned
            rcases ih rest (heq.trans hnext) hrest with ⟨calls, hcalls, hscan⟩
            refine ⟨calls, by simp [laterCalls, hnext, hcalls], ?_⟩
            simpa [laterBoundaries, behindSemicolons_eq scanned, hnext] using hscan
      cases hread : splitCall? text with
      | none =>
          rcases hlater text htext (by simp [nextBoundary?, hread]) with ⟨calls, hcalls, hscan⟩
          refine ⟨calls, by rw [findCalls_of_none hread, hcalls], hscan.behind_none ?_⟩
          simp [callAt_positionOf htext, hread]
      | some read =>
          rcases read with ⟨call, after⟩
          have hafter : after <:+ line := (suffix_of_splitCall? hread).trans htext
          rcases hlater after hafter (by simp [nextBoundary?, hread]) with ⟨calls, hcalls, hscan⟩
          rcases exists_inside_of_splitCall? htext hread with ⟨inside, hboundaries, hinside⟩
          have hcall : callAt line (positionOf line text) =
              .ok (some (call, positionOf line after)) := by simp [callAt_positionOf htext, hread]
          have hbehind : ∀ boundary ∈ laterBoundaries line after,
              positionOf line after < boundary := by
            intro boundary hmem
            rcases List.mem_map.1 hmem with ⟨rest, hrest, rfl⟩
            exact positionOf_lt (suffix_of_mem_behindSemicolons hrest) hafter
          refine ⟨⟨positionOf line text, call, positionOf line after⟩ :: calls, ?_, ?_⟩
          · rw [findCalls_of_some hread, hcalls, List.map_cons]
          · rw [hboundaries]
            exact hscan.behind_call hcall hinside hbehind

theorem IsReadAt.namesWholeLabel {boundaries : List Nat} {placed : PlacedCall}
    (h : IsReadAt line boundaries placed) : NamesWholeLabel line placed := by
  rcases callAt_eq_ok_some_iff.1 h.2 with ⟨text, after, htext, hstart, hread, -⟩
  rcases splitCall?_eq_some_iff.1 hread with ⟨mnemonic, name, tail, arguments, hhead, rfl, -, hcall⟩
  exact ⟨mnemonic, name, tail, hstart ▸ sliceFrom_positionOf htext, hhead, by rw [hcall]⟩

/-- The scan by positions ends without a slice inside a character, and its calls are those of the
one complete scan of the line. Each of them names the whole label. -/
theorem call_scan_is_complete (line : Line) :
    callsFrom line 0 = .ok (findCalls line) ∧
      ∃ calls : List PlacedCall, findCalls line = calls.map (·.call) ∧
        (∀ others, IsCompleteScan line (commandBoundaries line) others ↔ others = calls) ∧
        ∀ placed ∈ calls, NamesWholeLabel line placed := by
  rcases exists_completeScan (List.suffix_rfl (l := line)) with ⟨calls, hcalls, hscan⟩
  rw [← commandBoundaries_eq] at hscan
  refine ⟨callsFrom_zero line, calls, hcalls, fun others => ⟨fun h => h.unique hscan, ?_⟩, ?_⟩
  · rintro rfl
    exact hscan
  · intro placed hmem
    exact ((hscan.mem_iff placed).1 hmem).1.namesWholeLabel

end Program
end MotionController
