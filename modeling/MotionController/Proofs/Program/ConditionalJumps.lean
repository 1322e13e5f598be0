import Mathlib.Data.List.TakeWhile
import MotionController.Proofs.Program.Warnings

/-!
# Conditional jumps and how programs are packed

A jump is reported for each place where a condition, a jump and an `ENDIF` follow one another among
the pieces of a minified program between semicolons and line breaks (`Guards`), whichever of the two
separates them (`lint_reports_guarded_jumps`). The search for jumps goes on behind each one that it
finds. Nothing is lost that way, since neither a jump nor an `ENDIF` begins a condition
(`guardedJumps_of_guards`).
-/

namespace MotionController
namespace Program

variable {text rest jump : List Char} {piece command : Line} {pieces others : List Line}

/-! ## The view -/

/-- The pieces of a program text between semicolons and line breaks, empty ones included. -/
def programPieces (text : List Char) : List Line :=
  text.splitOnP isSeparator

/-- The piece is `IF` and at least one character in parentheses. -/
def IsIf (piece : Line) : Prop :=
  ∃ condition, condition ≠ [] ∧ piece = 'I' :: 'F' :: '(' :: (condition ++ [')'])

/-- The piece begins with a jump to a label that begins with a letter. -/
def BeginsWithJump (piece : Line) : Prop :=
  ∃ kind letter rest, (kind = 'S' ∨ kind = 'P') ∧ letter.isAlpha = true ∧
    piece = 'J' :: kind :: '#' :: letter :: rest

/-- A jump and the end of a condition come behind the condition at a place. -/
structure Guards (pieces : List Line) (place : Nat) : Prop where
  condition : ∃ piece ∈ pieces[place]?, IsIf piece
  jump : ∃ piece ∈ pieces[place + 1]?, BeginsWithJump piece
  ends : ∃ piece ∈ pieces[place + 2]?, endOfCondition <+: piece

/-- The mnemonic, the number sign, and the letters behind it. -/
def namedJump (piece : Line) : List Char :=
  piece.take 3 ++ (piece.drop 3).takeWhile Char.isAlpha

/-! ## Conditions and jumps -/

theorem isCondition_iff : isCondition piece = true ↔ IsIf piece := by
  constructor
  · intro h
    unfold isCondition at h
    split at h
    · next condition =>
        simp only [Bool.and_eq_true, decide_eq_true_eq, beq_iff_eq] at h
        rcases List.getLast?_eq_some_iff.1 h.2 with ⟨inner, rfl⟩
        refine ⟨inner, ?_, rfl⟩
        rintro rfl
        simp at h
    · cases h
  · rintro ⟨condition, hne, rfl⟩
    have hlength : 0 < condition.length := List.length_pos_iff.2 hne
    simp only [isCondition, Bool.and_eq_true, decide_eq_true_eq, beq_iff_eq,
      List.getLast?_append, List.length_append, List.length_singleton]
    exact ⟨by omega, rfl⟩

theorem jump?_eq_some_iff :
    jump? piece = some jump ↔ BeginsWithJump piece ∧ jump = namedJump piece := by
  constructor
  · intro h
    unfold jump? at h
    split at h
    · next kind rest =>
        split at h
        · cases h
        · next hname =>
            split at h
            · next hkind =>
                cases rest with
                | nil => exact absurd rfl hname
                | cons letter rest =>
                    have hletter : letter.isAlpha = true := by
                      by_contra hnot
                      simp [hnot] at hname
                    refine ⟨⟨kind, letter, rest, hkind, hletter, rfl⟩, ?_⟩
                    simpa [namedJump] using h.symm
            · cases h
    · cases h
  · rintro ⟨⟨kind, letter, rest, hkind, hletter, rfl⟩, rfl⟩
    simp [jump?, namedJump, hletter, hkind]

theorem BeginsWithJump.not_isIf (h : BeginsWithJump piece) : ¬IsIf piece := by
  rcases h with ⟨kind, letter, rest, -, -, rfl⟩
  rintro ⟨condition, -, heq⟩
  simp at heq

theorem not_isIf_endOfCondition_append (rest : Line) : ¬IsIf (endOfCondition ++ rest) := by
  rintro ⟨condition, -, heq⟩
  simp [endOfCondition] at heq

theorem not_isIf_nil : ¬IsIf [] := by
  rintro ⟨condition, -, heq⟩
  cases heq

/-! ## Places -/

theorem guards_succ_iff {place : Nat} :
    Guards (piece :: pieces) (place + 1) ↔ Guards pieces place :=
  ⟨fun h => ⟨h.condition, h.jump, h.ends⟩, fun h => ⟨h.condition, h.jump, h.ends⟩⟩

theorem not_guards_of_not_isIf (h : ¬IsIf piece) : ¬Guards (piece :: pieces) 0 := by
  rintro ⟨⟨first, hfirst, hif⟩, -, -⟩
  simp only [List.getElem?_cons_zero, Option.mem_def, Option.some.injEq] at hfirst
  exact h (hfirst ▸ hif)

/-- What a place needs can be tested. -/
theorem guards_iff {place : Nat} : Guards pieces place ↔
    pieces[place]?.any isCondition = true ∧
      pieces[place + 1]?.any (fun piece => (jump? piece).isSome) = true ∧
        pieces[place + 2]?.any endOfCondition.isPrefixOf = true := by
  have hjump : ∀ piece, (jump? piece).isSome = true ↔ BeginsWithJump piece := by
    intro piece
    simp [Option.isSome_iff_exists, jump?_eq_some_iff]
  simp only [Option.any_eq_true, isCondition_iff, hjump, List.isPrefixOf_iff_prefix]
  constructor
  · rintro ⟨⟨first, hfirst, hif⟩, ⟨second, hsecond, hjump⟩, ⟨third, hthird, hends⟩⟩
    exact ⟨⟨first, hfirst, hif⟩, ⟨second, hsecond, hjump⟩, ⟨third, hthird, hends⟩⟩
  · rintro ⟨hcondition, hjump, hends⟩
    exact ⟨hcondition, hjump, hends⟩

instance (pieces : List Line) (place : Nat) : Decidable (Guards pieces place) :=
  decidable_of_iff _ guards_iff.symm

/-- The places of all conditions that guard a jump, in order. -/
def guardPlaces (pieces : List Line) : List Nat :=
  (List.range pieces.length).filter fun place => Guards pieces place

/-- The jumps that are guarded among pieces, in order. -/
def guardedJumps (pieces : List Line) : List (List Char) :=
  (guardPlaces pieces).map fun place => namedJump (pieces.getD (place + 1) [])

theorem guardPlaces_cons (piece : Line) (pieces : List Line) :
    guardPlaces (piece :: pieces) =
      (if Guards (piece :: pieces) 0 then [0] else []) ++ (guardPlaces pieces).map (· + 1) := by
  simp only [guardPlaces, List.length_cons, List.range_succ_eq_map, List.filter_cons,
    List.filter_map, Function.comp_def, guards_succ_iff, decide_eq_true_eq]
  split <;> rfl

theorem guardedJumps_of_not_guards (h : ¬Guards pieces 0) :
    guardedJumps pieces = guardedJumps pieces.tail := by
  cases pieces with
  | nil => rfl
  | cons piece pieces =>
      simp [guardedJumps, guardPlaces_cons, h, Function.comp_def]

theorem guardedJumps_nil_cons (pieces : List Line) :
    guardedJumps ([] :: pieces) = guardedJumps pieces :=
  guardedJumps_of_not_guards (not_guards_of_not_isIf not_isIf_nil)

/-- Behind a jump that is guarded the next one comes behind the `ENDIF`. -/
theorem guardedJumps_of_guards {condition tail : Line} (hcondition : IsIf condition)
    (hjump : BeginsWithJump command) :
    guardedJumps (condition :: command :: (endOfCondition ++ tail) :: others) =
      namedJump command :: guardedJumps others := by
  have hguards : Guards (condition :: command :: (endOfCondition ++ tail) :: others) 0 :=
    ⟨⟨condition, rfl, hcondition⟩, ⟨command, rfl, hjump⟩, ⟨_, rfl, List.prefix_append _ tail⟩⟩
  have hhere : guardedJumps (condition :: command :: (endOfCondition ++ tail) :: others) =
      namedJump command :: guardedJumps (command :: (endOfCondition ++ tail) :: others) := by
    simp [guardedJumps, guardPlaces_cons condition, hguards, Function.comp_def]
  calc
    _ = namedJump command :: guardedJumps (command :: (endOfCondition ++ tail) :: others) := hhere
    _ = namedJump command :: guardedJumps ((endOfCondition ++ tail) :: others) := by
      rw [guardedJumps_of_not_guards (not_guards_of_not_isIf hjump.not_isIf), List.tail_cons]
    _ = namedJump command :: guardedJumps others := by
      have hnot : ¬Guards ((endOfCondition ++ tail) :: others) 0 :=
        not_guards_of_not_isIf (not_isIf_endOfCondition_append tail)
      rw [guardedJumps_of_not_guards hnot, List.tail_cons]

/-! ## One jump of a text -/

theorem programPieces_append_cons {c : Char} (hc : isSeparator c = true)
    (hcommand : ∀ d ∈ command, isSeparator d = false) (rest : List Char) :
    programPieces (command ++ c :: rest) = command :: programPieces rest := by
  simp [programPieces, List.splitOnP_append_cons _ _ hc, List.splitOnP_eq_singleton hcommand]

theorem tail_programPieces_cons {c : Char} (hc : isSeparator c = false) (rest : List Char) :
    (programPieces (c :: rest)).tail = (programPieces rest).tail := by
  simp [programPieces, List.splitOnP_cons_eq_if_modifyHead, hc]

theorem exists_tail_of_programPieces_append (hcommand : ∀ d ∈ command, isSeparator d = false)
    (rest : List Char) : ∃ tail others, programPieces rest = tail :: others ∧
      programPieces (command ++ rest) = (command ++ tail) :: others := by
  induction command with
  | nil =>
      rcases List.exists_cons_of_ne_nil (List.splitOnP_ne_nil isSeparator rest) with
        ⟨tail, others, heq⟩
      exact ⟨tail, others, heq, heq⟩
  | cons c command ih =>
      rcases List.forall_mem_cons.1 hcommand with ⟨hc, hcommand⟩
      rcases ih hcommand with ⟨tail, others, hrest, happend⟩
      refine ⟨tail, others, hrest, ?_⟩
      have hcons := List.splitOnP_cons_eq_if_modifyHead (p := isSeparator) c (command ++ rest)
      simp only [hc, Bool.false_eq_true, if_false] at hcons
      simp only [List.cons_append]
      simp only [programPieces] at happend ⊢
      simp [hcons, happend]

/-- A command that is split off is the first piece; without a separator there is only one. -/
theorem programPieces_eq (text : List Char) :
    programPieces text =
      match splitCommand? text with
      | some (command, rest) => command :: programPieces rest
      | none => [text] := by
  have hsplit := List.takeWhile_append_dropWhile (p := fun c => !isSeparator c) (l := text)
  have hcommand : ∀ c ∈ text.takeWhile fun c => !isSeparator c, isSeparator c = false := by
    intro c hc
    simpa using List.mem_takeWhile_imp hc
  unfold splitCommand?
  cases hrest : text.dropWhile fun c => !isSeparator c with
  | nil =>
      have hall : ∀ c ∈ text, isSeparator c = false := by
        simpa [List.dropWhile_eq_nil_iff] using hrest
      simp [programPieces, List.splitOnP_eq_singleton hall]
  | cons c rest =>
      have hc : isSeparator c = true := by
        have hne : (text.dropWhile fun c => !isSeparator c) ≠ [] := by simp [hrest]
        simpa [hrest] using List.head_dropWhile_not (fun c => !isSeparator c) hne
      rw [hrest] at hsplit
      have happend := programPieces_append_cons hc hcommand rest
      rwa [hsplit] at happend

/-- A guarded jump that is split off a text is the one among its first three pieces. -/
theorem exists_pieces_of_splitGuardedJump? (h : splitGuardedJump? text = some (jump, rest)) :
    ∃ condition command tail others, IsIf condition ∧ BeginsWithJump command ∧
      jump = namedJump command ∧ programPieces rest = tail :: others ∧
        programPieces text = condition :: command :: (endOfCondition ++ tail) :: others := by
  simp only [splitGuardedJump?, Option.bind_eq_bind, Option.bind_eq_some_iff] at h
  rcases h with ⟨⟨condition, guarded⟩, hfirst, ⟨command, after⟩, hsecond, found, hjump, hends⟩
  rcases jump?_eq_some_iff.1 hjump with ⟨hbegins, rfl⟩
  split at hends
  · next hguards =>
      rcases hguards with ⟨hcondition, hend⟩
      rcases List.isPrefixOf_iff_prefix.1 hend with ⟨behind, rfl⟩
      simp only [Option.some.injEq, Prod.mk.injEq, List.drop_left] at hends
      rcases hends with ⟨rfl, rfl⟩
      have hword : ∀ c ∈ endOfCondition, isSeparator c = false := by
        simp [endOfCondition, isSeparator]
      rcases exists_tail_of_programPieces_append hword behind with ⟨tail, others, hbehind, hpieces⟩
      refine ⟨condition, command, tail, others, isCondition_iff.1 hcondition, hbegins, rfl,
        hbehind, ?_⟩
      simp only [programPieces_eq text, hfirst, programPieces_eq guarded, hsecond, hpieces]
  · cases hends

theorem prefix_of_programPieces_eq (h : programPieces text = piece :: others) : piece <+: text := by
  rw [programPieces_eq] at h
  unfold splitCommand? at h
  cases hrest : text.dropWhile fun c => !isSeparator c with
  | nil =>
      simp only [hrest, List.cons.injEq] at h
      exact h.1 ▸ List.prefix_rfl
  | cons c rest =>
      simp only [hrest, List.cons.injEq] at h
      exact h.1 ▸ List.takeWhile_prefix _

/-- Where the first pieces guard a jump, it is split off. -/
theorem not_guards_of_splitGuardedJump? (h : splitGuardedJump? text = none) :
    ¬Guards (programPieces text) 0 := by
  intro hguards
  rcases guards_iff.1 hguards with ⟨hcondition, hjump, hends⟩
  cases hfirst : splitCommand? text with
  | none => simp [programPieces_eq text, hfirst] at hjump
  | some first =>
      cases hsecond : splitCommand? first.2 with
      | none => simp [programPieces_eq text, hfirst, programPieces_eq first.2, hsecond] at hends
      | some second =>
          rcases List.exists_cons_of_ne_nil (List.splitOnP_ne_nil isSeparator second.2) with
            ⟨third, others, hthird⟩
          have hpieces : programPieces text = first.1 :: second.1 :: third :: others := by
            simp only [programPieces_eq text, hfirst, programPieces_eq first.2, hsecond]
            exact congrArg (first.1 :: second.1 :: ·) hthird
          simp only [hpieces, List.getElem?_cons_zero, List.getElem?_cons_succ, Option.any_some]
            at hcondition hjump hends
          -- What the third piece begins with, the text behind the second separator does.
          have hbehind : endOfCondition <+: second.2 :=
            (List.isPrefixOf_iff_prefix.1 hends).trans (prefix_of_programPieces_eq hthird)
          rcases Option.isSome_iff_exists.1 hjump with ⟨jump, hjump⟩
          simp [splitGuardedJump?, hfirst, hsecond, hjump, hcondition, hbehind] at h

/-! ## All jumps of a text -/

theorem findGuardedJumps_of_some {atLineStart : Bool}
    (h : guardedJumpHere? atLineStart text = some (jump, rest)) :
    findGuardedJumps atLineStart text = jump :: findGuardedJumps false rest := by
  rw [findGuardedJumps]
  split
  · next heq =>
      simp only [h, Option.some.injEq, Prod.mk.injEq] at heq
      simp only [heq]
  · next heq => simp [h] at heq

theorem findGuardedJumps_cons_of_none {atLineStart : Bool} {c : Char}
    (h : guardedJumpHere? atLineStart (c :: rest) = none) :
    findGuardedJumps atLineStart (c :: rest) = findGuardedJumps (c == '\n') rest := by
  rw [findGuardedJumps]
  split
  · next heq => simp [h] at heq
  · rfl

/-- The pieces that the search has before it: inside a line, those behind the next separator. -/
def piecesAhead (atLineStart : Bool) (text : List Char) : List Line :=
  if atLineStart then programPieces text else (programPieces text).tail

theorem programPieces_cons_of_separator {c : Char} (hc : isSeparator c = true) (rest : List Char) :
    programPieces (c :: rest) = [] :: programPieces rest := by
  simp [programPieces, List.splitOnP_cons_eq_if_modifyHead, hc]

/-- Behind a separator the flag does not matter. -/
theorem guardedJumps_piecesAhead_cons {c : Char} (hc : isSeparator c = true) (atLineStart : Bool)
    (rest : List Char) :
    guardedJumps (piecesAhead atLineStart (c :: rest)) = guardedJumps (programPieces rest) := by
  cases atLineStart <;>
    simp [piecesAhead, programPieces_cons_of_separator hc, guardedJumps_nil_cons]

theorem guardedJumps_of_split (h : splitGuardedJump? text = some (jump, rest)) :
    guardedJumps (programPieces text) = jump :: guardedJumps (piecesAhead false rest) := by
  rcases exists_pieces_of_splitGuardedJump? h with
    ⟨condition, command, tail, others, hcondition, hjump, rfl, hrest, htext⟩
  simp [htext, guardedJumps_of_guards hcondition hjump, piecesAhead, hrest]

theorem guardedJumps_of_not_split (h : splitGuardedJump? text = none) :
    guardedJumps (programPieces text) = guardedJumps (piecesAhead false text) :=
  guardedJumps_of_not_guards (not_guards_of_splitGuardedJump? h)

/-- Where no jump is found, none is passed over. -/
theorem guardedJumps_piecesAhead_of_none {atLineStart : Bool} {c : Char}
    (h : guardedJumpHere? atLineStart (c :: rest) = none) :
    guardedJumps (piecesAhead atLineStart (c :: rest)) =
      guardedJumps (piecesAhead (c == '\n') rest) := by
  by_cases hsemicolon : c = ';'
  · subst hsemicolon
    have hnone : splitGuardedJump? rest = none := h
    rw [guardedJumps_piecesAhead_cons (by decide), guardedJumps_of_not_split hnone]
    rfl
  · by_cases hbreak : c = '\n'
    · subst hbreak
      rw [guardedJumps_piecesAhead_cons (by decide)]
      rfl
    · -- Passing a character of a piece leaves the pieces behind it ahead.
      have hc : isSeparator c = false := by simp [isSeparator, hsemicolon, hbreak]
      have hnext : piecesAhead (c == '\n') rest = piecesAhead false (c :: rest) := by
        simp [piecesAhead, hbreak, tail_programPieces_cons hc]
      rw [hnext]
      cases atLineStart with
      | false => rfl
      | true =>
          have hnone : splitGuardedJump? (c :: rest) = none := by
            simpa [guardedJumpHere?, hsemicolon] using h
          exact guardedJumps_of_not_split hnone

/-- The search finds the jumps that are guarded among the pieces before it. -/
theorem findGuardedJumps_eq (atLineStart : Bool) (text : List Char) :
    findGuardedJumps atLineStart text = guardedJumps (piecesAhead atLineStart text) := by
  induction atLineStart, text using findGuardedJumps.induct with
  | case1 atLineStart text jump rest h _ ih =>
      -- The condition begins behind a semicolon or at the start of a line, and the search goes on
      -- behind the `ENDIF`, inside a piece.
      rw [findGuardedJumps_of_some h, ih]
      unfold guardedJumpHere? at h
      split at h
      · next rest' =>
          have hc : isSeparator ';' = true := by decide
          rw [guardedJumps_piecesAhead_cons hc, guardedJumps_of_split h]
      · split at h
        · next hstart =>
            simp only [piecesAhead, hstart, if_true]
            exact (guardedJumps_of_split h).symm
        · cases h
  | case2 atLineStart h =>
      rw [findGuardedJumps]
      cases atLineStart <;> rfl
  | case3 atLineStart c rest h ih =>
      rw [findGuardedJumps_cons_of_none h, ih, guardedJumps_piecesAhead_of_none h]

/-! ## Minified programs -/

/-- The pieces of a minified program. -/
def minifiedPieces (limit : Nat) (content : String) : List Line :=
  programPieces (minify limit content).toList

theorem ofKind_conditional_lint (limit : Nat) (content : String) :
    ofKind "conditional_jump" (lint limit true content) =
      (guardedJumps (minifiedPieces limit content)).map fun jump => ⟨[], .conditionalJump jump⟩ := by
  have htext : Text.join '\n' (minified limit content) = (minify limit content).toList := by
    simp [minify, textOfLines]
  calc
    ofKind "conditional_jump" (lint limit true content)
        = conditionalJumps (minified limit content) :=
          ofKind_conditional_lintLines limit (minified limit content)
    _ = (findGuardedJumps true (minify limit content).toList).map fun jump =>
          ⟨[], .conditionalJump jump⟩ := by rw [conditionalJumps, htext]
    _ = _ := by simp only [findGuardedJumps_eq, piecesAhead, if_true, minifiedPieces]

/-- Each place of a minified program where a condition guards a jump is reported once, in order,
whether semicolons or line breaks separate the commands there. -/
theorem lint_reports_guarded_jumps (limit : Nat) (content : String) :
    ofKind "conditional_jump" (lint limit true content) =
      (guardPlaces (minifiedPieces limit content)).map fun place =>
        ⟨[], .conditionalJump (namedJump ((minifiedPieces limit content).getD (place + 1) []))⟩ := by
  simp only [ofKind_conditional_lint, guardedJumps, List.map_map, Function.comp_def]

end Program
end MotionController
