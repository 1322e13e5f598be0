import MotionController.Program.Line

/-!
# Conditional jumps

A jump that is all that a condition guards could state the condition itself:

    IF(a=1)
    JS#sub
    ENDIF

`findGuardedJumps` searches a program text for such jumps. The commands may be separated by line
breaks or by semicolons. The search goes on behind the `ENDIF` of each jump it finds.
-/

namespace MotionController
namespace Program

/-! ## One jump -/

/-- A character that commands do not hold: a semicolon or a line break. -/
def isSeparator (c : Char) : Bool :=
  c == ';' || c == '\n'

/-- Splits a command and the separator behind it off a text. -/
def splitCommand? (text : List Char) : Option (Line × List Char) :=
  match text.dropWhile fun c => !isSeparator c with
  | [] => none
  | _ :: rest => some (text.takeWhile fun c => !isSeparator c, rest)

/-- The command is `IF` with a condition in parentheses. -/
def isCondition (command : Line) : Bool :=
  match command with
  | 'I' :: 'F' :: '(' :: condition =>
      decide (2 ≤ condition.length) && condition.getLast? == some ')'
  | _ => false

/-- The jump that a command is, with its label as far as that is letters. -/
def jump? : Line → Option (List Char)
  | 'J' :: kind :: '#' :: rest =>
      match rest.takeWhile Char.isAlpha with
      | [] => none
      | name => if kind = 'S' ∨ kind = 'P' then some ('J' :: kind :: '#' :: name) else none
  | _ => none

/-- The command that ends what a condition guards. -/
def endOfCondition : Line :=
  "ENDIF".toList

/-- Splits a condition, the jump that is all it guards, and the `ENDIF` off a text: the jump and the
text behind them. -/
def splitGuardedJump? (text : List Char) : Option (List Char × List Char) := do
  let (condition, guarded) ← splitCommand? text
  let (command, rest) ← splitCommand? guarded
  let jump ← jump? command
  if isCondition condition ∧ endOfCondition.isPrefixOf rest then
    some (jump, rest.drop endOfCondition.length)
  else
    none

/-! ## All jumps of a text -/

/-- The guarded jump whose condition begins at the semicolon or at the start of a line here. -/
def guardedJumpHere? (atLineStart : Bool) (text : List Char) : Option (List Char × List Char) :=
  match text with
  | ';' :: rest => splitGuardedJump? rest
  | _ => if atLineStart then splitGuardedJump? text else none

theorem length_of_splitCommand? {text command rest : List Char}
    (h : splitCommand? text = some (command, rest)) : rest.length < text.length := by
  have hdrop := (List.dropWhile_suffix fun c => !isSeparator c : _ <:+ text).length_le
  unfold splitCommand? at h
  split at h
  · cases h
  · next heq =>
      simp only [Option.some.injEq, Prod.mk.injEq] at h
      rw [heq, h.2, List.length_cons] at hdrop
      exact hdrop

theorem length_of_splitGuardedJump? {text jump rest : List Char}
    (h : splitGuardedJump? text = some (jump, rest)) : rest.length < text.length := by
  simp only [splitGuardedJump?, Option.bind_eq_bind, Option.bind_eq_some_iff] at h
  rcases h with ⟨⟨condition, guarded⟩, hfirst, ⟨command, after⟩, hsecond, _, _, hends⟩
  split at hends
  · simp only [Option.some.injEq, Prod.mk.injEq] at hends
    have hle : rest.length ≤ after.length := by
      rw [← hends.2]
      exact (List.drop_suffix _ after).length_le
    calc
      rest.length ≤ after.length := hle
      _ < guarded.length := length_of_splitCommand? hsecond
      _ < text.length := length_of_splitCommand? hfirst
  · cases hends

theorem length_of_guardedJumpHere? {atLineStart : Bool} {text jump rest : List Char}
    (h : guardedJumpHere? atLineStart text = some (jump, rest)) : rest.length < text.length := by
  unfold guardedJumpHere? at h
  split at h
  · exact Nat.lt_succ_of_lt (length_of_splitGuardedJump? h)
  · split at h
    · exact length_of_splitGuardedJump? h
    · cases h

/-- The jumps of a text that are all that a condition guards, from left to right. -/
def findGuardedJumps (atLineStart : Bool) (text : List Char) : List (List Char) :=
  match h : guardedJumpHere? atLineStart text with
  | some (jump, rest) =>
      have := length_of_guardedJumpHere? h
      jump :: findGuardedJumps false rest
  | none =>
      match text with
      | [] => []
      | c :: rest => findGuardedJumps (c == '\n') rest
termination_by text.length

end Program
end MotionController
