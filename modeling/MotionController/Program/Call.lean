import MotionController.Program.Label
import MotionController.Text.Alphanumeric

/-!
# Subroutine calls

A call is `JS`, `JP` or `XQ` at the start of a command, a label, and an optional list of arguments
in parentheses. It ends with the command, or before a condition `,(…)`, or before the name of the
thread that is to run it. The arguments go to the first closing parenthesis behind which a call may
end, be it behind a semicolon. `findCalls` reads the calls of a line from left to right.
-/

namespace MotionController
namespace Program

/-- A call of a subroutine. -/
structure Call where
  mnemonic : List Char
  label : Label
  /-- The arguments with their parentheses, or nothing. -/
  arguments : List Char
  deriving DecidableEq, Repr

/-- The mnemonics of calls. -/
def callMnemonics : List (List Char) :=
  ["JS".toList, "JP".toList, "XQ".toList]

/-! ## One call -/

/-- The name of a thread: a number, an axis argument `^a` to `^h`, or a short word. -/
def isThread (text : List Char) : Bool :=
  let isNumber := !text.isEmpty && text.all Char.isDigit
  let isAxis := match text with
    | ['^', axis] => decide ('a' ≤ axis ∧ axis ≤ 'h')
    | _ => false
  let isWord := !text.isEmpty && decide (text.length ≤ 8) &&
    text.all fun c => Text.isAlphanumeric c || c == '_'
  isNumber || isAxis || isWord

/-- A call may end before this text. -/
def callEndsBefore : List Char → Bool
  | [] => true
  | ';' :: _ => true
  | ',' :: rest => rest.head? == some '(' || isThread (rest.takeWhile (· ≠ ';'))
  | _ => false

/-- Splits a text behind its first closing parenthesis behind which a call may end. -/
def splitArguments? : List Char → Option (List Char × List Char)
  | [] => none
  | c :: rest =>
      if c = ')' ∧ callEndsBefore rest then
        some ([c], rest)
      else
        (splitArguments? rest).map fun (arguments, after) => (c :: arguments, after)

/-- Splits the arguments of a call off the text behind its label. -/
def splitCallEnd? (text : List Char) : Option (List Char × List Char) :=
  if text.head? = some '(' then splitArguments? text
  else if callEndsBefore text then some ([], text)
  else none

/-- Splits a call off the start of a command and what follows it. -/
def splitCall? : List Char → Option (Call × List Char)
  | a :: b :: '#' :: rest =>
      -- Behind a shorter name a label character would follow, where no call ends.
      let name := rest.takeWhile isLabelChar
      if [a, b] ∈ callMnemonics ∧ name ≠ [] ∧ name.length ≤ maxLabelLength then
        (splitCallEnd? (rest.dropWhile isLabelChar)).map fun (arguments, after) =>
          (⟨[a, b], '#' :: name, arguments⟩, after)
      else
        none
  | _ => none

/-! ## All calls of a line -/

/-- The text behind the first semicolon. -/
def behindSemicolon? (text : List Char) : Option (List Char) :=
  match text.dropWhile (· ≠ ';') with
  | [] => none
  | _ :: rest => some rest

/-- What a scan leaves is the end of the text it was given. -/
theorem suffix_of_splitArguments? {text arguments after : List Char}
    (h : splitArguments? text = some (arguments, after)) : after <:+ text := by
  induction text generalizing arguments after with
  | nil => simp [splitArguments?] at h
  | cons c rest ih =>
      simp only [splitArguments?] at h
      split at h
      · simp only [Option.some.injEq, Prod.mk.injEq] at h
        rw [← h.2]
        exact List.suffix_cons c rest
      · obtain ⟨⟨inner, after'⟩, hinner, heq⟩ := Option.map_eq_some_iff.1 h
        simp only [Prod.mk.injEq] at heq
        rw [← heq.2]
        exact (ih hinner).trans (List.suffix_cons c rest)

theorem suffix_of_splitCallEnd? {text arguments after : List Char}
    (h : splitCallEnd? text = some (arguments, after)) : after <:+ text := by
  unfold splitCallEnd? at h
  split at h
  · exact suffix_of_splitArguments? h
  · split at h
    · simp only [Option.some.injEq, Prod.mk.injEq] at h
      exact h.2 ▸ List.suffix_rfl
    · simp at h

theorem suffix_of_splitCall? {text after : List Char} {call : Call}
    (h : splitCall? text = some (call, after)) : after <:+ text := by
  unfold splitCall? at h
  split at h
  · next a b rest =>
      dsimp only at h
      split at h
      · obtain ⟨⟨arguments, after'⟩, hend, heq⟩ := Option.map_eq_some_iff.1 h
        simp only [Prod.mk.injEq] at heq
        have hname : rest.dropWhile isLabelChar <:+ rest := List.dropWhile_suffix _
        have hstart : rest <:+ a :: b :: '#' :: rest := ⟨[a, b, '#'], rfl⟩
        rw [← heq.2]
        exact (suffix_of_splitCallEnd? hend).trans (hname.trans hstart)
      · simp at h
  · simp at h

theorem suffix_of_behindSemicolon? {text rest : List Char}
    (h : behindSemicolon? text = some rest) : ';' :: rest <:+ text := by
  have hdrop : text.dropWhile (· ≠ ';') <:+ text := List.dropWhile_suffix _
  unfold behindSemicolon? at h
  split at h
  · simp at h
  · next c rest' heq =>
      have hc : c = ';' := by
        have hne : text.dropWhile (· ≠ ';') ≠ [] := by
          rw [heq]
          exact List.cons_ne_nil c rest'
        have hhead := List.head_dropWhile_not (· ≠ ';') hne
        simp only [heq, List.head_cons, decide_eq_false_iff_not, Decidable.not_not] at hhead
        exact hhead
      simp only [Option.some.injEq] at h
      rw [heq, hc, h] at hdrop
      exact hdrop

/-- The text behind the command that begins here, or behind the call in it. -/
def nextBoundary? (text : List Char) : Option (List Char) :=
  match splitCall? text with
  | some (_, after) => behindSemicolon? after
  | none => behindSemicolon? text

/-- The next command begins behind a semicolon of the text. -/
theorem suffix_of_nextBoundary? {text rest : List Char}
    (h : nextBoundary? text = some rest) : ';' :: rest <:+ text := by
  unfold nextBoundary? at h
  split at h
  · next hcall => exact (suffix_of_behindSemicolon? h).trans (suffix_of_splitCall? hcall)
  · exact suffix_of_behindSemicolon? h

theorem length_of_nextBoundary? {text rest : List Char}
    (h : nextBoundary? text = some rest) : rest.length < text.length :=
  Nat.lt_of_succ_le (suffix_of_nextBoundary? h).length_le

/-- The calls of a line, in order. A command begins at the start of the line and behind every
semicolon that is not inside the arguments of a call. -/
def findCalls (text : List Char) : List Call :=
  ((splitCall? text).map (·.1)).toList ++
    match h : nextBoundary? text with
    | some rest =>
        have := length_of_nextBoundary? h
        findCalls rest
    | none => []
termination_by text.length

/-! ## Arguments -/

/-- The number of arguments of a call. -/
def Call.arity (call : Call) : Nat :=
  if call.arguments.length < 3 then 0 else (Text.cut ',' call.arguments).length

/-- A character of plain variable references. -/
def isPlainArgumentChar (c : Char) : Bool :=
  c.isAlphanum || ".,@[]_()^&\"-".toList.contains c

/-- Some character from here on makes the arguments a calculation: an inner parenthesis, a
character that no variable reference holds, or a minus sign that does not begin an argument. -/
def isCalculationFrom (before : Option Char) : List Char → Bool
  | [] => false
  | c :: rest =>
      let isInnerParenthesis := (c == '(' || c == ')') && before.isSome && !rest.isEmpty
      let isBareMinus := c == '-' && !(before == some '(' || before == some ',')
      isInnerParenthesis || !isPlainArgumentChar c || isBareMinus ||
        isCalculationFrom (some c) rest

/-- The arguments of a call hold a calculation. -/
def Call.isCalculation (call : Call) : Bool :=
  isCalculationFrom none call.arguments

end Program
end MotionController
