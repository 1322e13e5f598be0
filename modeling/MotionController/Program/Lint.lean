import MotionController.Program.ConditionalJump
import MotionController.Program.Diagnostic

/-!
# Linting

The linter minifies a program and looks for what the controller would report only when it runs, or
never. Each line is looked at by itself, knowing the labels defined and called before it; labels
without definition are reported after all lines. Line numbers are those of the minified program.

With warnings, jumps that could state their own condition come first, and unused labels last.
-/

namespace MotionController
namespace Program

/-! ## What a line holds -/

/-- The text occurs in another one. -/
def occursIn (text : List Char) : List Char → Bool
  | [] => text.isEmpty
  | c :: rest => text.isPrefixOf (c :: rest) || occursIn text rest

/-- The pieces at odd positions, counted from zero: the texts between quotes. -/
def oddPieces : List (List Char) → List (List Char)
  | _ :: piece :: pieces => piece :: oddPieces pieces
  | _ => []

/-- The string literals of a command. A quote that is not closed runs to its end. -/
def literals (command : Line) : List (List Char) :=
  oddPieces (Text.cut '"' command)

/-- The greatest length of a string literal that fits a controller variable. -/
def maxLiteralLength : Nat :=
  5

/-- The command prints a message, whose strings may be of any length. -/
def isMessage (command : Line) : Bool :=
  "MG".toList.isPrefixOf command

/-- Labels that the controller calls by itself. -/
def entryLabels : List Label :=
  ["#AUTO", "#MCTIME", "#AMPERR", "#AUTOERR", "#POSERR", "#CMDERR"].map String.toList

/-- Labels that take a bare `(-1)` whatever number of arguments they usually take. -/
def statusLabels : List Label :=
  ["#ok", "#error"].map String.toList

/-- The call may have another number of arguments than others of its label. -/
def Call.isExempt (call : Call) : Bool :=
  statusLabels.contains call.label && call.arguments == "(-1)".toList

/-! ## Definitions and calls with their lines -/

/-- Things found on a line, each with the line's number. -/
def onLine {α : Type} (find : Line → List α) (line : Nat × Line) : List (Nat × α) :=
  (find line.2).map fun thing => (line.1, thing)

/-- The label definitions of numbered lines, in order. -/
def definitionsOf (lines : List (Nat × Line)) : List (Nat × Label) :=
  lines.flatMap (onLine definedLabels)

/-- The calls of numbered lines, in order. -/
def callsOf (lines : List (Nat × Line)) : List (Nat × Call) :=
  lines.flatMap (onLine findCalls)

/-- The line of the first definition of a label. -/
def firstDefinition? (definitions : List (Nat × Label)) (label : Label) : Option Nat :=
  (definitions.find? fun definition => definition.2 == label).map (·.1)

/-- The first call of a label, exempt ones aside: the one that sets its number of arguments. -/
def firstCall? (calls : List (Nat × Call)) (label : Label) : Option (Nat × Call) :=
  calls.find? fun call => call.2.label == label && !call.2.isExempt

/-! ## Checks of one line -/

/-- Checks that need nothing but the line. -/
def checkLine (limit number : Nat) (line : Line) : List Diagnostic :=
  let report (isFound : Bool) (finding : Finding) :=
    if isFound then [Diagnostic.single number finding] else []
  report (occursIn "None".toList line) (.undefinedValue line) ++
    report (isOverlong limit line) (.longLine line) ++
    report (occursIn "==".toList line || occursIn "!=".toList line) (.badOperator line)

/-- Reports the definitions of labels that are defined before. -/
def checkDefinitions : (earlier later : List (Nat × Label)) → List Diagnostic
  | _, [] => []
  | earlier, (number, label) :: later =>
      -- A repeated definition never changes which one is the first.
      let rest := checkDefinitions (earlier ++ [(number, label)]) later
      match firstDefinition? earlier label with
      | some first => Diagnostic.single number (.duplicateLabel label first) :: rest
      | none => rest

/-- Reports a call with another number of arguments than the first call of its label. -/
def checkArity (earlier : List (Nat × Call)) (number : Nat) (call : Call) : List Diagnostic :=
  if call.isExempt then
    []
  else
    match firstCall? earlier call.label with
    | none => []
    | some (first, other) =>
        if call.arity = other.arity then
          []
        else
          [.single number (.inconsistentArity call.label other.arity first call.arity)]

/-- Reports what is wrong with the arguments of a call. -/
def checkArguments (number : Nat) (line : Line) (call : Call) : List Diagnostic :=
  (if occursIn "_JS".toList call.arguments then
    [.single number (.nestedSubroutineCall line)]
  else []) ++
    if call.isCalculation then [.single number (.dangerousArgument line)] else []

/-- Reports on the calls of a line. -/
def checkCalls (line : Line) : (earlier later : List (Nat × Call)) → List Diagnostic
  | _, [] => []
  | earlier, (number, call) :: later =>
      checkArity earlier number call ++ checkArguments number line call ++
        checkCalls line (earlier ++ [(number, call)]) later

/-- Reports the string literals of a line that are too long, messages aside. -/
def checkLiterals (number : Nat) (line : Line) : List Diagnostic :=
  let commands := (Text.cut ';' line).filter fun command => !isMessage command
  commands.flatMap fun command =>
    let tooLong := (literals command).filter fun literal => maxLiteralLength < literal.length
    tooLong.map fun literal => .single number (.longString literal command)

/-- Reports on one line, given the lines before it. -/
def checkNumbered (limit : Nat) (before : List (Nat × Line)) (line : Nat × Line) :
    List Diagnostic :=
  checkLine limit line.1 line.2 ++
    checkDefinitions (definitionsOf before) (onLine definedLabels line) ++
    checkCalls line.2 (callsOf before) (onLine findCalls line) ++
    checkLiterals line.1 line.2

/-- Reports on lines one after another, given the lines before them. -/
def checkAll (limit : Nat) : (before after : List (Nat × Line)) → List Diagnostic
  | _, [] => []
  | before, line :: after =>
      checkNumbered limit before line ++ checkAll limit (before ++ [line]) after

/-! ## Checks of the whole program -/

/-- Reports the labels that are called and not defined, in the order of their first calls. -/
def undefinedLabels (lines : List (Nat × Line)) : List Diagnostic :=
  let calls := callsOf lines
  let called := (calls.map (·.2.label)).eraseDups
  let undefined := called.filter fun label =>
    (firstDefinition? (definitionsOf lines) label).isNone
  undefined.map fun label =>
    let sites := calls.filter fun call => call.2.label == label
    ⟨sites.map (·.1), .undefinedLabel label⟩

/-- Reports the labels that are defined and not called, in the order of their definitions. -/
def unusedLabels (lines : List (Nat × Line)) : List Diagnostic :=
  let definitions := definitionsOf lines
  let called := (callsOf lines).map (·.2.label)
  let unused := (definitions.map (·.2)).eraseDups.filter fun label =>
    !called.contains label && !entryLabels.contains label
  unused.map fun label =>
    ⟨(firstDefinition? definitions label).toList, .unusedLabel label⟩

/-! ## Conditional jumps -/

/-- Reports the jumps that could state their own condition. -/
def conditionalJumps (lines : List Line) : List Diagnostic :=
  (findGuardedJumps true (Text.join '\n' lines)).map fun jump => ⟨[], .conditionalJump jump⟩

/-! ## The linter -/

/-- Reports on the lines of a minified program. -/
def lintLines (limit : Nat) (warnings : Bool) (lines : List Line) : List Diagnostic :=
  let all := numbered lines
  (if warnings then conditionalJumps lines else []) ++
    (checkAll limit [] all ++ undefinedLabels all) ++
    if warnings then unusedLabels all else []

/-- Minifies a program and reports everything suspicious in the result. -/
def lint (limit : Nat) (warnings : Bool) (content : String) : List Diagnostic :=
  lintLines limit warnings (minified limit content)

end Program
end MotionController
