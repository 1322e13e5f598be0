import MotionController.CommandLine.Invocation
import MotionController.CommandLine.Workspace
import MotionController.Config.Configuration
import MotionController.Program.Lint
import MotionController.Program.Report
import MotionController.Program.Stamp
import MotionController.Settings.Document
import MotionController.Text.Quoted

/-!
# Running a command

A run takes a workspace and the arguments and gives what is printed, the exit code and the
workspace afterwards. Usage errors come first, then faults of the configuration, then those of the
command.
-/

namespace MotionController
namespace CommandLine

/-- What a run leaves behind. -/
structure Outcome where
  exitCode : Nat
  stdout : String := ""
  stderr : String := ""
  workspace : Workspace

/-- Why a run ends early: a message, and what is behind it. -/
structure Failure where
  message : String
  cause : Option String := none
  deriving DecidableEq, Repr

/-- The report of a failure. -/
def Failure.report (failure : Failure) : String :=
  let cause := match failure.cause with
    | some cause => "\nCaused by:\n    " ++ cause ++ "\n"
    | none => ""
  "Error: " ++ failure.message ++ "\n" ++ cause

/-! ## Files -/

/-- Reads the text of a program. -/
def readProgram (workspace : Workspace) (name : String) : Except Failure String :=
  (workspace.read name).mapError fun fault => ⟨s!"Failed to read {name}", fault.message⟩

/-- The failure of reading or writing settings. -/
def settingsFault (fault : FileFault) : Failure :=
  ⟨"IO error: " ++ fault.message, fault.message⟩

/-- Writes a program with a line break at its end to a file, or prints it. -/
def emit (workspace : Workspace) (output : Option String) (text : String) :
    Except Failure Outcome :=
  match output with
  | none => .ok { exitCode := 0, stdout := text ++ "\n", workspace }
  | some name =>
      match workspace.write name (text ++ "\n") with
      | .ok workspace => .ok { exitCode := 0, workspace }
      | .error fault => .error ⟨s!"Failed to write {name}", fault.message⟩

/-- Reads the configuration, which has its defaults if there is no file. -/
def readConfiguration (workspace : Workspace) (name : String) : Except Failure Configuration :=
  if workspace.hasName name then
    match workspace.read name with
    | .error fault => .error { message := fault.message }
    | .ok content =>
        match Configuration.read? content with
        | some configuration => .ok configuration
        | none => .error { message := "TOML parse error" }
  else
    .ok {}

/-! ## Commands -/

/-- The minified text of a program file. -/
def minifyFile (workspace : Workspace) (input : String) (limit : Nat) : Except Failure String := do
  let content ← readProgram workspace input
  return Program.minify limit (Program.prepare content)

/-- Lints a program file. -/
def lintFile (workspace : Workspace) (input : String) (limit : Nat) (warnings json : Bool) :
    Except Failure Outcome := do
  let content ← readProgram workspace input
  let diagnostics := Program.lint limit warnings (Program.prepare content)
  let report := if json then Program.jsonReport diagnostics else Program.textReport diagnostics
  let isClean := diagnostics.isEmpty
  return {
    exitCode := if isClean then 0 else 1
    stdout := if isClean && !json then "" else report ++ "\n"
    workspace }

/-- Brings a settings file into its normal form. -/
def settingsFile (workspace : Workspace) (input : String) (output : Option String)
    (axes : String) : Except Failure Outcome := do
  let content ← (workspace.read input).mapError settingsFault
  let parser := Settings.Parser.standard.withAxes axes
  let document ← (Settings.Document.parse parser content input).mapError
    fun e => { message := e.message }
  let text ← document.toText.mapError fun e => { message := e.message }
  let stderr := Parameter.numeral document.parameters.length ++ " parameters\n"
  match output with
  | none => return { exitCode := 0, stdout := text, stderr, workspace }
  | some name =>
      let workspace ← (workspace.write name text).mapError settingsFault
      return { exitCode := 0, stderr, workspace }

/-- Reports a fault of a string cell. -/
def cellFailure (fault : StringCell.Fault) : Failure :=
  { message := fault.message }

/-- Prints a string cell, or the text of one. -/
def printLine (workspace : Workspace) (text : Except StringCell.Fault String) :
    Except Failure Outcome := do
  let text ← text.mapError cellFailure
  return { exitCode := 0, stdout := text ++ "\n", workspace }

/-- The text of a string cell with all its characters visible. -/
def visibleText (written : String) : Except StringCell.Fault String :=
  (StringCell.decodeBinary written).map fun text => String.ofList (Text.escaped text.toList)

/-- Minifies a program and stamps it with a name, which fits a string cell, and its digest. -/
def stampFile (workspace : Workspace) (input name : String) (limit : Nat) :
    Except Failure String := do
  if StringCell.capacity < Text.byteLength name.toList then
    let quoted := String.ofList (Text.quoted name.toList)
    throw { message := s!"Program name {quoted} is longer than 6 characters" }
  let program ← minifyFile workspace input limit
  let hash ← (Program.programHash program).mapError cellFailure
  return Program.stamp program name hash

/-- Runs a command. -/
def Command.run (workspace : Workspace) (configuration : Configuration) :
    Command → Except Failure Outcome
  | .minify input output lineLimit => do
      let text ← minifyFile workspace input (lineLimit.getD configuration.lineLimit)
      emit workspace output text
  | .lint input warnings lineLimit json =>
      lintFile workspace input (lineLimit.getD configuration.lineLimit)
        (warnings || configuration.warnings) json
  | .settings input output axes =>
      settingsFile workspace input output (axes.getD configuration.axes)
  | .encode text => printLine workspace (StringCell.encode text)
  | .decode written false => printLine workspace (StringCell.decode written)
  | .decode written true => printLine workspace (visibleText written)
  | .stamp input name output => do
      -- A stamp has no option for the limit.
      let text ← stampFile workspace input name configuration.lineLimit
      emit workspace output text

/-! ## The program -/

/-- What the program says about itself. -/
def versionText : String :=
  "galil 0.1.0\n"

/-- How the program is used. -/
def usageText : String :=
  "Usage: galil [OPTIONS] <COMMAND>\n\nCommands: minify, lint, settings, encode, decode, stamp\n"

/-- Runs an invocation. -/
def Invocation.run (workspace : Workspace) (invocation : Invocation) : Except Failure Outcome := do
  let configuration ← readConfiguration workspace invocation.config
  invocation.command.run workspace configuration

/-- Runs the program. -/
def run (workspace : Workspace) (arguments : List String) : Outcome :=
  match Invocation.read arguments with
  | .error .usageError => { exitCode := 2, stderr := usageText, workspace }
  | .error .help => { exitCode := 0, stdout := usageText, workspace }
  | .error .version => { exitCode := 0, stdout := versionText, workspace }
  | .ok invocation =>
      match invocation.run workspace with
      | .ok outcome => outcome
      | .error failure => { exitCode := 1, stderr := failure.report, workspace }

/-! ## Files of an invocation -/

/-- The file that a command reads. -/
def Command.input? : Command → Option String
  | .minify input .. | .lint input .. | .settings input .. | .stamp input .. => some input
  | .encode _ | .decode .. => none

/-- The file that a command writes. -/
def Command.output? : Command → Option String
  | .minify _ output _ | .settings _ output _ | .stamp _ _ output => output
  | _ => none

end CommandLine
end MotionController
