import MotionController.CommandLine.Run

/-!
# The program

The outer layer: it gathers the files that an invocation names, hands them to the pure run, and
puts out what the run leaves behind.
-/

namespace MotionController
namespace CommandLine

/-- Adds what the file system has at a location. The content of a file is looked at only if it
`isRead`. -/
def gatherAt (isRead : Bool) (workspace : Workspace) (location : Location) : IO Workspace := do
  let name := location.nameFromRoot
  let path := (← IO.currentDir) / name
  if ← path.isDir then
    return { workspace with directories := location :: workspace.directories }
  else if workspace.files.any (·.1 == location) then
    return workspace
  else if isRead then
    match ← (IO.FS.readBinFile path).toBaseIO with
    | .ok bytes => return workspace.put location (FileContent.ofBytes bytes)
    | .error _ => return workspace
  else if ← path.pathExists then
    return workspace.put location (.text "")
  else
    return workspace

/-- Adds what the file system has on the way of a name. -/
def gather (isRead : Bool) (workspace : Workspace) (name : String) : IO Workspace :=
  let here := Location.start workspace.current name
  (here.onTheWay (Location.stepsOf name)).foldlM (gatherAt isRead) workspace

/-- The part of the file system that an invocation names. -/
def gatherWorkspace (invocation : Invocation) : IO Workspace := do
  let here := (← IO.currentDir).toString
  let workspace : Workspace := { current := (Location.stepsOf here).foldl Location.next [] }
  let read := invocation.config :: invocation.command.input?.toList
  let workspace ← read.foldlM (gather true) workspace
  invocation.command.output?.toList.foldlM (gather false) workspace

/-- Writes the file that a command made, if it made one. -/
def putOutput (invocation : Invocation) (outcome : Outcome) : IO Unit := do
  if outcome.exitCode == 0 then
    if let some name := invocation.command.output? then
      if let .ok content := outcome.workspace.read name then
        IO.FS.writeFile name content

/-- Prints what a run says. -/
def printOutcome (outcome : Outcome) : IO Unit := do
  (← IO.getStdout).putStr outcome.stdout
  (← IO.getStderr).putStr outcome.stderr

end CommandLine
end MotionController

open MotionController.CommandLine in
/-- Runs the program with the arguments of its command line. -/
def main (arguments : List String) : IO UInt32 := do
  match Invocation.read arguments with
  | .error _ =>
      let outcome := run {} arguments
      printOutcome outcome
      return outcome.exitCode.toUInt32
  | .ok invocation =>
      let outcome := run (← gatherWorkspace invocation) arguments
      putOutput invocation outcome
      printOutcome outcome
      return outcome.exitCode.toUInt32
