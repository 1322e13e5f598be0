import MotionController.CommandLine.Location
import MotionController.Text.Bytes

/-!
# Workspaces

The files and directories that a run of the program sees, as a value. Every step of a name but the
last must lead to a directory. Reading may find no file, or one that is not text; writing makes a
file where there is none, but no directory.
-/

namespace MotionController
namespace CommandLine

/-- The content of a file. -/
inductive FileContent where
  | text (content : String)
  /-- The bytes are no text in UTF-8. -/
  | undecodable
  deriving DecidableEq, Repr

/-- The content that the bytes of a file are. -/
def FileContent.ofBytes (bytes : ByteArray) : FileContent :=
  match String.fromUTF8? bytes with
  | some content => text content
  | none => undecodable

/-- Why a file is not read or written. -/
inductive FileFault where
  | notFound
  /-- The way goes on behind a file. -/
  | notDirectory
  | isDirectory
  | nameTooLong
  | undecodable
  deriving DecidableEq, Repr

/-- The report of a file fault. -/
def FileFault.message : FileFault → String
  | notFound => "No such file or directory (os error 2)"
  | notDirectory => "Not a directory (os error 20)"
  | isDirectory => "Is a directory (os error 21)"
  | nameTooLong => "File name too long (os error 36)"
  | undecodable => "stream did not contain valid UTF-8"

/-- What is at a location. -/
inductive Node where
  | file (content : FileContent)
  | directory
  deriving DecidableEq, Repr

/-- Files and directories. The directories around each of them are there too. -/
structure Workspace where
  /-- The directory that names start from. -/
  current : Location := []
  /-- The files. The first one at a location counts. -/
  files : List (Location × FileContent) := []
  directories : List Location := []
  deriving DecidableEq, Repr

namespace Workspace

/-- There is such a directory. -/
def hasDirectory (workspace : Workspace) (location : Location) : Bool :=
  location.isPrefixOf workspace.current ||
    workspace.directories.any (fun directory => location.isPrefixOf directory) ||
    workspace.files.any fun file => location.isPrefixOf file.1.dropLast

/-- What is at a location, if anything is. -/
def node? (workspace : Workspace) (location : Location) : Option Node :=
  match workspace.files.lookup location with
  | some content => some (.file content)
  | none => if workspace.hasDirectory location then some .directory else none

/-! ## Names -/

/-- The greatest number of bytes in a step. -/
def maxStepLength : Nat :=
  255

/-- The greatest number of bytes in a name. -/
def maxNameLength : Nat :=
  4095

/-- Takes one step, which only a directory lets one do. -/
def enter (workspace : Workspace) (here : Location) (step : String) : Except FileFault Location :=
  match workspace.node? here with
  | none => .error .notFound
  | some (.file _) => .error .notDirectory
  | some .directory =>
      if maxStepLength < Text.byteLength step.toList then .error .nameTooLong
      else .ok (here.next step)

/-- The location that some steps of a name lead to. Nothing need be there. -/
def walk (workspace : Workspace) (name : String) (steps : List String) :
    Except FileFault Location :=
  if name = "" then .error .notFound
  else if maxNameLength < Text.byteLength name.toList then .error .nameTooLong
  else steps.foldlM workspace.enter (Location.start workspace.current name)

/-- The location that a name leads to. -/
def locate (workspace : Workspace) (name : String) : Except FileFault Location :=
  workspace.walk name (Location.stepsOf name)

/-- The name leads to a file or a directory. -/
def hasName (workspace : Workspace) (name : String) : Bool :=
  match workspace.locate name with
  | .ok location => (workspace.node? location).isSome
  | .error _ => false

/-! ## Files -/

/-- The workspace with a file put at a location. -/
def put (workspace : Workspace) (location : Location) (content : FileContent) : Workspace :=
  { workspace with files := (location, content) :: workspace.files }

/-- The text of a file. -/
def read (workspace : Workspace) (name : String) : Except FileFault String := do
  let location ← workspace.locate name
  match workspace.node? location with
  | some (.file (.text content)) => .ok content
  | some (.file .undecodable) => .error .undecodable
  | some .directory => .error .isDirectory
  | none => .error .notFound

/-- The workspace with a file written. A name that ends with a slash is a directory's, whether or
not there is one; it is enough that the directory around it is there. -/
def write (workspace : Workspace) (name content : String) : Except FileFault Workspace := do
  let steps := Location.stepsOf name
  if steps.getLast? = some "" then
    let stepsAround := (steps.reverse.dropWhile (· = "")).tail.reverse
    let _ ← workspace.walk name (stepsAround ++ [""])
    .error .isDirectory
  else
    let location ← workspace.locate name
    if workspace.hasDirectory location then .error .isDirectory
    else .ok (workspace.put location (.text content))

end Workspace
end CommandLine
end MotionController
