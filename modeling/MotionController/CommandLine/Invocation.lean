import MotionController.CommandLine.Arguments
import MotionController.Numeric.Digits

/-!
# Invocations

The commands of the program with their arguments, and how they are read off the command line. A
command line that does not fit is a usage error, which is found before anything else is done.
-/

namespace MotionController
namespace CommandLine

/-- A command with its arguments. -/
inductive Command where
  | minify (input : String) (output : Option String) (lineLimit : Option Nat)
  | lint (input : String) (warnings : Bool) (lineLimit : Option Nat) (json : Bool)
  | settings (input : String) (output : Option String) (axes : Option String)
  | encode (text : String)
  | decode (written : String) (binary : Bool)
  | stamp (input name : String) (output : Option String)
  deriving DecidableEq, Repr

/-- A command with the name of the configuration file. -/
structure Invocation where
  config : String
  command : Command
  deriving DecidableEq, Repr

/-! ## Options -/

/-- Any text will do. -/
def anyText (_ : String) : Bool :=
  true

/-- The name of a file is not empty. -/
def isFileName (text : String) : Bool :=
  text != ""

/-- A line limit is an unsigned number of 64 bits. -/
def lineLimitOf? (text : String) : Option Nat :=
  Numeric.readUnsigned? 64 text.toList

/-- The options that every command has. -/
def helpOption : OptionSpec :=
  { name := "help", short := some 'h', role := .stop .help }

/-- The option for the file that a text is written to. -/
def outputOption : OptionSpec :=
  { name := "output", short := some 'o', role := .value isFileName }

/-- The option for the line limit. -/
def lineLimitOption : OptionSpec :=
  { name := "line-length", role := .value fun text => (lineLimitOf? text).isSome }

/-- The arguments in front of the command. The program keeps no log, so the level is only read. -/
def programSignature : Signature where
  options :=
    [{ name := "config", short := some 'c', role := .value isFileName },
     { name := "log-level", short := some 'l', role := .value anyText },
     helpOption,
     { name := "version", short := some 'V', role := .stop .version }]
  positionals := []
  hasSubcommands := true

/-- The form of the arguments of a command that reads a file. -/
def fileSignature (options : List OptionSpec) : Signature where
  options := helpOption :: options
  positionals := [isFileName]

/-! ## Commands -/

/-- The limit given on the command line. -/
def givenLimit (scanned : Scanned) : Option Nat :=
  (scanned.value? "line-length").bind lineLimitOf?

/-- Reads the arguments of `minify`. -/
def readMinify (arguments : List String) : Except Stop Command := do
  let scanned ← scan (fileSignature [outputOption, lineLimitOption]) arguments
  match scanned.positionals with
  | [input] => return .minify input (scanned.value? "output") (givenLimit scanned)
  | _ => throw .usageError

/-- Reads the arguments of `lint`. -/
def readLint (arguments : List String) : Except Stop Command := do
  let warnings : OptionSpec := { name := "warnings", short := some 'w', role := .switch }
  let json : OptionSpec := { name := "json", role := .switch }
  let scanned ← scan (fileSignature [warnings, lineLimitOption, json]) arguments
  match scanned.positionals with
  | [input] => return .lint input (scanned.has "warnings") (givenLimit scanned) (scanned.has "json")
  | _ => throw .usageError

/-- Reads the arguments of `settings`. -/
def readSettings (arguments : List String) : Except Stop Command := do
  let axes : OptionSpec := { name := "axes", role := .value anyText }
  let signature : Signature :=
    { options := [helpOption, axes], positionals := [isFileName, isFileName] }
  let scanned ← scan signature arguments
  match scanned.positionals with
  | [input] => return .settings input none (scanned.value? "axes")
  | [input, output] => return .settings input (some output) (scanned.value? "axes")
  | _ => throw .usageError

/-- Reads the arguments of `encode`. -/
def readEncode (arguments : List String) : Except Stop Command := do
  let scanned ← scan { options := [helpOption], positionals := [anyText] } arguments
  match scanned.positionals with
  | [text] => return .encode text
  | _ => throw .usageError

/-- Reads the arguments of `decode`. -/
def readDecode (arguments : List String) : Except Stop Command := do
  let binary : OptionSpec := { name := "binary", role := .switch }
  let scanned ← scan { options := [helpOption, binary], positionals := [anyText] } arguments
  match scanned.positionals with
  | [written] => return .decode written (scanned.has "binary")
  | _ => throw .usageError

/-- Reads the arguments of `stamp`. -/
def readStamp (arguments : List String) : Except Stop Command := do
  let name : OptionSpec := { name := "name", role := .value anyText }
  let scanned ← scan (fileSignature [name, outputOption]) arguments
  match scanned.positionals, scanned.value? "name" with
  | [input], some name => return .stamp input name (scanned.value? "output")
  | _, _ => throw .usageError

/-- The names that help can be asked for. -/
def helpTopics : List String :=
  ["minify", "lint", "settings", "encode", "decode", "stamp", "help"]

/-- Reads the arguments of `help`: nothing, or one topic. -/
def readHelp : List String → Stop
  | [] => .help
  | [topic] => if helpTopics.contains topic then .help else .usageError
  | _ => .usageError

/-- Reads a command by its name. -/
def readCommand : List String → Except Stop Command
  | "minify" :: arguments => readMinify arguments
  | "lint" :: arguments => readLint arguments
  | "settings" :: arguments => readSettings arguments
  | "encode" :: arguments => readEncode arguments
  | "decode" :: arguments => readDecode arguments
  | "stamp" :: arguments => readStamp arguments
  | "help" :: arguments => .error (readHelp arguments)
  | _ => .error .usageError

/-- The configuration file that is read unless another one is named. -/
def defaultConfig : String :=
  "galil.toml"

/-- Reads a command line. -/
def Invocation.read (arguments : List String) : Except Stop Invocation := do
  let scanned ← scan programSignature arguments
  let command ← readCommand scanned.rest
  return { config := (scanned.value? "config").getD defaultConfig, command }

end CommandLine
end MotionController
