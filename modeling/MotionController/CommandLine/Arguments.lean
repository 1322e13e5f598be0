import MotionController.Text.Pieces

/-!
# Arguments of a command

The arguments of a command are options and positional arguments in any order. An option has a long
name and may have a short one; it is a switch or takes a value, in the same argument behind an
equals sign or in the next one. Nothing behind `--` is an option. An option is given at most once,
and a value that begins with a minus sign must be in the option's own argument.

`scan` sorts arguments by such a description and stops at the first one that does not fit.
-/

namespace MotionController
namespace CommandLine

/-- What makes the program end before it runs a command. -/
inductive Stop where
  | usageError
  | help
  | version
  deriving DecidableEq, Repr

/-- What an option is for. -/
inductive OptionRole where
  | switch
  /-- Takes a value of which the given test holds. -/
  | value (admits : String → Bool)
  /-- Ends the program. -/
  | stop (stop : Stop)

/-- An option of a command. -/
structure OptionSpec where
  name : String
  short : Option Char := none
  role : OptionRole

/-- The form of a command's arguments. -/
structure Signature where
  options : List OptionSpec
  /-- The test for each positional argument. -/
  positionals : List (String → Bool)
  /-- The first positional argument ends the scan, and is handed on with all that follows. -/
  hasSubcommands : Bool := false

/-- Arguments sorted. -/
structure Scanned where
  switches : List String := []
  values : List (String × String) := []
  positionals : List String := []
  /-- The arguments from the first positional one on, for a command with subcommands. -/
  rest : List String := []
  deriving DecidableEq, Repr

namespace Scanned

/-- The option was given. -/
def has (scanned : Scanned) (name : String) : Bool :=
  scanned.switches.contains name || (scanned.values.lookup name).isSome

/-- The value given for an option. -/
def value? (scanned : Scanned) (name : String) : Option String :=
  scanned.values.lookup name

end Scanned

/-! ## One argument -/

/-- The option of a long name. -/
def Signature.byName? (signature : Signature) (name : List Char) : Option OptionSpec :=
  signature.options.find? fun option => option.name.toList == name

/-- The option of a short name. -/
def Signature.byShort? (signature : Signature) (short : Char) : Option OptionSpec :=
  signature.options.find? fun option => option.short == some short

/-- The argument is an option in form: it begins with a minus sign and is not only that. -/
def isOptionLike (argument : List Char) : Bool :=
  argument.head? == some '-' && argument != ['-']

/-- What is left to do behind an argument. -/
inductive Pending where
  | nothing
  /-- The next argument is the option's value. -/
  | valueOf (option : OptionSpec)

/-- Records a switch. -/
def recordSwitch (option : OptionSpec) (scanned : Scanned) : Except Stop Scanned :=
  if scanned.has option.name then .error .usageError
  else .ok { scanned with switches := scanned.switches ++ [option.name] }

/-- Records an option's value. -/
def recordValue (option : OptionSpec) (value : String) (scanned : Scanned) :
    Except Stop Scanned :=
  match option.role with
  | .value admits =>
      if scanned.has option.name ∨ ¬ admits value then .error .usageError
      else .ok { scanned with values := scanned.values ++ [(option.name, value)] }
  | _ => .error .usageError

/-- Takes a long option, given without its two minus signs. -/
def takeLong (signature : Signature) (text : List Char) (scanned : Scanned) :
    Except Stop (Scanned × Pending) :=
  let name := text.takeWhile (· ≠ '=')
  match signature.byName? name, text.dropWhile (· ≠ '=') with
  | none, _ => .error .usageError
  | some option, [] =>
      match option.role with
      | .switch => (recordSwitch option scanned).map (·, .nothing)
      | .value _ => .ok (scanned, .valueOf option)
      | .stop stop => .error stop
  | some option, _ :: value => (recordValue option (String.ofList value) scanned).map (·, .nothing)

/-- The value attached to a short option, which may stand behind an equals sign. -/
def attachedValue : List Char → List Char
  | '=' :: value => value
  | value => value

/-- Takes short options, given without their minus sign. Behind the letter of one that takes a
value, the rest of the argument is that value. -/
def takeShorts (signature : Signature) : List Char → Scanned → Except Stop (Scanned × Pending)
  | [], scanned => .ok (scanned, .nothing)
  | letter :: rest, scanned =>
      match signature.byShort? letter with
      | none => .error .usageError
      | some option =>
          match option.role with
          | .switch => do takeShorts signature rest (← recordSwitch option scanned)
          | .stop stop => .error stop
          | .value _ =>
              if rest = [] then .ok (scanned, .valueOf option)
              else
                (recordValue option (String.ofList (attachedValue rest)) scanned).map (·, .nothing)

/-- Takes a positional argument, if there is a place left for it. -/
def takePositional (signature : Signature) (argument : String) (scanned : Scanned) :
    Except Stop Scanned :=
  match signature.positionals[scanned.positionals.length]? with
  | none => .error .usageError
  | some admits =>
      if admits argument then
        .ok { scanned with positionals := scanned.positionals ++ [argument] }
      else
        .error .usageError

/-! ## All arguments -/

/-- Takes arguments that are all positional. -/
def scanPositionals (signature : Signature) : List String → Scanned → Except Stop Scanned
  | [], scanned => .ok scanned
  | argument :: rest, scanned => do
      scanPositionals signature rest (← takePositional signature argument scanned)

/-- Sorts arguments, going on from those already sorted. -/
def scanFrom (signature : Signature) : List String → Pending → Scanned → Except Stop Scanned
  | [], .nothing, scanned => .ok scanned
  | [], .valueOf _, _ => .error .usageError
  | argument :: rest, pending, scanned =>
      match pending, argument.toList with
      -- This comes first, for in form `--` is an option too.
      | .nothing, ['-', '-'] => scanPositionals signature rest scanned
      | .valueOf option, text =>
          if isOptionLike text then .error .usageError
          else do scanFrom signature rest .nothing (← recordValue option argument scanned)
      | .nothing, '-' :: '-' :: text => do
          let (scanned, pending) ← takeLong signature text scanned
          scanFrom signature rest pending scanned
      | .nothing, text =>
          if isOptionLike text then do
            let (scanned, pending) ← takeShorts signature text.tail scanned
            scanFrom signature rest pending scanned
          else if signature.hasSubcommands then
            .ok { scanned with rest := argument :: rest }
          else do
            scanFrom signature rest .nothing (← takePositional signature argument scanned)

/-- Sorts the arguments of a command. -/
def scan (signature : Signature) (arguments : List String) : Except Stop Scanned :=
  scanFrom signature arguments .nothing {}

end CommandLine
end MotionController
