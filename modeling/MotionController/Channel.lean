import MotionController.Numeric.Numeral
import MotionController.Text.Blank

/-!
# Channels

A channel carries command lines to a controller and replies back. What it is made of does not
matter: its states are of any type on which both ways of sending are defined (`CommandChannel`).

A `Session` is an exchange over a channel that may fail. The channel keeps what was sent and what
was used up before a failure.

The `Channel` defined here is a script: a command is answered by the oldest reply queued for it,
which is thereby used up; else by the answer fixed for it last, a reply or a failure; else it is
rejected as unrecognized. Every command is recorded, in order.
-/

namespace MotionController

/-- Why a command got no usable reply. -/
inductive DeviceError where
  | timeout (command : String)
  | rejected (command reason : String)
  | transport (detail : String)
  deriving DecidableEq, Repr

/-- The report of a failed command. -/
def DeviceError.message : DeviceError → String
  | timeout command => s!"Timeout waiting for reply to '{command}'"
  | rejected command reason => s!"Controller rejected '{command}': {reason}"
  | transport detail => s!"Transport error: {detail}"

/-- The states of a connection to a controller: a command is sent for its reply, or for a reply that
is a single number, and the connection goes on in another state. -/
class CommandChannel (σ : Type) where
  command : String → σ → Except DeviceError String × σ
  commandValue : String → σ → Except DeviceError Binary64 × σ

/-- An exchange over a channel with states `σ`. -/
abbrev Session (σ α : Type) :=
  ExceptT DeviceError (StateM σ) α

namespace Session

variable {σ α : Type}

/-- The result of an exchange and the channel after it. -/
def on (session : Session σ α) (channel : σ) : Except DeviceError α × σ :=
  StateT.run (ExceptT.run session) channel

/-- Carries out an exchange and hands on its failure as a value. -/
def attempt (session : Session σ α) : Session σ (Except DeviceError α) :=
  ExceptT.lift (ExceptT.run session)

end Session

/-- A scripted channel. -/
structure Channel where
  /-- Answers that stay, by command, the latest first. -/
  fixed : List (String × Except DeviceError String) := []
  /-- Replies that are used once, by command, the oldest first. -/
  queued : List (String × String) := []
  /-- The commands sent so far, in order. -/
  sent : List String := []

namespace Channel

/-! ## Scripting -/

/-- Answers `command` with `reply` from now on. -/
def reply (channel : Channel) (command reply : String) : Channel :=
  { channel with fixed := (command, .ok reply) :: channel.fixed }

/-- Fails `command` with `error` from now on. -/
def fail (channel : Channel) (command : String) (error : DeviceError) : Channel :=
  { channel with fixed := (command, .error error) :: channel.fixed }

/-- Answers one later sending of `command` with `reply`, after those already queued for it and ahead
of any fixed answer. -/
def queue (channel : Channel) (command reply : String) : Channel :=
  { channel with queued := channel.queued ++ [(command, reply)] }

/-! ## Answers of a script -/

/-- The answer that stays for `command`. -/
def fixedAnswer (channel : Channel) (command : String) : Except DeviceError String :=
  match channel.fixed.find? fun row => row.1 == command with
  | some row => row.2
  | none => .error (.rejected command "unrecognized command")

/-- Sends `command`: its answer, and the channel after it. -/
def answer (channel : Channel) (command : String) : Except DeviceError String × Channel :=
  let isFor (row : String × String) := row.1 == command
  let recorded := { channel with sent := channel.sent ++ [command] }
  match channel.queued.find? isFor with
  | some row => (.ok row.2, { recorded with queued := channel.queued.eraseP isFor })
  | none => (channel.fixedAnswer command, recorded)

/-- The number that a reply to `command` is, which may stand between blanks. -/
def numberIn (command reply : String) : Except DeviceError Binary64 :=
  let trimmed := Text.trim reply.toList
  match Numeric.read? trimmed with
  | some value => .ok value
  | none => .error (.rejected command s!"non-numeric reply '{String.ofList trimmed}'")

/-- Sends `command` for a number: a reply that is none is used up like any other. -/
def answerValue (channel : Channel) (command : String) : Except DeviceError Binary64 × Channel :=
  let (result, after) := channel.answer command
  (result.bind (numberIn command), after)

instance : CommandChannel Channel where
  command command channel := channel.answer command
  commandValue command channel := channel.answerValue command

/-! ## Sending -/

variable {σ : Type} [CommandChannel σ]

/-- Sends a command for its reply. -/
def send (command : String) : Session σ String :=
  ExceptT.mk fun channel => CommandChannel.command command channel

/-- Sends a command whose reply is a single number. -/
def sendForValue (command : String) : Session σ Binary64 :=
  ExceptT.mk fun channel => CommandChannel.commandValue command channel

end Channel
end MotionController
