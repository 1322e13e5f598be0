import MotionController.NetworkWord
import MotionController.Parameter.Comparison

/-!
# Reading and writing parameters

Reading sends the commands of the read plan in order. A list of numbers needs an answer to every
question; a set of axes takes a question without one as an axis that is not set, and an encoder
setup that cannot be read is taken to be `0`.

`get` and `set` give back the parameter as it is afterwards. Only they change its value, only when
asked to refresh it, and only when they succeed.
-/

namespace MotionController
namespace Parameter

variable {σ : Type} [CommandChannel σ]

/-! ## Reading -/

/-- The setup in an encoder's reply: six fields or more, the fifth written in angle brackets. -/
def ssiSetup (reply : String) : String :=
  let fields := (Text.cut ',' reply.toList).map Text.trim
  match fields with
  | a :: b :: c :: d :: e :: f :: _ =>
      String.ofList (Text.join ',' [a, b, c, d] ++ '<' :: e ++ '>' :: f)
  | _ => "0"

/-- The answers to all questions, in order. -/
def askAll : List Probe → Session σ (List Binary64)
  | [] => return []
  | question :: questions => do
      let value ← Channel.sendForValue question.command
      let values ← askAll questions
      return value :: values

/-- The labels of the questions that are answered by a number other than zero, in order. -/
def askFlags : List Probe → Session σ (List String)
  | [] => return []
  | question :: questions => do
      -- The channel keeps that the question was sent, whether or not it was answered.
      let answer ← Session.attempt (Channel.sendForValue question.command)
      let labels ← askFlags questions
      match answer with
      | .ok flag => return if flag.isNonzero then question.label :: labels else labels
      | .error _ => return labels

/-- The text of a set of axes, which is `N` when it has none. -/
def axisSetText (labels : List String) : String :=
  let axes := String.join labels
  if axes = "" then "N" else axes

/-- The text of a list of numbers at controller precision. -/
def vectorText (values : List Binary64) : String :=
  String.ofList (Text.join ',' (values.map fun x => (DeviceNumber.round x).text.toList))

/-- The text that a single reply stands for. -/
def readSingle (kind : ParameterKind) (command : String) : Session σ String :=
  match kind with
  | .ssiQuery _ => do
      match ← Session.attempt (Channel.send command) with
      | .ok reply => return ssiSetup reply
      | .error _ => return "0"
  | .network => do
      let packed ← Channel.sendForValue command
      return NetworkWord.dotted (BitVec.ofInt 32 packed.roundToWord)
  | _ => do
      let reply ← Channel.send command
      return String.ofList (Text.trim reply.toList)

/-- Reads the parameter's value from the controller. -/
def read (parameter : Parameter) : Session σ String :=
  match parameter.readPlan with
  | .single command => readSingle parameter.kind command
  | .probes questions =>
      match parameter.kind with
      | .vector _ => vectorText <$> askAll questions
      | _ => axisSetText <$> askFlags questions

/-! ## Cached values -/

/-- Reads the value, and keeps it when `refresh` is set. -/
def get (parameter : Parameter) (refresh : Bool) (channel : σ) :
    Except DeviceError String × Parameter × σ :=
  match parameter.read.on channel with
  | (.ok value, channel) =>
      let refreshed := { parameter with value := some value }
      (.ok value, if refresh then refreshed else parameter, channel)
  | (.error error, channel) => (.error error, parameter, channel)

/-- Writes `value`, and keeps it when `refresh` is set. A command's value stays as it is. -/
def set (parameter : Parameter) (value : String) (refresh : Bool) (channel : σ) :
    Except ParameterError Unit × Parameter × σ :=
  match parameter.writeCommand value with
  | .error error => (.error error, parameter, channel)
  | .ok command =>
      match (Channel.send command).on channel with
      | (.ok _, channel) =>
          (.ok (), if refresh then parameter.withValue value else parameter, channel)
      | (.error error, channel) => (.error (.device error), parameter, channel)

/-! ## Drift -/

/-- Reads the controller's value and returns it if it is not the one on file. A parameter without a
value on file always differs. -/
def drift (parameter : Parameter) : Session σ (Option String) := do
  let current ← parameter.read
  match parameter.value with
  | some desired => return if isMatch parameter.kind current desired then none else some current
  | none => return some current

/-- The controller holds the value on file. -/
def check (parameter : Parameter) : Session σ Bool :=
  Option.isNone <$> parameter.drift

end Parameter
end MotionController
