import MotionController.Proofs.Parameter.Reading

/-!
# Getting and setting are atomic

Getting or setting a parameter changes its value on file, and nothing else, or it changes nothing at
all. Nothing changes when it fails, and nothing is even sent for a value that cannot be written.
Setting sends one command, the one that the parameter is rendered as afterwards if it keeps the
value (`SetEnds`), and getting sends the commands of the read plan (`GetEnds`).
-/

namespace MotionController
namespace Parameter

open RecordingChannel (sent)

variable {σ : Type} [CommandChannel σ] [RecordingChannel σ]

/-! ## How getting and setting end -/

/-- How setting a parameter to a value ends: with its result, the parameter and the channel. -/
inductive SetEnds (p : Parameter) (value : String) (refresh : Bool) (channel : σ) :
    Except ParameterError Unit × Parameter × σ → Prop where
  /-- No command writes the value, and none is sent. -/
  | unwritable {error : ParameterError} (hwrite : p.writeCommand value = .error error) :
      SetEnds p value refresh channel (.error error, p, channel)
  /-- The command that writes the value fails. -/
  | failed {command : String} {error : DeviceError} {after : σ}
      (hwrite : p.writeCommand value = .ok command)
      (hsend : CommandChannel.command command channel = (.error error, after))
      (hsent : sent after = sent channel ++ [command]) :
      SetEnds p value refresh channel (.error (.device error), p, after)
  /-- The value is written but not kept. -/
  | written {command reply : String} {after : σ} (hwrite : p.writeCommand value = .ok command)
      (hsend : CommandChannel.command command channel = (.ok reply, after))
      (hsent : sent after = sent channel ++ [command])
      (hkeeps : refresh = false ∨ p.kind = .command) :
      SetEnds p value refresh channel (.ok (), p, after)
  /-- The value is written and kept. -/
  | kept {command reply : String} {after : σ} (hwrite : p.writeCommand value = .ok command)
      (hsend : CommandChannel.command command channel = (.ok reply, after))
      (hsent : sent after = sent channel ++ [command])
      (hrefresh : refresh = true) (hkind : p.kind ≠ .command)
      (htext : toText { p with value := some value } = .ok command) :
      SetEnds p value refresh channel (.ok (), { p with value := some value }, after)

/-- How getting a parameter ends: with its result, the parameter and the channel. -/
inductive GetEnds (p : Parameter) (refresh : Bool) (channel : σ) :
    Except DeviceError String × Parameter × σ → Prop where
  /-- The parameter cannot be read. -/
  | failed {error : DeviceError} {after : σ} (hread : p.read.on channel = (.error error, after)) :
      GetEnds p refresh channel (.error error, p, after)
  /-- The value is read but not kept. -/
  | read {value : String} {after : σ} (hread : p.read.on channel = (.ok value, after))
      (hsent : sent after = sent channel ++ p.readPlan.commands) (hrefresh : refresh = false) :
      GetEnds p refresh channel (.ok value, p, after)
  /-- The value is read and kept. -/
  | kept {value : String} {after : σ} (hread : p.read.on channel = (.ok value, after))
      (hsent : sent after = sent channel ++ p.readPlan.commands) (hrefresh : refresh = true) :
      GetEnds p refresh channel (.ok value, { p with value := some value }, after)

variable {p : Parameter} {value command : String} {refresh : Bool} {channel after : σ}

/-! ## Setting -/

/-- The command that writes a value does not depend on the one on file. -/
theorem toText_cached (p : Parameter) (value : String) :
    (p.cached value).toText = p.writeCommand value :=
  rfl

theorem sent_of_command {result : Except DeviceError String}
    (hsend : CommandChannel.command command channel = (result, after)) :
    sent after = sent channel ++ [command] := by
  have hsent := RecordingChannel.sent_command command channel
  simpa only [hsend] using hsent

theorem set_ends (p : Parameter) (value : String) (refresh : Bool) (channel : σ) :
    SetEnds p value refresh channel (p.set value refresh channel) := by
  unfold set
  cases hwrite : p.writeCommand value with
  | error error => exact .unwritable hwrite
  | ok command =>
      simp only [Channel.on_send]
      cases hsend : CommandChannel.command command channel with
      | mk result after =>
          have hsent := sent_of_command hsend
          cases result with
          | error error => exact .failed hwrite hsend hsent
          | ok reply =>
              cases refresh with
              | false => exact .written hwrite hsend hsent (.inl rfl)
              | true =>
                  -- A command keeps the value that it has.
                  simp only [if_true, withValue]
                  split
                  · next hkind => exact .written hwrite hsend hsent (.inr hkind)
                  · next hkind =>
                      have htext := (toText_cached p value).trans hwrite
                      exact .kept hwrite hsend hsent rfl hkind htext

/-! ## Getting -/

theorem get_ends (p : Parameter) (refresh : Bool) (channel : σ) :
    GetEnds p refresh channel (p.get refresh channel) := by
  unfold get
  cases hread : p.read.on channel with
  | mk result after =>
      cases result with
      | error error => exact .failed hread
      | ok value =>
          have hsent := p.planned_read.sent_eq hread
          cases refresh with
          | false => exact .read hread hsent rfl
          | true => exact .kept hread hsent rfl

/-- Setting and getting a parameter leave it as it is, or they replace its value on file: by the
value that was set, whose command is the only one sent, or by the one that was read, for which the
commands of the read plan are sent. -/
theorem set_and_get_are_atomic (p : Parameter) (value : String) (refresh : Bool) (channel : σ) :
    SetEnds p value refresh channel (p.set value refresh channel) ∧
      GetEnds p refresh channel (p.get refresh channel) :=
  ⟨set_ends p value refresh channel, get_ends p refresh channel⟩

end Parameter
end MotionController
