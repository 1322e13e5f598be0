import MotionController.Proofs.Channel.Sessions

/-!
# Planned exchanges

An exchange is planned when the commands it sends are known beforehand: it sends them one after
another, whatever is replied, unless one of them fails (`Session.Planned`). Over a channel that
keeps a record of what is sent (`RecordingChannel`), such as a script, a planned exchange that
succeeds adds the commands of its plan to the record (`Planned.sent_eq`).
-/

namespace MotionController

variable {σ α β : Type} [CommandChannel σ]

/-! ## Records of what is sent -/

/-- A channel whose states tell the commands sent so far, in order. -/
class RecordingChannel (σ : Type) [CommandChannel σ] where
  sent : σ → List String
  sent_command (text : String) (channel : σ) :
    sent (CommandChannel.command text channel).2 = sent channel ++ [text]
  sent_commandValue (text : String) (channel : σ) :
    sent (CommandChannel.commandValue text channel).2 = sent channel ++ [text]

open RecordingChannel (sent)

theorem Channel.sent_answer (script : Channel) (command : String) :
    (script.answer command).2.sent = script.sent ++ [command] := by
  simp only [answer]
  split <;> rfl

instance : RecordingChannel Channel where
  sent := Channel.sent
  sent_command text script := script.sent_answer text
  sent_commandValue text script := script.sent_answer text

/-! ## Plans -/

namespace Session

variable {command : String} {plan rest : List String} {session : Session σ α}
variable {next : α → Session σ β} {channel after : σ} {a : α}

/-- The exchange sends one command, for its reply or for a number. -/
inductive Asks (command : String) : {α : Type} → Session σ α → Prop where
  | reply : Asks command (Channel.send command)
  | value : Asks command (Channel.sendForValue command)

/-- The exchange is put together from sending the commands of the plan, in order. -/
inductive Planned : {α : Type} → List String → Session σ α → Prop where
  | pure {α : Type} (a : α) : Planned [] (Pure.pure a)
  | ask {α : Type} {command : String} {session : Session σ α} (h : Asks command session) :
      Planned [command] session
  | attempt {α : Type} {command : String} {session : Session σ α} (h : Asks command session) :
      Planned [command] session.attempt
  | bind {α β : Type} {plan rest : List String} {session : Session σ α} {next : α → Session σ β}
      (h : Planned plan session) (hnext : ∀ a, Planned rest (next a)) :
      Planned (plan ++ rest) (session >>= next)

theorem Planned.map (f : α → β) (h : Planned plan session) : Planned plan (f <$> session) := by
  have hbind : Planned (plan ++ []) (f <$> session) := h.bind fun a => .pure (f a)
  simpa only [List.append_nil] using hbind

theorem Asks.bySending (h : Asks command session) : session.BySending := by
  cases h with
  | reply => exact .send command
  | value => exact .sendForValue command

theorem Planned.bySending (h : Planned plan session) : session.BySending := by
  induction h with
  | pure a => exact .pure a
  | ask h => exact h.bySending
  | attempt h => exact .attempt h.bySending
  | bind _ _ ih ihnext => exact .bind ih ihnext

variable [RecordingChannel σ]

/-- A command is sent whether or not it fails. -/
theorem Asks.sent_on (h : Asks command session) (channel : σ) :
    sent (session.on channel).2 = sent channel ++ [command] := by
  cases h with
  | reply => exact RecordingChannel.sent_command command channel
  | value => exact RecordingChannel.sent_commandValue command channel

theorem Planned.sent_eq (h : Planned plan session) (hon : session.on channel = (.ok a, after)) :
    sent after = sent channel ++ plan := by
  induction h generalizing channel after with
  | pure a =>
      cases hon
      exact (List.append_nil _).symm
  | ask h =>
      have hsent := h.sent_on channel
      simpa only [hon] using hsent
  | attempt h =>
      cases hon
      exact h.sent_on channel
  | @bind _ _ plan rest session next _ _ ih ihnext =>
      simp only [on_bind] at hon
      cases hfirst : session.on channel with
      | mk result middle =>
          simp only [hfirst] at hon
          cases result with
          | error error => cases hon
          | ok b =>
              calc
                sent after = sent middle ++ rest := ihnext b hon
                _ = (sent channel ++ plan) ++ rest := by simp only [ih hfirst]
                _ = sent channel ++ (plan ++ rest) := List.append_assoc ..

end Session
end MotionController
