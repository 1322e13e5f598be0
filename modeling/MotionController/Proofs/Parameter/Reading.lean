import MotionController.Parameter.Exchange
import MotionController.Proofs.Channel.Planned

/-!
# Reading parameters

Reading sends the commands of the read plan in order and does nothing else to the channel
(`planned_read`). Getting keeps what was read (`get_true`), and drift compares it with the value on
file (`on_drift`). Every value matches itself (`isMatch_self`).
-/

namespace MotionController
namespace Parameter

variable {σ : Type} [CommandChannel σ] {channel : σ}

/-! ## Exchanges -/

theorem planned_askAll (questions : List Probe) :
    Session.Planned (questions.map (·.command)) (askAll questions : Session σ (List Binary64)) := by
  induction questions with
  | nil => exact .pure []
  | cons question questions ih =>
      apply (Session.Planned.ask .value).bind
      intro value
      exact ih.map (value :: ·)

theorem planned_askFlags (questions : List Probe) :
    Session.Planned (questions.map (·.command)) (askFlags questions : Session σ (List String)) := by
  induction questions with
  | nil => exact .pure []
  | cons question questions ih =>
      apply (Session.Planned.attempt .value).bind
      -- Whether or not the question was answered, the others are asked.
      intro answer
      cases answer with
      | ok flag => exact ih.map fun labels =>
          if flag.isNonzero then question.label :: labels else labels
      | error error => exact ih.map id

theorem planned_readSingle (kind : ParameterKind) (command : String) :
    Session.Planned [command] (readSingle kind command : Session σ String) := by
  have hplain : Session.Planned [command]
      ((fun reply => String.ofList (Text.trim reply.toList)) <$> Channel.send command :
        Session σ String) :=
    (Session.Planned.ask .reply).map _
  cases kind with
  | ssiQuery axis =>
      apply (Session.Planned.attempt .reply).bind
      intro answer
      cases answer <;> exact .pure _
  | network => exact (Session.Planned.ask .value).map _
  | _ => exact hplain

/-- Reading sends the commands of the read plan. -/
theorem planned_read (p : Parameter) :
    Session.Planned p.readPlan.commands (p.read : Session σ String) := by
  unfold read
  cases p.readPlan with
  | single command => exact planned_readSingle p.kind command
  | probes questions =>
      cases p.kind with
      | vector length => exact (planned_askAll questions).map vectorText
      | _ => exact (planned_askFlags questions).map axisSetText

theorem bySending_read (p : Parameter) : (p.read : Session σ String).BySending :=
  p.planned_read.bySending

/-! ## The value on file -/

/-- The parameter with `value` on file. -/
def cached (p : Parameter) (value : String) : Parameter :=
  { p with value := some value }

/-- What is on file does not count when the parameter is read. -/
theorem cached_of_value {p : Parameter} {value : String} (h : p.value = some value) :
    p.cached value = p := by
  cases p
  cases h
  rfl

/-- Getting with refresh keeps the value that was read. -/
theorem get_true (p : Parameter) (channel : σ) :
    p.get true channel =
      match p.read.on channel with
      | (.ok value, after) => (.ok value, p.cached value, after)
      | (.error error, after) => (.error error, p, after) := by
  unfold get
  rcases p.read.on channel with ⟨error | value, after⟩ <;> rfl

/-- The value on file is absent, or the one read does not match it. -/
def hasDrifted (p : Parameter) (current : String) : Bool :=
  p.value.all fun desired => !isMatch p.kind current desired

theorem on_drift (p : Parameter) (channel : σ) :
    p.drift.on channel =
      match p.read.on channel with
      | (.ok current, after) => (.ok (if p.hasDrifted current then some current else none), after)
      | (.error error, after) => (.error error, after) := by
  unfold drift hasDrifted
  rw [Session.on_bind]
  rcases p.read.on channel with ⟨error | current, after⟩
  · rfl
  · cases p.value with
    | none => rfl
    | some desired => cases h : isMatch p.kind current desired <;> simp [h]

theorem bySending_drift (p : Parameter) : (p.drift : Session σ (Option String)).BySending := by
  apply (bySending_read p).bind
  intro current
  cases p.value with
  | none => exact .pure _
  | some desired => split <;> exact .pure _

/-! ## Values that match -/

theorem valuesMatch_self (value : String) : valuesMatch value value = true := by
  simp [valuesMatch]

theorem listsMatch_self (values : List String) : listsMatch values values = true := by
  induction values with
  | nil => rfl
  | cons value values ih => simp [listsMatch, valuesMatch_self, ih]

theorem isMatch_self (kind : ParameterKind) (value : String) : isMatch kind value value = true := by
  cases kind with
  | vector length => exact listsMatch_self _
  | ssiQuery axis => exact decide_eq_true rfl
  | axisMask => exact decide_eq_true rfl
  | network => exact decide_eq_true rfl
  | _ => exact valuesMatch_self value

end Parameter
end MotionController
