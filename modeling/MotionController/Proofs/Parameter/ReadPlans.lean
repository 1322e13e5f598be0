import MotionController.Proofs.Channel.Plans
import MotionController.Proofs.Parameter.Probes

/-!
# Read plans

Reading a parameter sends the commands of its read plan in order (`follows_read`). A set of axes and
an encoder setup are read without failure, whatever the answers (`neverFails_read`).
-/

namespace MotionController
namespace Parameter

theorem follows_read (p : Parameter) : Session.Follows p.readPlan.commands p.read :=
  p.planned_read.follows

/-! ## Readings without failure -/

theorem neverFails_askFlags (questions : List Probe) :
    Session.NeverFails (askFlags questions) :=
  fun script => ⟨_, _, on_askFlags questions script⟩

theorem neverFails_readSingle_ssiQuery (axis : Char) (command : String) :
    Session.NeverFails (readSingle (.ssiQuery axis) command) := by
  apply (Session.neverFails_attempt _).bind
  intro answer
  cases answer <;> exact Session.neverFails_pure _

theorem neverFails_read {p : Parameter}
    (h : p.kind = .axisMask ∨ ∃ axis, p.kind = .ssiQuery axis) : Session.NeverFails p.read := by
  rcases h with h | ⟨axis, h⟩
  · simpa only [read, readPlan, h] using (neverFails_askFlags _).map axisSetText
  · simpa only [read, readPlan, h] using neverFails_readSingle_ssiQuery axis _

/-- Only a parameter of another kind can fail to be read. -/
theorem kind_of_on_read {p : Parameter} {script after : Channel} {error : DeviceError}
    (h : p.read.on script = (.error error, after)) :
    p.kind ≠ .axisMask ∧ ∀ axis, p.kind ≠ .ssiQuery axis := by
  have hkind : ¬(p.kind = .axisMask ∨ ∃ axis, p.kind = .ssiQuery axis) := by
    intro hkind
    rcases neverFails_read hkind script with ⟨value, last, hread⟩
    cases h.symm.trans hread
  simpa only [not_or, not_exists] using hkind

end Parameter
end MotionController
