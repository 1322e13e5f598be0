import MotionController.Proofs.Parameter.ReadPlans
import MotionController.Proofs.Settings.Refreshing

/-!
# Refreshes that fail

A refresh reads the parameters of a document one after another (`ReadsInTurn`), and sends the
commands of their read plans in document order. It stops at the first parameter that cannot be read:
those in front of it hold what was read for them, it and those behind it hold what they held, and
the last command that was sent is the one that failed (`refresh_stops_at_failed_command`).
-/

namespace MotionController
namespace Settings
namespace Document

/-! ## Parameters read in turn -/

/-- The commands of the read plans of the parameters among the items, in order. -/
def readCommands (items : List Item) : List String :=
  (items.filterMap parameterOf?).flatMap (·.readPlan.commands)

/-- Every parameter among the items is read when those in front of it have been, and has the value
that was read for it in place of its own. Nothing else changes. -/
inductive ReadsInTurn : Channel → List Item → List Item → Channel → Prop where
  | nil (script : Channel) : ReadsInTurn script [] [] script
  | literal {script after : Channel} {items kept : List Item} (text : String)
      (h : ReadsInTurn script items kept after) :
      ReadsInTurn script (.literal text :: items) (.literal text :: kept) after
  | parameter {script middle after : Channel} {items kept : List Item} {p : Parameter}
      {value : String} (hread : p.read.on script = (.ok value, middle))
      (h : ReadsInTurn middle items kept after) :
      ReadsInTurn script (.parameter p :: items)
        (.parameter { p with value := some value } :: kept) after

variable {script middle after : Channel} {items kept rest others : List Item}
variable {p : Parameter} {value : String} {result : Except DeviceError Unit} {error : DeviceError}

theorem ReadsInTurn.append (h : ReadsInTurn script items kept middle)
    (hrest : ReadsInTurn middle rest others after) :
    ReadsInTurn script (items ++ rest) (kept ++ others) after := by
  induction h with
  | nil script => exact hrest
  | literal text _ ih => exact .literal text (ih hrest)
  | parameter hread _ ih => exact .parameter hread (ih hrest)

theorem sent_of_on_read (hread : p.read.on script = (.ok value, after)) :
    after.sent = script.sent ++ p.readPlan.commands := by
  have hends := p.follows_read script
  simp only [hread] at hends
  cases hends with
  | done _ hsent => exact hsent

theorem ReadsInTurn.sent_eq (h : ReadsInTurn script items kept after) :
    after.sent = script.sent ++ readCommands items := by
  induction h with
  | nil script => exact (List.append_nil _).symm
  | literal _ _ ih => exact ih
  | @parameter script middle after items kept p value hread h ih =>
      calc
        after.sent = middle.sent ++ readCommands items := ih
        _ = script.sent ++ p.readPlan.commands ++ readCommands items := by
          rw [sent_of_on_read hread]
        _ = script.sent ++ readCommands (.parameter p :: items) := List.append_assoc ..

/-! ## The end of a refresh -/

/-- How a refresh of the items ends: all of them were read, or it stopped at a parameter whose read
plan was not carried out. -/
inductive RefreshEnds (items : List Item) (script : Channel) :
    Except DeviceError Unit × List Item × Channel → Prop where
  | complete {kept : List Item} {after : Channel} (hread : ReadsInTurn script items kept after)
      (hsent : after.sent = script.sent ++ readCommands items) :
      RefreshEnds items script (.ok (), kept, after)
  | stopped {read kept unread : List Item} {p : Parameter} {middle after : Channel}
      {error : DeviceError} (hitems : items = read ++ .parameter p :: unread)
      (hread : ReadsInTurn script read kept middle)
      (hsent : middle.sent = script.sent ++ readCommands read)
      (hstops : Channel.StopsIn p.readPlan.commands middle error after)
      (hmask : p.kind ≠ .axisMask) (hssi : ∀ axis, p.kind ≠ .ssiQuery axis) :
      RefreshEnds items script (.error error, kept ++ .parameter p :: unread, after)

/-- A refresh that fails to read the first parameter stops there. -/
theorem refreshEnds_of_on_read (hread : p.read.on script = (.error error, after))
    (items : List Item) :
    RefreshEnds (.parameter p :: items) script (.error error, .parameter p :: items, after) := by
  have hends := p.follows_read script
  have hkind := Parameter.kind_of_on_read hread
  simp only [hread] at hends
  cases hends with
  | stopped hstops =>
      have hnone := ReadsInTurn.nil script
      have hitems : .parameter p :: items = [] ++ .parameter p :: items := rfl
      exact .stopped hitems hnone hnone.sent_eq hstops hkind.1 hkind.2

/-- Items that were read in front of a refresh are part of it. -/
theorem RefreshEnds.behind (h : RefreshEnds rest middle (result, others, after))
    (hread : ReadsInTurn script items kept middle) :
    RefreshEnds (items ++ rest) script (result, kept ++ others, after) := by
  cases h with
  | complete hrest _ =>
      have hall := hread.append hrest
      exact .complete hall hall.sent_eq
  | @stopped read keptRest unread p _ _ _ hitems hrest _ hstops hmask hssi =>
      have hall := hread.append hrest
      have hitems' : items ++ rest = (items ++ read) ++ .parameter p :: unread := by
        simp only [hitems, List.append_assoc]
      simpa only [List.append_assoc] using
        RefreshEnds.stopped hitems' hall hall.sent_eq hstops hmask hssi

theorem refreshItems_ends (items : List Item) (script : Channel) :
    RefreshEnds items script (refreshItems items script) := by
  induction items generalizing script with
  | nil => exact .complete (.nil script) (ReadsInTurn.nil script).sent_eq
  | cons item items ih =>
      -- The item is read in front of a refresh of the others, unless reading it fails.
      cases item with
      | literal text => exact (ih script).behind (.literal text (.nil script))
      | parameter p =>
          simp only [refreshItems_parameter]
          cases hread : p.read.on script with
          | mk result next =>
              cases result with
              | error error => exact refreshEnds_of_on_read hread items
              | ok value => exact (ih next).behind (.parameter hread (.nil next))

/-- Over a script a refresh reads the whole document, or it stops at a parameter that is neither a
set of axes nor an encoder setup: what is in front of it was read, what follows is as it was, and
the commands sent end with the one of its plan that failed. -/
theorem refresh_stops_at_failed_command (document : Document) (script : Channel) :
    RefreshEnds document.items script
      ((document.refresh script).1, (document.refresh script).2.1.items,
        (document.refresh script).2.2) :=
  refreshItems_ends document.items script

end Document
end Settings
end MotionController
