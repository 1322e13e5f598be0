import MotionController.DeviceNumber
import MotionController.Parameter.Basic
import MotionController.Text.Pieces

/-!
# Comparing values

Whether a value read from the controller is the one wanted. Numbers are compared at controller
precision, lists of numbers component by component, and axis sets, encoder setups and addresses as
text: an address written `10,10,10,2` is never equal to its dotted form.
-/

namespace MotionController
namespace Parameter

/-- Two texts are equal, or both are numbers and equal at controller precision. -/
def valuesMatch (current desired : String) : Bool :=
  if current = desired then
    true
  else
    match DeviceNumber.read? current, DeviceNumber.read? desired with
    | some a, some b => a.same b
    | _, _ => false

/-- The components of a list of numbers. -/
def components (value : String) : List String :=
  (Text.cut ',' value.toList).map String.ofList

/-- Two lists of texts are equally long and match place by place. -/
def listsMatch : List String → List String → Bool
  | [], [] => true
  | a :: as, b :: bs => valuesMatch a b && listsMatch as bs
  | _, _ => false

/-- The value read matches the value wanted. -/
def isMatch (kind : ParameterKind) (current desired : String) : Bool :=
  match kind with
  | .vector _ => listsMatch (components current) (components desired)
  | .ssiQuery _ | .axisMask | .network => current = desired
  | _ => valuesMatch current desired

end Parameter
end MotionController
