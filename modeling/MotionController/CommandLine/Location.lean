import MotionController.Text.Pieces

/-!
# Locations

A file or a directory has one location, and many names that lead there: a name is a way from the
root, or from the current directory, on which steps may stay (`.`) or go back (`..`).
-/

namespace MotionController
namespace CommandLine

/-- Where a file or a directory is: the names of the directories around it from the root on, and its
own name last. The root has none. -/
abbrev Location :=
  List String

namespace Location

/-- The steps of a name, those between two slashes and behind the last one included. -/
def stepsOf (name : String) : List String :=
  (Text.cut '/' name.toList).map String.ofList

/-- The name is a way from the root. -/
def isFromRoot (name : String) : Bool :=
  name.toList.head? == some '/'

/-- Where the way of a name begins. -/
def start (current : Location) (name : String) : Location :=
  if isFromRoot name then [] else current

/-- The location one step further. Nothing is behind the root. -/
def next (here : Location) (step : String) : Location :=
  if step = "" ∨ step = "." then here
  else if step = ".." then here.dropLast
  else here ++ [step]

/-- The locations on a way, its two ends included. -/
def onTheWay (here : Location) : (steps : List String) → List Location
  | [] => [here]
  | step :: steps => here :: onTheWay (here.next step) steps

/-- The name of a location that does not depend on the current directory. -/
def nameFromRoot (location : Location) : String :=
  String.ofList ('/' :: Text.join '/' (location.map String.toList))

end Location
end CommandLine
end MotionController
