import MotionController.Digest.Md5
import MotionController.StringCell
import MotionController.Text.Pieces

/-!
# Program stamps

A program carries two empty routines. Before it is sent to a controller they are filled in, one with
the program's name and the digest of its text, the other with a counter that shows that the
controller answers. A routine is filled in only if it is empty and a line of its own, and the name
is written as it is. So the number of lines and the labels stay the same as long as the name holds
no line break and no label behind a semicolon.
-/

namespace MotionController
namespace Program

/-- The empty routine that is to identify the program. -/
def initStub : List Char :=
  "#xINIT;EN".toList

/-- The empty routine that is to show that the program answers. -/
def answerStub : List Char :=
  "#xAPIOk;EN".toList

/-- The routine that identifies the program. -/
def initRoutine (name hash : List Char) : List Char :=
  "#xINIT;xPrgName=\"".toList ++ name ++ "\";xPrgHash=".toList ++ hash ++ ";xAPIOk=0;EN".toList

/-- The routine that counts the host's questions. -/
def answerRoutine : List Char :=
  "#xAPIOk;xAPIOk=xAPIOk+1;EN".toList

/-- The line, or the routine filled in if it is an empty one. -/
def stampLine (name hash line : List Char) : List Char :=
  if line = initStub then initRoutine name hash
  else if line = answerStub then answerRoutine
  else line

/-- Fills the empty routines of a program in. -/
def stamp (program name hash : String) : String :=
  let lines := Text.cut '\n' program.toList
  String.ofList (Text.join '\n' (lines.map (stampLine name.toList hash.toList)))

/-- The string cell that identifies the text of a program: the first six hexadecimal digits of its
digest. -/
def programHash (program : String) : Except StringCell.Fault String :=
  StringCell.encode (String.ofList ((Md5.hexDigest (Text.utf8Bytes program.toList)).take 6))

end Program
end MotionController
