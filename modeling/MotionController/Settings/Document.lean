import MotionController.Parameter.Exchange
import MotionController.Settings.Parser

/-!
# Settings documents

A settings file, item by item. Refreshing reads every parameter from the controller in document
order and keeps what was read before a failure; checking reads them in the same order, changes
nothing and reports the parameters that differ from the file.
-/

namespace MotionController
namespace Settings

/-- A settings file in the order of its lines. -/
structure Document where
  items : List Item := []
  deriving DecidableEq, Repr

/-- A parameter whose value on the controller is not the one on file. -/
structure Change where
  name : String
  file : Option String
  line : Option Nat
  old : Option String
  new : String
  deriving DecidableEq, Repr

/-- The report of a change. -/
def Change.message (change : Change) : String :=
  let file := change.file.getD "Unknown"
  let line := (change.line.map Parameter.numeral).getD "Unknown"
  let old := change.old.getD "<unset>"
  let new := change.new
  let name := change.name
  s!"{name} command on {file} line {line} changed from {old} to {new}"

namespace Document

/-! ## Reading and rendering -/

/-- Classifies lines that are numbered from `number` on; the first one that fails decides. -/
def parseLines (parser : Parser) (file : String) :
    (number : Nat) → List (List Char) → Except SettingsError (List Item)
  | _, [] => .ok []
  | number, line :: lines => do
      let item ← parser.parseLine (String.ofList line) file number
      let items ← parseLines parser file (number + 1) lines
      return item :: items

/-- Reads the text of a settings file; `file` is its name in reports. -/
def parse (parser : Parser) (content file : String) : Except SettingsError Document :=
  (parseLines parser file 1 (Text.lines content.toList)).map fun items => ⟨items⟩

/-- The lines of items, each with its line break. -/
def renderItems : List Item → Except ParameterError String
  | [] => .ok ""
  | item :: items => do
      let line ← item.toText
      let rest ← renderItems items
      return line ++ "\n" ++ rest

/-- The text of the document, an item a line. -/
def toText (document : Document) : Except ParameterError String :=
  renderItems document.items

/-! ## Parameters -/

/-- The parameter that an item is. -/
def parameterOf? : Item → Option Parameter
  | .literal _ => none
  | .parameter p => some p

/-- The parameters of the document, in order. -/
def parameters (document : Document) : List Parameter :=
  document.items.filterMap parameterOf?

/-- The items with the parameter at a position, counted among the parameters, replaced. -/
def replaceIn (replacement : Parameter) : (position : Nat) → List Item → List Item
  | _, [] => []
  | position, .literal text :: items => .literal text :: replaceIn replacement position items
  | 0, .parameter _ :: items => .parameter replacement :: items
  | position + 1, .parameter p :: items => .parameter p :: replaceIn replacement position items

/-- The document with the parameter at a position replaced. -/
def replaceParameter (document : Document) (position : Nat) (replacement : Parameter) : Document :=
  ⟨replaceIn replacement position document.items⟩

/-! ## The controller -/

variable {σ : Type} [CommandChannel σ]

/-- Reads the parameters among the items and keeps their values, up to the first failure. -/
def refreshItems : List Item → σ → Except DeviceError Unit × List Item × σ
  | [], channel => (.ok (), [], channel)
  | .literal text :: items, channel =>
      let (result, items, channel) := refreshItems items channel
      (result, .literal text :: items, channel)
  | .parameter p :: items, channel =>
      match p.get true channel with
      | (.ok _, p, channel) =>
          let (result, items, channel) := refreshItems items channel
          (result, .parameter p :: items, channel)
      -- The items behind the failure stay as they are.
      | (.error error, p, channel) => (.error error, .parameter p :: items, channel)

/-- Reads every parameter from the controller, in document order. -/
def refresh (document : Document) (channel : σ) :
    Except DeviceError Unit × Document × σ :=
  let (result, items, channel) := refreshItems document.items channel
  (result, ⟨items⟩, channel)

/-- The change of a parameter to a new value. -/
def changeOf (p : Parameter) (new : String) : Change where
  name := p.mnemonic
  file := p.source.map (·.file)
  line := p.source.map (·.line)
  old := p.value
  new := new

/-- The changes of the parameters among the items. -/
def checkItems : List Item → Session σ (List Change)
  | [] => return []
  | .literal _ :: items => checkItems items
  | .parameter p :: items => do
      let drift ← p.drift
      let changes ← checkItems items
      match drift with
      | some new => return changeOf p new :: changes
      | none => return changes

/-- Reports every parameter whose value on the controller is not the one on file. -/
def check (document : Document) : Session σ (List Change) :=
  checkItems document.items

end Document
end Settings
end MotionController
