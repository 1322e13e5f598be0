import MotionController.Proofs.Numeric.NumberText
import MotionController.Proofs.Parameter.Probes
import MotionController.Proofs.Text.Cutting

/-!
# Reading by probes

A set of axes and a list of numbers are read by one question for each axis or index. A set of axes
asks all its questions and leaves out the axes that are not answered by a number other than zero
(`ReadsAxes`). A list of numbers stops at the first question that fails (`AsksUntilFailure`), and
one that is read has the number of each index at its place (`ReadsVector`).
-/

namespace MotionController
namespace Parameter

open RecordingChannel (sent)
open Text

variable {σ : Type} [CommandChannel σ] {channel : σ}

/-! ## The view -/

/-- The commands that ask for each axis of a set. -/
def axisCommands (p : Parameter) : List String :=
  (p.axes.getD "").toList.map fun axis => (p.probe (String.singleton axis)).command

/-- The commands that ask for each number of a list. -/
def indexCommands (p : Parameter) (length : Nat) : List String :=
  (List.range length).map fun i => (p.probe (numeral i)).command

/-- The axes whose answer is a number other than zero, in order. -/
def axesSet (axes : List Char) (answers : List (Except DeviceError Binary64)) : List Char :=
  ((axes.zip answers).filter fun asked => isFlagSet asked.2).map (·.1)

/-- The axes as they are written. -/
def writtenAxes (axes : List Char) : String :=
  if axes = [] then "N" else String.ofList axes

variable [RecordingChannel σ]

/-- What reading a set of axes comes to: every axis is asked for, and the value is the axes that are
set. -/
structure ReadsAxes (p : Parameter) (channel : σ) (outcome : Except DeviceError String × σ) :
    Prop where
  value : outcome.1 =
    .ok (writtenAxes (axesSet (p.axes.getD "").toList (answersTo p.axisCommands channel).1))
  after : outcome.2 = (answersTo p.axisCommands channel).2
  asked : sent outcome.2 = sent channel ++ p.axisCommands

/-- What reading a list of numbers comes to. -/
inductive ReadsVector (p : Parameter) (length : Nat) (channel : σ) :
    Except DeviceError String × σ → Prop where
  /-- Every index is answered by a number, which stands at its place between the commas. -/
  | read {value : String} {values : List Binary64} {after : σ}
      (hanswers : answersTo (p.indexCommands length) channel = (values.map .ok, after))
      (hlength : values.length = length)
      (hparts : cut ',' value.toList = values.map fun x => (DeviceNumber.round x).text.toList)
      (hsent : sent after = sent channel ++ p.indexCommands length) :
      ReadsVector p length channel (.ok value, after)
  /-- The last question that was asked failed, and those before it were answered. -/
  | failed {asked rest : List String} {values : List Binary64} {error : DeviceError} {after : σ}
      (hplan : p.indexCommands length = asked ++ rest)
      (hanswers : answersTo asked channel = (values.map .ok ++ [.error error], after))
      (hsent : sent after = sent channel ++ asked) :
      ReadsVector p length channel (.error error, after)

omit [RecordingChannel σ]

/-! ## Sets of axes -/

theorem join_map_singleton (axes : List Char) :
    String.join (axes.map String.singleton) = String.ofList axes := by
  apply String.toList_inj.1
  simp [List.flatMap_map]

theorem axisSetText_map_singleton (axes : List Char) :
    axisSetText (axes.map String.singleton) = writtenAxes axes := by
  simp [axisSetText, writtenAxes, join_map_singleton]

theorem labelsSet_map_probe (p : Parameter) (axes : List Char)
    (answers : List (Except DeviceError Binary64)) :
    labelsSet (axes.map fun axis => p.probe (String.singleton axis)) answers =
      (axesSet axes answers).map String.singleton := by
  simp [labelsSet, axesSet, List.zip_map_left, List.filter_map, Function.comp_def, probe]

theorem readsAxes_read [RecordingChannel σ] {p : Parameter} (hkind : p.kind = .axisMask)
    (channel : σ) : ReadsAxes p channel (p.read.on channel) := by
  have hplan : p.readPlan =
      .probes ((p.axes.getD "").toList.map fun axis => p.probe (String.singleton axis)) := by
    simp [readPlan, hkind]
  have hcommands : ((p.axes.getD "").toList.map fun axis => p.probe (String.singleton axis)).map
      (·.command) = p.axisCommands := by
    simp [axisCommands]
  have hread : p.read.on channel =
      (.ok (writtenAxes (axesSet (p.axes.getD "").toList (answersTo p.axisCommands channel).1)),
        (answersTo p.axisCommands channel).2) := by
    simp only [read, hplan, hkind, Session.on_map, on_askFlags, hcommands, labelsSet_map_probe,
      Except.map, axisSetText_map_singleton]
  simp only [hread]
  exact ⟨rfl, rfl, sent_answersTo p.axisCommands channel⟩

/-! ## Lists of numbers -/

/-- No number is written with a comma, so the numbers of a list are found between its commas. -/
theorem cut_vectorText {values : List Binary64} (hne : values ≠ []) :
    cut ',' (vectorText values).toList =
      values.map fun x => (DeviceNumber.round x).text.toList := by
  have hpieces : ∀ piece ∈ values.map fun x => (DeviceNumber.round x).text.toList,
      ',' ∉ piece := by
    intro piece hpiece
    rcases List.mem_map.1 hpiece with ⟨x, -, rfl⟩
    exact (DeviceNumber.round x).isNumberText_text.not_mem (by decide)
  simpa [vectorText] using cut_join hpieces (by simpa using hne)

theorem readsVector_read [RecordingChannel σ] {p : Parameter} {length : Nat}
    (hkind : p.kind = .vector length) (hpos : 0 < length) (channel : σ) :
    ReadsVector p length channel (p.read.on channel) := by
  have hplan : p.readPlan = .probes ((List.range length).map fun i => p.probe (numeral i)) := by
    simp [readPlan, hkind]
  have hasks := asksUntilFailure_askAll ((List.range length).map fun i => p.probe (numeral i))
    channel
  have hcommands : ((List.range length).map fun i => p.probe (numeral i)).map (·.command) =
      p.indexCommands length := by
    simp [indexCommands]
  simp only [hcommands] at hasks
  simp only [read, hplan, hkind, Session.on_map]
  generalize (askAll _).on channel = outcome at hasks ⊢
  cases hasks with
  | @answered values after h =>
      have hsent := sent_answersTo (p.indexCommands length) channel
      have hlength : values.length = length := by
        simpa [indexCommands] using length_of_answersTo_eq h
      simp only [h] at hsent
      have hne : values ≠ [] := List.length_pos_iff.1 (hlength ▸ hpos)
      exact .read h hlength (cut_vectorText hne) hsent
  | @failed asked rest values error after hplan h =>
      have hsent := sent_answersTo asked channel
      simp only [h] at hsent
      exact .failed hplan h hsent

/-- Reading succeeds when every question is answered by a number. -/
theorem ReadsVector.exists_ok_iff [RecordingChannel σ] {p : Parameter} {length : Nat}
    {outcome : Except DeviceError String × σ} (h : ReadsVector p length channel outcome) :
    (∃ value, outcome.1 = .ok value) ↔
      ∀ answer ∈ (answersTo (p.indexCommands length) channel).1, ∃ x, answer = .ok x := by
  cases h with
  | read hanswers _ _ _ =>
      constructor
      · rintro - answer hanswer
        simp only [hanswers, List.mem_map] at hanswer
        rcases hanswer with ⟨x, -, rfl⟩
        exact ⟨x, rfl⟩
      · exact fun _ => ⟨_, rfl⟩
  | @failed asked rest values error after hplan hanswers _ =>
      constructor
      · rintro ⟨value, hvalue⟩
        cases hvalue
      · intro hall
        have hmem : .error error ∈ (answersTo (p.indexCommands length) channel).1 := by
          simp [hplan, answersTo_append, hanswers]
        rcases hall _ hmem with ⟨x, hx⟩
        cases hx

/-- A set of axes is read by asking for every axis, in order, and never fails. A list of numbers is
read by asking for every index, in order, until a question fails, and it is read exactly when none
does. -/
theorem probes_keep_places [RecordingChannel σ] (p : Parameter) (channel : σ) :
    (p.kind = .axisMask → ReadsAxes p channel (p.read.on channel)) ∧
      ∀ length, p.kind = .vector length → 0 < length →
        ReadsVector p length channel (p.read.on channel) ∧
          ((∃ value, (p.read.on channel).1 = .ok value) ↔
            ∀ answer ∈ (answersTo (p.indexCommands length) channel).1, ∃ x, answer = .ok x) := by
  constructor
  · intro hkind
    exact readsAxes_read hkind channel
  · intro length hkind hpos
    have hread := readsVector_read hkind hpos channel
    exact ⟨hread, hread.exists_ok_iff⟩

/-- A script that answers for axis `A` by zero once and by one afterwards, does not know axis `C`,
and has two numbers on file. -/
def probedScript : Channel where
  fixed := [("MG_BAA", .ok "1.0000"), ("MG_BAB", .ok "-2"), ("MG_CN0", .ok "0.5000"),
    ("MG_CN1", .ok "-1")]
  queued := [("MG_BAA", "0")]

/-- Axis `A` is not set the first time and set the second time, and the unknown axis `C` is left
out. The two numbers are written in order. -/
theorem probes_keep_places_repeated_axis :
    let mask : Parameter := { kind := .axisMask, name := "BA", axes := some "ABCA" }
    let list : Parameter := { kind := .vector 2, name := "CN" }
    mask.kind = .axisMask ∧ list.kind = .vector 2 ∧ 0 < 2 ∧
      ReadsAxes mask probedScript (mask.read.on probedScript) ∧
      ReadsVector list 2 probedScript (list.read.on probedScript) ∧
      (mask.read.on probedScript).1 = .ok "BA" ∧
      (mask.read.on probedScript).2.sent = ["MG_BAA", "MG_BAB", "MG_BAC", "MG_BAA"] ∧
      (list.read.on probedScript).1 = .ok "0.5,-1" := by
  intro mask list
  have hmask := (probes_keep_places mask probedScript).1 rfl
  have hlist := ((probes_keep_places list probedScript).2 2 rfl (by decide)).1
  exact ⟨rfl, rfl, by decide, hmask, hlist, by decide +kernel, by decide +kernel,
    by decide +kernel⟩

end Parameter
end MotionController
