import MotionController.CommandLine.Run
import MotionController.Proofs.Program.Stamping

/-!
# Line lengths of stamped programs

A stamp is put on a program that was packed under the line limit. The routines that it fills in are
as long as they are, whatever the limit is, so that only their lines may be longer than the limit
where no line of the program was (`stamped_lines_within_limit`).
-/

namespace MotionController
namespace CommandLine

open Program Text

variable {workspace : Workspace} {input name content hash : String} {limit : Nat}
  {line : List Char} {program : String} {cell : StringCell.Cell}

/-! ## Lengths of the filled routines -/

theorem byteLength_initRoutine (name : List Char) (cell : StringCell.Cell) :
    byteLength (initRoutine name cell.written.toList) = 54 + byteLength name := by
  have hopens : byteLength "#xINIT;xPrgName=\"".toList = 17 := by decide
  have hcloses : byteLength "\";xPrgHash=".toList = 11 := by decide
  have hends : byteLength ";xAPIOk=0;EN".toList = 12 := by decide
  unfold initRoutine
  simp only [byteLength_append, hopens, hcloses, hends, cell.byteLength_written]
  omega

theorem byteLength_answerRoutine : byteLength answerRoutine = 26 := by
  decide

/-! ## Lines longer than the limit -/

/-- Why a line of a stamped program may be longer than the limit: it was a line before, or it
belongs to a filled routine that does not fit. -/
inductive MayExceed (limit : Nat) (program : List (List Char)) (name hash : List Char) :
    List Char → Prop where
  | before {line : List Char} (hline : line ∈ program) : MayExceed limit program name hash line
  | identifies {line : List Char} (hstub : initStub ∈ program)
      (hline : line ∈ cut '\n' (initRoutine name hash)) (hlimit : limit < 54 + byteLength name) :
      MayExceed limit program name hash line
  | answers (hstub : answerStub ∈ program) (hlimit : limit < 26) :
      MayExceed limit program name hash answerRoutine

theorem mayExceed_of_mem_stamp
    (hline : line ∈ cut '\n' (stamp program name cell.written).toList)
    (hlong : limit < byteLength line) :
    MayExceed limit (cut '\n' program.toList) name.toList cell.written.toList line := by
  simp only [cut_stamp, List.mem_flatMap] at hline
  rcases hline with ⟨source, hsource, hline⟩
  by_cases hstub : IsStub source
  · rcases hstub with rfl | rfl
    · simp only [stampLine_initStub] at hline
      -- A line of the routine is no longer than the whole of it.
      have hle := byteLength_le_of_sublist (sublist_of_mem_cut hline)
      simp only [byteLength_initRoutine] at hle
      exact .identifies hsource hline (Nat.lt_of_lt_of_le hlong hle)
    · have hnewline : '\n' ∉ answerRoutine := by decide
      simp only [stampLine_answerStub, cut_of_not_mem hnewline, List.mem_singleton] at hline
      subst hline
      exact .answers hsource (byteLength_answerRoutine ▸ hlong)
  · have hnewline : '\n' ∉ source := not_mem_of_mem_cut hsource
    simp only [stampLine_of_not_isStub hstub, cut_of_not_mem hnewline, List.mem_singleton] at hline
    exact .before (hline ▸ hsource)

/-! ## The command -/

theorem stampFile_eq_ok (hread : readProgram workspace input = .ok content)
    (hname : byteLength name.toList ≤ StringCell.capacity)
    (hhash : programHash (minify limit (prepare content)) = .ok hash) :
    stampFile workspace input name limit =
      .ok (stamp (minify limit (prepare content)) name hash) := by
  have hshort : ¬StringCell.capacity < byteLength name.toList := Nat.not_lt_of_le hname
  have hprogram : minifyFile workspace input limit = .ok (minify limit (prepare content)) := by
    simp only [minifyFile, hread]
    rfl
  simp only [stampFile, hshort, if_false, hprogram]
  simp only [bind, Except.bind, pure, Except.pure, hhash, Except.mapError]

/-- Stamping a program gives a text in which a line is longer than the limit only where it was
before, or belongs to a filled routine and the limit is less than the routine needs. -/
theorem stamped_lines_within_limit (workspace : Workspace) (input name content : String)
    (limit : Nat) (hread : readProgram workspace input = .ok content)
    (hname : byteLength name.toList ≤ StringCell.capacity) :
    ∃ hash, programHash (minify limit (prepare content)) = .ok hash ∧
      stampFile workspace input name limit =
        .ok (stamp (minify limit (prepare content)) name hash) ∧
      ∀ line ∈ cut '\n' (stamp (minify limit (prepare content)) name hash).toList,
        limit < byteLength line →
          MayExceed limit (cut '\n' (minify limit (prepare content)).toList) name.toList
            hash.toList line := by
  rcases exists_cell_programHash (minify limit (prepare content)) with ⟨cell, hcell⟩
  refine ⟨cell.written, hcell, stampFile_eq_ok hread hname hcell, ?_⟩
  intro line hline hlong
  exact mayExceed_of_mem_stamp hline hlong

/-- A directory with a program of one empty routine. -/
def pumpWorkspace : Workspace where
  files := [(["p.dmc"], .text "#xINIT\nEN\n")]

theorem stamped_lines_within_limit_pump :
    byteLength "pump".toList ≤ StringCell.capacity ∧
      ∃ hash, stampFile pumpWorkspace "p.dmc" "pump" 79 = .ok (stamp "#xINIT;EN" "pump" hash) ∧
        ∀ line ∈ cut '\n' (stamp "#xINIT;EN" "pump" hash).toList, byteLength line ≤ 79 := by
  have hminify : minify 79 (prepare "#xINIT\nEN\n") = "#xINIT;EN" := by decide +kernel
  rcases stamped_lines_within_limit pumpWorkspace "p.dmc" "pump" "#xINIT\nEN\n" 79 rfl (by decide)
    with ⟨hash, _, hstamp, hlines⟩
  simp only [hminify] at hstamp hlines
  refine ⟨by decide, hash, hstamp, ?_⟩
  intro line hline
  by_contra hlong
  cases hlines line hline (Nat.lt_of_not_le hlong) with
  | before hmem =>
      have hshort : ∀ line ∈ cut '\n' "#xINIT;EN".toList, byteLength line ≤ 79 := by decide
      exact hlong (hshort line hmem)
  | identifies _ _ hlimit => exact absurd hlimit (by decide)
  | answers _ hlimit => exact absurd hlimit (by decide)

/-- Under the limit of a small board a filled routine of 58 bytes takes the place of one of nine. -/
theorem stamped_line_exceeds_limit :
    readProgram pumpWorkspace "p.dmc" = .ok "#xINIT\nEN\n" ∧
      stampFile pumpWorkspace "p.dmc" "pump" 39 =
        .ok (stamp "#xINIT;EN" "pump" "$36326165.3139") ∧
      cut '\n' (minify 39 (prepare "#xINIT\nEN\n")).toList = ["#xINIT;EN".toList] ∧
      ∃ line ∈ cut '\n' (stamp "#xINIT;EN" "pump" "$36326165.3139").toList,
        39 < byteLength line ∧ line ∉ cut '\n' (minify 39 (prepare "#xINIT\nEN\n")).toList := by
  have hminify : minify 39 (prepare "#xINIT\nEN\n") = "#xINIT;EN" := by decide +kernel
  have hhash : programHash (minify 39 (prepare "#xINIT\nEN\n")) = .ok "$36326165.3139" := by
    simp only [hminify]
    exact StringCell.encode_eq_ok_iff.2 (by decide +kernel)
  have hstamp : stampFile pumpWorkspace "p.dmc" "pump" 39 =
      .ok (stamp (minify 39 (prepare "#xINIT\nEN\n")) "pump" "$36326165.3139") :=
    stampFile_eq_ok rfl (by decide) hhash
  simp only [hminify] at hstamp ⊢
  exact ⟨rfl, hstamp, by decide +kernel, by decide +kernel⟩

end CommandLine
end MotionController
