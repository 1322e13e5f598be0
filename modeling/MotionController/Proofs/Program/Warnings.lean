import MotionController.Proofs.Program.LabelResolution

/-!
# Warnings

Asking for warnings adds them and changes nothing else: the warnings about conditional jumps come
before all other diagnostics and those about unused labels behind them (`lint_adds_warnings`).
Findings are warnings by their kinds (`isWarning_eq_contains`), and no check of lines or of called
labels reports one of those kinds (`isWarning_of_mem_errors`).
-/

namespace MotionController
namespace Program

variable {limit : Nat} {diagnostic : Diagnostic}

/-! ## Kinds of warnings -/

/-- The kinds of findings that are warnings. -/
def warningKinds : List String :=
  ["unused_label", "conditional_jump"]

theorem isWarning_eq_contains (finding : Finding) :
    finding.isWarning = warningKinds.contains finding.kind := by
  cases finding <;> simp [Finding.isWarning, Finding.kind, warningKinds]

theorem not_mem_warningKinds_of_mem_lineKinds {kind : String} (h : kind ∈ lineKinds) :
    kind ∉ warningKinds := by
  have hdisjoint : ∀ kind ∈ lineKinds, kind ∉ warningKinds := by
    simp [lineKinds, warningKinds]
  exact hdisjoint kind h

/-! ## Checks that are always made -/

/-- The diagnostics that do not depend on whether warnings are asked for. -/
def errors (limit : Nat) (lines : List Line) : List Diagnostic :=
  checkAll limit [] (numbered lines) ++ undefinedLabels (numbered lines)

theorem lintLines_true (limit : Nat) (lines : List Line) :
    lintLines limit true lines =
      conditionalJumps lines ++ errors limit lines ++ unusedLabels (numbered lines) := by
  simp [lintLines, errors]

theorem lintLines_false (limit : Nat) (lines : List Line) :
    lintLines limit false lines = errors limit lines := by
  simp [lintLines, errors]

theorem kind_of_mem_errors {lines : List Line} (h : diagnostic ∈ errors limit lines) :
    diagnostic.finding.kind ∉ warningKinds := by
  rcases List.mem_append.1 h with h | h
  · exact not_mem_warningKinds_of_mem_lineKinds (kind_of_mem_checkAll h)
  · simp [kind_of_mem_undefinedLabels h, warningKinds]

theorem isWarning_of_mem_errors {lines : List Line} (h : diagnostic ∈ errors limit lines) :
    diagnostic.finding.isWarning = false := by
  simpa [isWarning_eq_contains] using kind_of_mem_errors h

theorem ofKind_errors_eq_nil {kind : String} (hkind : kind ∈ warningKinds) (limit : Nat)
    (lines : List Line) : ofKind kind (errors limit lines) = [] := by
  apply List.filter_eq_nil_iff.2
  intro diagnostic hmem hsame
  exact kind_of_mem_errors hmem (beq_iff_eq.1 hsame ▸ hkind)

/-! ## Warnings around the errors -/

theorem ofKind_conditional_lintLines (limit : Nat) (lines : List Line) :
    ofKind "conditional_jump" (lintLines limit true lines) = conditionalJumps lines := by
  have herrors : ofKind "conditional_jump" (errors limit lines) = [] :=
    ofKind_errors_eq_nil (by simp [warningKinds]) limit lines
  have hself : ofKind "conditional_jump" (conditionalJumps lines) = conditionalJumps lines :=
    ofKind_eq_self fun _ => kind_of_mem_conditionalJumps
  simp [lintLines_true, ofKind_append, ofKind_unusedLabels, herrors, hself]

/-- Asking for warnings only adds them: first those about conditional jumps, then the diagnostics
that there are without asking, of which none is a warning, then those about unused labels. -/
theorem lint_adds_warnings (limit : Nat) (content : String) :
    lint limit true content =
        ofKind "conditional_jump" (lint limit true content) ++ lint limit false content ++
          ofKind "unused_label" (lint limit true content) ∧
      (lint limit false content).filter (fun diagnostic => diagnostic.finding.isWarning) = [] := by
  have hjumps : ofKind "conditional_jump" (lint limit true content) =
      conditionalJumps (minified limit content) :=
    ofKind_conditional_lintLines limit (minified limit content)
  have hunused : ofKind "unused_label" (lint limit true content) =
      unusedLabels (numbered (minified limit content)) :=
    ofKind_unused_lintLines limit true (minified limit content)
  have herrors : lint limit false content = errors limit (minified limit content) :=
    lintLines_false limit (minified limit content)
  constructor
  · calc
      lint limit true content
          = conditionalJumps (minified limit content) ++ errors limit (minified limit content) ++
              unusedLabels (numbered (minified limit content)) :=
            lintLines_true limit (minified limit content)
      _ = _ := by simp only [hjumps, hunused, herrors]
  · simp only [herrors]
    apply List.filter_eq_nil_iff.2
    intro diagnostic hmem
    simp [isWarning_of_mem_errors hmem]

end Program
end MotionController
