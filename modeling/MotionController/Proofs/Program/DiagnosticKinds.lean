import MotionController.Program.Lint

/-!
# Kinds of diagnostics

Each check of the linter reports findings of its own kinds, so the diagnostics of one kind are those
of one check (`ofKind_lintLines`), and those of lines are those of the checks of lines
(`ofKind_lintLines_of_mem_lineKinds`).
-/

namespace MotionController
namespace Program

variable {number : Nat} {report : List Diagnostic} {diagnostic : Diagnostic} {kind : String}

/-- The diagnostics of a kind, in order. -/
def ofKind (kind : String) (report : List Diagnostic) : List Diagnostic :=
  report.filter fun diagnostic => diagnostic.finding.kind == kind

theorem ofKind_append (kind : String) (a b : List Diagnostic) :
    ofKind kind (a ++ b) = ofKind kind a ++ ofKind kind b := by
  simp [ofKind]

theorem ofKind_eq_self (h : ∀ diagnostic ∈ report, diagnostic.finding.kind = kind) :
    ofKind kind report = report := by
  apply List.filter_eq_self.2
  intro diagnostic hmem
  exact beq_iff_eq.2 (h diagnostic hmem)

theorem ofKind_eq_nil {kinds : List String} (hkind : kind ∉ kinds)
    (h : ∀ diagnostic ∈ report, diagnostic.finding.kind ∈ kinds) : ofKind kind report = [] := by
  apply List.filter_eq_nil_iff.2
  intro diagnostic hmem hsame
  exact hkind (beq_iff_eq.1 hsame ▸ h diagnostic hmem)

theorem ofKind_eq_nil_of_ne {other : String} (hne : other ≠ kind)
    (h : ∀ diagnostic ∈ report, diagnostic.finding.kind = other) : ofKind kind report = [] := by
  have hkind : kind ∉ [other] := by
    simpa using hne.symm
  have hall : ∀ diagnostic ∈ report, diagnostic.finding.kind ∈ [other] := by
    simpa using h
  exact ofKind_eq_nil hkind hall

/-! ## The checks of lines -/

theorem kind_of_mem_checkLine {limit : Nat} {text : Line}
    (h : diagnostic ∈ checkLine limit number text) :
    diagnostic.finding.kind ∈ ["undefined_value", "long_line", "bad_operator"] := by
  -- Each of the three checks reports its finding or nothing.
  have hreport : ∀ {isFound : Bool} {finding : Finding},
      (diagnostic ∈ if isFound then [Diagnostic.single number finding] else []) →
        diagnostic = .single number finding := by
    intro isFound finding hmem
    cases isFound with
    | true => simpa using hmem
    | false => cases hmem
  simp only [checkLine, List.mem_append] at h
  rcases h with (h | h) | h
  · simp only [hreport h]
    exact List.mem_cons_self
  · simp only [hreport h]
    exact List.mem_cons_of_mem _ List.mem_cons_self
  · simp only [hreport h]
    exact List.mem_cons_of_mem _ (List.mem_cons_of_mem _ List.mem_cons_self)

theorem kind_of_mem_checkDefinitions {earlier later : List (Nat × Label)}
    (h : diagnostic ∈ checkDefinitions earlier later) :
    diagnostic.finding.kind = "duplicate_label" := by
  induction later generalizing earlier with
  | nil => cases h
  | cons definition later ih =>
      simp only [checkDefinitions] at h
      split at h
      · rcases List.mem_cons.1 h with rfl | h
        · rfl
        · exact ih h
      · exact ih h

theorem kind_of_mem_checkArity {earlier : List (Nat × Call)} {call : Call}
    (h : diagnostic ∈ checkArity earlier number call) :
    diagnostic.finding.kind = "inconsistent_arity" := by
  unfold checkArity at h
  split at h
  · cases h
  · split at h
    · cases h
    · split at h
      · cases h
      · simp only [List.mem_singleton.1 h]
        rfl

theorem kind_of_mem_checkArguments {text : Line} {call : Call}
    (h : diagnostic ∈ checkArguments number text call) :
    diagnostic.finding.kind ∈ ["nested_subroutine_call", "dangerous_argument"] := by
  rcases List.mem_append.1 h with h | h
  · split at h
    · simp only [List.mem_singleton.1 h]
      exact List.mem_cons_self
    · cases h
  · split at h
    · simp only [List.mem_singleton.1 h]
      exact List.mem_cons_of_mem _ List.mem_cons_self
    · cases h

theorem kind_of_mem_checkCalls {text : Line} {earlier later : List (Nat × Call)}
    (h : diagnostic ∈ checkCalls text earlier later) :
    diagnostic.finding.kind ∈
      ["inconsistent_arity", "nested_subroutine_call", "dangerous_argument"] := by
  induction later generalizing earlier with
  | nil => cases h
  | cons call later ih =>
      simp only [checkCalls, List.mem_append] at h
      rcases h with (h | h) | h
      · simp only [kind_of_mem_checkArity h]
        exact List.mem_cons_self
      · exact List.mem_cons_of_mem _ (kind_of_mem_checkArguments h)
      · exact ih h

theorem kind_of_mem_checkLiterals {text : Line} (h : diagnostic ∈ checkLiterals number text) :
    diagnostic.finding.kind = "long_string" := by
  rcases List.mem_flatMap.1 h with ⟨command, _, hcommand⟩
  rcases List.mem_map.1 hcommand with ⟨literal, _, rfl⟩
  rfl

/-- The kinds of findings that are reported line by line. -/
def lineKinds : List String :=
  ["undefined_value", "long_line", "bad_operator", "duplicate_label", "inconsistent_arity",
    "nested_subroutine_call", "dangerous_argument", "long_string"]

theorem kind_of_mem_checkNumbered {limit : Nat} {before : List (Nat × Line)}
    {numberedLine : Nat × Line} (h : diagnostic ∈ checkNumbered limit before numberedLine) :
    diagnostic.finding.kind ∈ lineKinds := by
  have hlists : ["undefined_value", "long_line", "bad_operator"] ⊆ lineKinds ∧
      ["inconsistent_arity", "nested_subroutine_call", "dangerous_argument"] ⊆ lineKinds := by
    simp [lineKinds]
  simp only [checkNumbered, List.mem_append] at h
  rcases h with ((h | h) | h) | h
  · exact hlists.1 (kind_of_mem_checkLine h)
  · simp [kind_of_mem_checkDefinitions h, lineKinds]
  · exact hlists.2 (kind_of_mem_checkCalls h)
  · simp [kind_of_mem_checkLiterals h, lineKinds]

theorem kind_of_mem_checkAll {limit : Nat} {before after : List (Nat × Line)}
    (h : diagnostic ∈ checkAll limit before after) : diagnostic.finding.kind ∈ lineKinds := by
  induction after generalizing before with
  | nil => cases h
  | cons numberedLine after ih =>
      rcases List.mem_append.1 h with h | h
      · exact kind_of_mem_checkNumbered h
      · exact ih h

/-! ## The checks of programs -/

theorem kind_of_mem_undefinedLabels {lines : List (Nat × Line)}
    (h : diagnostic ∈ undefinedLabels lines) : diagnostic.finding.kind = "undefined_label" := by
  rcases List.mem_map.1 h with ⟨label, _, rfl⟩
  rfl

theorem kind_of_mem_unusedLabels {lines : List (Nat × Line)}
    (h : diagnostic ∈ unusedLabels lines) : diagnostic.finding.kind = "unused_label" := by
  rcases List.mem_map.1 h with ⟨label, _, rfl⟩
  rfl

theorem kind_of_mem_conditionalJumps {lines : List Line}
    (h : diagnostic ∈ conditionalJumps lines) : diagnostic.finding.kind = "conditional_jump" := by
  rcases List.mem_map.1 h with ⟨jump, _, rfl⟩
  rfl

/-! ## Diagnostics of one kind -/

theorem ofKind_checkLine (hkind : kind ∉ ["undefined_value", "long_line", "bad_operator"])
    (limit number : Nat) (text : Line) : ofKind kind (checkLine limit number text) = [] :=
  ofKind_eq_nil hkind fun _ => kind_of_mem_checkLine

theorem ofKind_checkDefinitions (hne : "duplicate_label" ≠ kind)
    (earlier later : List (Nat × Label)) : ofKind kind (checkDefinitions earlier later) = [] :=
  ofKind_eq_nil_of_ne hne fun _ => kind_of_mem_checkDefinitions

theorem ofKind_checkCalls
    (hkind : kind ∉ ["inconsistent_arity", "nested_subroutine_call", "dangerous_argument"])
    (text : Line) (earlier later : List (Nat × Call)) :
    ofKind kind (checkCalls text earlier later) = [] :=
  ofKind_eq_nil hkind fun _ => kind_of_mem_checkCalls

theorem ofKind_checkLiterals (hne : "long_string" ≠ kind) (number : Nat) (text : Line) :
    ofKind kind (checkLiterals number text) = [] :=
  ofKind_eq_nil_of_ne hne fun _ => kind_of_mem_checkLiterals

theorem ofKind_checkAll (hkind : kind ∉ lineKinds) (limit : Nat)
    (before after : List (Nat × Line)) : ofKind kind (checkAll limit before after) = [] :=
  ofKind_eq_nil hkind fun _ => kind_of_mem_checkAll

theorem ofKind_conditionalJumps (hne : "conditional_jump" ≠ kind) (lines : List Line) :
    ofKind kind (conditionalJumps lines) = [] :=
  ofKind_eq_nil_of_ne hne fun _ => kind_of_mem_conditionalJumps

theorem ofKind_undefinedLabels (hne : "undefined_label" ≠ kind) (lines : List (Nat × Line)) :
    ofKind kind (undefinedLabels lines) = [] :=
  ofKind_eq_nil_of_ne hne fun _ => kind_of_mem_undefinedLabels

theorem ofKind_unusedLabels (hne : "unused_label" ≠ kind) (lines : List (Nat × Line)) :
    ofKind kind (unusedLabels lines) = [] :=
  ofKind_eq_nil_of_ne hne fun _ => kind_of_mem_unusedLabels

/-- The diagnostics of a kind, check by check. -/
theorem ofKind_lintLines (kind : String) (limit : Nat) (warnings : Bool) (lines : List Line) :
    ofKind kind (lintLines limit warnings lines) =
      (if warnings then ofKind kind (conditionalJumps lines) else []) ++
        (ofKind kind (checkAll limit [] (numbered lines)) ++
          ofKind kind (undefinedLabels (numbered lines))) ++
        if warnings then ofKind kind (unusedLabels (numbered lines)) else [] := by
  cases warnings <;> simp [lintLines, ofKind]

/-- Findings of lines are reported by the checks of lines only. -/
theorem ofKind_lintLines_of_mem_lineKinds (hkind : kind ∈ lineKinds) (limit : Nat)
    (warnings : Bool) (lines : List Line) :
    ofKind kind (lintLines limit warnings lines) =
      ofKind kind (checkAll limit [] (numbered lines)) := by
  have hothers : "conditional_jump" ≠ kind ∧ "undefined_label" ≠ kind ∧ "unused_label" ≠ kind := by
    have hall : ∀ kind ∈ lineKinds,
        "conditional_jump" ≠ kind ∧ "undefined_label" ≠ kind ∧ "unused_label" ≠ kind := by
      simp [lineKinds]
    exact hall kind hkind
  simp [ofKind_lintLines, ofKind_conditionalJumps hothers.1, ofKind_undefinedLabels hothers.2.1,
    ofKind_unusedLabels hothers.2.2]

end Program
end MotionController
