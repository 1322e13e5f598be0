import Mathlib.Data.List.Forall2
import MotionController.Proofs.Program.DiagnosticKinds
import MotionController.Proofs.Program.NormalForm

/-!
# Long lines

Lines are packed together only while they stay under the limit, and nothing that a pass does to a
packed line makes it longer. So a line of a minified program that is as long as the limit is the
normal form of one line of the program, and no other line went into it (`IsJoinedFrom`). The linter
reports the lines over the limit that minification reports (`long_lines_stand_alone`).
-/

namespace MotionController
namespace Program

open Text

variable {limit : Nat} {line next : Line} {lines packed run nextRun parts : List Line}

/-! ## The view -/

/-- The lines of a list that are not empty. -/
abbrev withoutEmpty (lines : List Line) : List Line :=
  lines.filter fun line => !line.isEmpty

/-- The normal forms of the lines of a program text, without empty ones. -/
def normalForms (content : String) : List Line :=
  withoutEmpty ((cut '\n' content.toList).map normalForm)

/-- The line holds the commands of a run of lines, and it stays under the limit unless it is the
only line of that run. -/
structure IsJoinedFrom (limit : Nat) (line : Line) (run : List Line) : Prop where
  commands : trimmedPieces line = run.flatMap trimmedPieces
  short_or_alone : byteLength line < limit ∨ run = [line]

/-- The parts fall into runs, one for each line, of which the lines are made as `holds` says. -/
def AreMadeOf (holds : Line → List Line → Prop) (lines parts : List Line) : Prop :=
  ∃ runs, parts = runs.flatten ∧ List.Forall₂ holds lines runs

/-! ## Runs of lines -/

section Runs

variable {holds : Line → List Line → Prop}

theorem areMadeOf_nil : AreMadeOf holds [] [] :=
  ⟨[], rfl, .nil⟩

theorem areMadeOf_cons_iff :
    AreMadeOf holds (line :: lines) parts ↔
      ∃ run rest, parts = run ++ rest ∧ holds line run ∧ AreMadeOf holds lines rest := by
  constructor
  · rintro ⟨_, rfl, _ | ⟨hline, hruns⟩⟩
    exact ⟨_, _, rfl, hline, _, rfl, hruns⟩
  · rintro ⟨run, rest, rfl, hline, runs, rfl, hruns⟩
    exact ⟨run :: runs, rfl, .cons hline hruns⟩

theorem AreMadeOf.cons (hline : holds line run) (h : AreMadeOf holds lines parts) :
    AreMadeOf holds (line :: lines) (run ++ parts) :=
  areMadeOf_cons_iff.2 ⟨run, parts, rfl, hline, h⟩

theorem AreMadeOf.imp {holds' : Line → List Line → Prop} (h : AreMadeOf holds lines parts)
    (himp : ∀ line ∈ lines, ∀ run, holds line run → holds' line run) :
    AreMadeOf holds' lines parts := by
  induction lines generalizing parts with
  | nil =>
      rcases h with ⟨_, rfl, _ | _⟩
      exact areMadeOf_nil
  | cons line lines ih =>
      rcases areMadeOf_cons_iff.1 h with ⟨run, rest, rfl, hline, hrest⟩
      have htail := ih hrest fun other hother => himp other (List.mem_cons_of_mem line hother)
      exact htail.cons (himp line List.mem_cons_self run hline)

theorem AreMadeOf.map {f : Line → Line} (h : AreMadeOf holds lines parts)
    (hf : ∀ line run, holds line run → holds (f line) run) :
    AreMadeOf holds (lines.map f) parts := by
  rcases h with ⟨runs, rfl, hruns⟩
  exact ⟨runs, rfl, List.forall₂_map_left_iff.2 (hruns.imp hf)⟩

/-- Empty lines are made of nothing. -/
theorem AreMadeOf.filter_ne_nil (h : AreMadeOf holds lines parts)
    (hnil : ∀ run, holds [] run → run = []) : AreMadeOf holds (withoutEmpty lines) parts := by
  induction lines generalizing parts with
  | nil => exact h
  | cons line lines ih =>
      rcases areMadeOf_cons_iff.1 h with ⟨run, rest, rfl, hline, hrest⟩
      cases line with
      | nil => simpa [hnil run hline] using ih hrest
      | cons c others => exact (ih hrest).cons hline

/-- Packing two neighbours appends their runs. -/
theorem AreMadeOf.pack (h : AreMadeOf holds lines parts) (hstep : PackStep limit lines packed)
    (hpack : ∀ line next run nextRun, MayPack limit line next → holds line run →
      holds next nextRun → holds (line ++ ';' :: next) (run ++ nextRun)) :
    AreMadeOf holds packed parts := by
  cases hstep with
  | pack before line next after hmay =>
      induction before generalizing parts with
      | nil =>
          rcases areMadeOf_cons_iff.1 h with ⟨run, _, rfl, hline, hrest⟩
          rcases areMadeOf_cons_iff.1 hrest with ⟨nextRun, rest, rfl, hnext, hafter⟩
          simpa using hafter.cons (hpack line next run nextRun hmay hline hnext)
      | cons first before ih =>
          rcases areMadeOf_cons_iff.1 h with ⟨run, rest, rfl, hfirst, hrest⟩
          exact (ih hrest).cons hfirst

theorem AreMadeOf.packs (h : AreMadeOf holds lines parts) (hpacks : Packs limit lines packed)
    (hpack : ∀ line next run nextRun, MayPack limit line next → holds line run →
      holds next nextRun → holds (line ++ ';' :: next) (run ++ nextRun)) :
    AreMadeOf holds packed parts := by
  induction hpacks with
  | refl => exact h
  | tail _ hstep ih => exact ih.pack hstep hpack

end Runs

/-! ## What lines are made of -/

/-- The line is in short form and holds the commands of lines that all have some, and it is under
the limit unless it comes from a single line. -/
structure IsGrown (limit : Nat) (line : Line) (run : List Line) : Prop where
  compact : IsCompact line
  commands : trimmedPieces line = run.flatMap trimmedPieces
  spoken : ∀ part ∈ run, trimmedPieces part ≠ []
  short_or_alone : byteLength line < limit ∨ run = withoutEmpty [closedUp line]

theorem MayPack.byteLength_lt (h : MayPack limit line next) :
    byteLength (line ++ ';' :: next) < limit := by
  have hfits : fits limit line next = true := by
    cases h with
    | joinable _ hfits => exact hfits
    | behindLabel h =>
        simp only [takesNext, Bool.and_eq_true] at h
        exact h.2
    | routineEnd _ hfits => exact hfits
  have hsize : ';'.utf8Size = 1 := by decide
  simp only [fits, decide_eq_true_eq] at hfits
  simp only [byteLength_append, byteLength_cons, hsize]
  omega

theorem IsGrown.pack (hline : IsGrown limit line run) (hnext : IsGrown limit next nextRun)
    (h : MayPack limit line next) : IsGrown limit (line ++ ';' :: next) (run ++ nextRun) where
  compact := hline.compact.pack hnext.compact
  commands := by
    simp only [trimmedPieces_append_cons, List.flatMap_append, hline.commands, hnext.commands]
  spoken := List.forall_mem_append.2 ⟨hline.spoken, hnext.spoken⟩
  short_or_alone := .inl h.byteLength_lt

/-- Tidying only shortens a line, and it changes no normal form. -/
theorem IsGrown.tidy (h : IsGrown limit line run) : IsGrown limit (tidy line) run where
  compact := h.compact.tidy
  commands := (trimmedPieces_tidy line).trans h.commands
  spoken := h.spoken
  short_or_alone := by
    have hclosed : closedUp (Program.tidy line) = closedUp line := by
      calc
        closedUp (Program.tidy line) = Program.tidy (Program.tidy line) :=
          (tidy_eq_closedUp h.compact.tidy).symm
        _ = Program.tidy line := (isTidy_tidy line).tidy_eq
        _ = closedUp line := tidy_eq_closedUp h.compact
    rcases h.short_or_alone with hshort | halone
    · exact .inl (Nat.lt_of_le_of_lt (byteLength_le_of_sublist (tidy_sublist line)) hshort)
    · exact .inr (by simp only [hclosed, halone])

theorem IsGrown.eq_nil (h : IsGrown limit [] run) : run = [] := by
  have hcommands : run.flatMap trimmedPieces = [] := h.commands.symm
  cases run with
  | nil => rfl
  | cons part others =>
      have hpart := h.spoken part List.mem_cons_self
      simp [hpart] at hcommands

theorem trimmedPieces_closedUp (h : IsCompact line) :
    trimmedPieces (closedUp line) = trimmedPieces line := by
  simp only [← tidy_eq_closedUp h, trimmedPieces_tidy]

/-- At first a line in short form comes from itself. -/
theorem isGrown_self (h : IsCompact line) :
    IsGrown limit line (withoutEmpty [closedUp line]) := by
  have hpieces := trimmedPieces_closedUp h
  by_cases hnil : trimmedPieces line = []
  · have hempty : closedUp line = [] := by
      simp [closedUp, hnil, join]
    exact ⟨h, by simp [hempty, hnil], by simp [hempty], .inr rfl⟩
  · have hne : closedUp line ≠ [] := by
      intro hempty
      simp only [hempty, trimmedPieces_nil] at hpieces
      exact hnil hpieces.symm
    exact ⟨h, by simp [hne, hpieces], by simp [hne, hpieces, hnil], .inr rfl⟩

/-! ## Passes append runs -/

theorem areMadeOf_self (h : ∀ line ∈ lines, IsCompact line) :
    AreMadeOf (IsGrown limit) lines (withoutEmpty (lines.map closedUp)) := by
  induction lines with
  | nil => exact areMadeOf_nil
  | cons line lines ih =>
      have hline : IsGrown limit line (withoutEmpty [closedUp line]) :=
        isGrown_self (h line List.mem_cons_self)
      have hrest := ih fun other hother => h other (List.mem_cons_of_mem line hother)
      have hsplit : withoutEmpty ((line :: lines).map closedUp) =
          withoutEmpty [closedUp line] ++ withoutEmpty (lines.map closedUp) :=
        List.filter_append [closedUp line] (lines.map closedUp)
      simpa only [hsplit] using hrest.cons hline

theorem areMadeOf_pass (h : AreMadeOf (IsGrown limit) (lines.map compact) parts) :
    AreMadeOf (IsGrown limit) (pass limit lines) parts := by
  have hcompact : AreMadeOf (IsGrown limit) (compactAll lines) parts :=
    h.filter_ne_nil fun _ => IsGrown.eq_nil
  have hpacked := hcompact.packs (packs_pass limit lines)
    fun _ _ _ _ hmay hline hnext => hline.pack hnext hmay
  exact (hpacked.map fun _ _ => IsGrown.tidy).filter_ne_nil fun _ => IsGrown.eq_nil

theorem map_closedUp_compact (lines : List Line) :
    (lines.map compact).map closedUp = lines.map normalForm := by
  simp only [List.map_map]
  apply List.map_congr_left
  intro line _
  simp [normalForm, normalised_eq_compact]

theorem areMadeOf_minifyLines (limit : Nat) (lines : List Line) :
    AreMadeOf (IsGrown limit) (minifyLines limit lines) (withoutEmpty (lines.map normalForm)) := by
  apply minifyLines_invariant_of_isPacked
    (P := fun packed => AreMadeOf (IsGrown limit) packed (withoutEmpty (lines.map normalForm)))
  · intro packed hpacked hmade
    -- Packed lines are their own short forms.
    have hself : packed.map compact = packed :=
      map_compact_eq_self fun line hline => (hpacked line hline).toIsCompact
    exact areMadeOf_pass (by simpa only [hself] using hmade)
  · apply areMadeOf_pass
    simp only [← map_closedUp_compact]
    apply areMadeOf_self
    intro line hline
    rcases List.mem_map.1 hline with ⟨source, _, rfl⟩
    exact isCompact_compact source

/-- A packed line is its own normal form. -/
theorem IsGrown.isJoinedFrom (h : IsGrown limit line run) (hpacked : IsPacked line) :
    IsJoinedFrom limit line run where
  commands := h.commands
  short_or_alone := by
    have hself : closedUp line = line := by
      simp only [← tidy_eq_closedUp h.compact, hpacked.tidy_eq]
    simpa [hself, hpacked.ne_nil] using h.short_or_alone

/-! ## Reports of long lines -/

theorem ofKind_long_checkLine (limit number : Nat) (text : Line) :
    ofKind "long_line" (checkLine limit number text) =
      if isOverlong limit text then [.single number (.longLine text)] else [] := by
  have hreport : ∀ (isFound : Bool) (finding : Finding), finding.kind ≠ "long_line" →
      ofKind "long_line" (if isFound then [Diagnostic.single number finding] else []) = [] := by
    intro isFound finding hkind
    cases isFound <;> simp [ofKind, Diagnostic.single, hkind]
  have hvalue : (Finding.undefinedValue text).kind ≠ "long_line" := by
    simp [Finding.kind]
  have hoperator : (Finding.badOperator text).kind ≠ "long_line" := by
    simp [Finding.kind]
  simp only [checkLine, ofKind_append, hreport _ _ hvalue, hreport _ _ hoperator,
    List.nil_append, List.append_nil]
  cases isOverlong limit text <;> simp [ofKind, Diagnostic.single, Finding.kind]

theorem ofKind_long_checkNumbered (limit : Nat) (before : List (Nat × Line))
    (numberedLine : Nat × Line) :
    ofKind "long_line" (checkNumbered limit before numberedLine) =
      if isOverlong limit numberedLine.2 then
        [.single numberedLine.1 (.longLine numberedLine.2)]
      else [] := by
  simp [checkNumbered, ofKind_append, ofKind_long_checkLine, ofKind_checkDefinitions,
    ofKind_checkCalls, ofKind_checkLiterals]

theorem ofKind_long_checkAll (limit : Nat) (before after : List (Nat × Line)) :
    ofKind "long_line" (checkAll limit before after) =
      (after.filter fun line => isOverlong limit line.2).map
        fun line => .single line.1 (.longLine line.2) := by
  induction after generalizing before with
  | nil => rfl
  | cons numberedLine after ih =>
      simp only [checkAll, ofKind_append, ofKind_long_checkNumbered, ih]
      cases h : isOverlong limit numberedLine.2 <;> simp [h]

theorem ofKind_long_lintLines (limit : Nat) (warnings : Bool) (lines : List Line) :
    ofKind "long_line" (lintLines limit warnings lines) =
      ((numbered lines).filter fun line => isOverlong limit line.2).map
        fun line => .single line.1 (.longLine line.2) := by
  have hkind : "long_line" ∈ lineKinds := by simp [lineKinds]
  simp only [ofKind_lintLines_of_mem_lineKinds hkind, ofKind_long_checkAll]

/-! ## Minified programs -/

/-- The lines of a minified program are made of the normal forms of the lines of the program, one
run after another. Each that is as long as the limit is a normal form by itself, and the linter
reports a line over the limit for each that minification reports. -/
theorem long_lines_stand_alone (limit : Nat) (warnings : Bool) (content : String) :
    AreMadeOf (IsJoinedFrom limit) (minified limit content) (normalForms content) ∧
      (ofKind "long_line" (lint limit warnings content)).map (·.lines) =
        (overlong limit (minified limit content)).map fun number => [number] := by
  constructor
  · apply (areMadeOf_minifyLines limit (cut '\n' content.toList)).imp
    intro line hline run hgrown
    exact hgrown.isJoinedFrom (isPacked_of_mem_minifyLines hline)
  · have hreports := ofKind_long_lintLines limit warnings (minified limit content)
    simp [lint, overlong, hreports, Diagnostic.single, Function.comp_def]

example :
    minified 8 "a=1\nb=2 ;\n MG \"abc\"\nc=3" =
      ["a=1;b=2", "MG \"abc\"", "c=3"].map String.toList := by
  decide +kernel

end Program
end MotionController
