import MotionController.Proofs.Program.LineBreaks
import MotionController.Proofs.Program.LongLines

/-!
# Empty statements of minified programs

A minified line has no empty statement behind a command: none at its end, and none between two
semicolons (`not_hasEmptyBetween`). One at its start stays where it is: nothing that a pass
does to a line changes its first character (`head?_tidy`), so that a minified line begins with a
semicolon exactly when the first of the lines that it was packed from does (`BeginsAs`). Lines of
nothing but semicolons may vanish before they are packed (`LeavesOut`).
-/

namespace MotionController
namespace Program

open Text

variable {limit : Nat} {line next : Line} {lines run nextRun parts kept rest : List Line}

/-! ## The view -/

/-- Two semicolons of the line have nothing but blanks between them. -/
def HasEmptyBetween (line : Line) : Prop :=
  ∃ before blanks after, AllBlank blanks ∧ line = before ++ ';' :: (blanks ++ ';' :: after)

/-- The line begins with an empty statement. -/
def beginsEmpty (line : Line) : Bool :=
  line.head? == some ';'

/-- The line holds the commands of a run of lines, and it begins with an empty statement exactly
when the first of them does. -/
structure BeginsAs (line : Line) (run : List Line) : Prop where
  commands : trimmedPieces line = run.flatMap trimmedPieces
  begins : ∃ first others, run = first :: others ∧ beginsEmpty line = beginsEmpty first

/-- Of the parts some lines without commands are left out, and no others. -/
structure LeavesOut (parts kept : List Line) : Prop where
  sublist : List.Sublist kept parts
  spoken : kept.filter hasCommands = parts.filter hasCommands

theorem LeavesOut.refl (parts : List Line) : LeavesOut parts parts where
  sublist := List.Sublist.refl parts
  spoken := rfl

theorem LeavesOut.trans (h : LeavesOut parts kept) (h' : LeavesOut kept rest) :
    LeavesOut parts rest where
  sublist := h'.sublist.trans h.sublist
  spoken := h'.spoken.trans h.spoken

/-! ## Behind a command -/

theorem not_hasEmptyBetween (h : collapseSemicolons line = line) : ¬HasEmptyBetween line := by
  rintro ⟨before, blanks, after, hblanks, rfl⟩
  induction before with
  | nil =>
      have hfollows : semicolonFollows (blanks ++ ';' :: after) = true :=
        semicolonFollows_iff.2 ⟨blanks, after, hblanks, rfl⟩
      have hnot := (collapseSemicolons_cons_eq_self_iff.1 h).1 rfl
      simp [hfollows] at hnot
  | cons c before ih => exact ih (collapseSemicolons_cons_eq_self_iff.1 h).2

/-! ## At the start of a line -/

theorem head?_dropsSemicolon {s t : Line} (hs : IsCompact s) (hdrop : DropsSemicolon s t) :
    t.head? = s.head? := by
  cases hdrop with
  | drop a w b hw =>
      -- In short form the semicolon that goes stands right before another one.
      have hnil := hs.tight.eq_nil_of_semicolons hw
      subst hnil
      cases a <;> rfl

/-- Tidying keeps the first character of a line of which anything is left. -/
theorem head?_tidy (h : IsCompact line) (hne : tidy line ≠ []) :
    (tidy line).head? = line.head? := by
  have htidy : IsCompact (tidy line) ∧ (tidy line ≠ [] → (tidy line).head? = line.head?) := by
    apply tidy_invariant
      (P := fun text => IsCompact text ∧ (text ≠ [] → text.head? = line.head?))
    · rintro s t hdrop ⟨hs, hhead⟩
      have hsne : s ≠ [] := by
        cases hdrop with
        | drop a w b => exact List.append_ne_nil_of_right_ne_nil a (List.cons_ne_nil _ _)
      exact ⟨hs.dropsSemicolon hdrop, fun _ => (head?_dropsSemicolon hs hdrop).trans (hhead hsne)⟩
    · rintro a ⟨ha, hhead⟩
      refine ⟨ha.of_append_cons.1, fun hane => ?_⟩
      simpa [List.head?_append_of_ne_nil _ hane] using hhead (by simp)
    · exact ⟨h, fun _ => rfl⟩
  exact htidy.2 hne

/-! ## What lines are made of -/

/-- The line is in short form and not empty, and it begins as its run does. -/
structure IsBegun (line : Line) (run : List Line) : Prop extends BeginsAs line run where
  compact : IsCompact line
  ne_nil : line ≠ []

theorem isBegun_self (hcompact : IsCompact line) (hne : line ≠ []) : IsBegun line [line] where
  commands := by simp
  begins := ⟨line, [], rfl, rfl⟩
  compact := hcompact
  ne_nil := hne

theorem IsBegun.pack (hline : IsBegun line run) (hnext : IsBegun next nextRun) :
    IsBegun (line ++ ';' :: next) (run ++ nextRun) where
  commands := by
    simp only [trimmedPieces_append_cons, List.flatMap_append, hline.commands, hnext.commands]
  begins := by
    rcases hline.begins with ⟨first, others, rfl, hfirst⟩
    refine ⟨first, others ++ nextRun, rfl, ?_⟩
    simpa only [beginsEmpty, List.head?_append_of_ne_nil _ hline.ne_nil] using hfirst
  compact := hline.compact.pack hnext.compact
  ne_nil := List.append_ne_nil_of_left_ne_nil hline.ne_nil _

theorem IsBegun.tidy (h : IsBegun line run) (hne : tidy line ≠ []) : IsBegun (tidy line) run where
  commands := (trimmedPieces_tidy line).trans h.commands
  begins := by
    rcases h.begins with ⟨first, others, hrun, hfirst⟩
    refine ⟨first, others, hrun, ?_⟩
    simpa only [beginsEmpty, head?_tidy h.compact hne] using hfirst
  compact := h.compact.tidy
  ne_nil := hne

/-! ## Passes leave out lines without commands -/

theorem LeavesOut.append (h : LeavesOut parts kept) (run : List Line) :
    LeavesOut (run ++ parts) (run ++ kept) where
  sublist := h.sublist.append_left run
  spoken := by simp only [List.filter_append, h.spoken]

theorem LeavesOut.behind (h : LeavesOut parts kept) (hrun : run.flatMap trimmedPieces = []) :
    LeavesOut (run ++ parts) kept where
  sublist := h.sublist.trans (List.sublist_append_right run parts)
  spoken := by
    have hsilent : run.filter hasCommands = [] := by
      apply List.filter_eq_nil_iff.2
      intro line hline hcommands
      exact hasCommands_iff.1 hcommands (List.flatMap_eq_nil_iff.1 hrun line hline)
    simpa only [List.filter_append, hsilent, List.nil_append] using h.spoken

theorem areMadeOf_isBegun_self (h : ∀ line ∈ lines, IsCompact line ∧ line ≠ []) :
    AreMadeOf IsBegun lines lines := by
  induction lines with
  | nil => exact areMadeOf_nil
  | cons line lines ih =>
      have hline := h line List.mem_cons_self
      have hrest := ih fun other hother => h other (List.mem_cons_of_mem line hother)
      exact hrest.cons (isBegun_self hline.1 hline.2)

/-- Lines of which tidying leaves nothing were made of lines without commands. -/
theorem leavesOut_tidyAll (h : AreMadeOf IsBegun lines parts) :
    ∃ kept, LeavesOut parts kept ∧ AreMadeOf IsBegun (tidyAll lines) kept := by
  induction lines generalizing parts with
  | nil => exact ⟨parts, .refl parts, h⟩
  | cons line lines ih =>
      rcases areMadeOf_cons_iff.1 h with ⟨run, rest, rfl, hline, hrest⟩
      rcases ih hrest with ⟨kept, hleaves, hmade⟩
      by_cases hnil : tidy line = []
      · have hsilent : run.flatMap trimmedPieces = [] := by
          rw [← hline.commands, ← trimmedPieces_tidy, hnil, trimmedPieces_nil]
        exact ⟨kept, hleaves.behind hsilent, by simpa [tidyAll, hnil] using hmade⟩
      · refine ⟨run ++ kept, hleaves.append run, ?_⟩
        simpa [tidyAll, hnil] using hmade.cons (hline.tidy hnil)

theorem leavesOut_pass (h : AreMadeOf IsBegun (compactAll lines) parts) :
    ∃ kept, LeavesOut parts kept ∧ AreMadeOf IsBegun (pass limit lines) kept :=
  leavesOut_tidyAll <|
    h.packs (packs_pass limit lines) fun _ _ _ _ _ hline hnext => hline.pack hnext

theorem leavesOut_minifyLines (limit : Nat) (lines : List Line) :
    ∃ kept, LeavesOut (compactAll lines) kept ∧
      AreMadeOf IsBegun (minifyLines limit lines) kept := by
  apply minifyLines_invariant_of_isPacked
    (P := fun packed => ∃ kept, LeavesOut (compactAll lines) kept ∧ AreMadeOf IsBegun packed kept)
  · rintro packed hpacked ⟨kept, hleaves, hmade⟩
    -- What an earlier pass left out stays left out.
    have hself : compactAll packed = packed := compactAll_eq_self hpacked
    rcases leavesOut_pass (hself.symm ▸ hmade) with ⟨further, hfurther, hpass⟩
    exact ⟨further, hleaves.trans hfurther, hpass⟩
  · apply leavesOut_pass
    apply areMadeOf_isBegun_self
    intro line hline
    exact ⟨isCompact_of_mem_compactAll hline, (mem_filter_ne_nil.1 hline).2⟩

/-! ## Minified programs -/

/-- The normalised lines of a program, without empty ones, are what its first pass packs. -/
theorem withoutEmpty_normalisedLines (content : String) :
    withoutEmpty (normalisedLines content) = compactAll (cut '\n' content.toList) := by
  simp only [normalisedLines, map_normalised, withoutEmpty, compactAll]

/-- No line of a minified program ends with a semicolon or has two with only blanks between them,
and each begins with one exactly when the first line that it was packed from does. -/
theorem minified_empty_statements (limit : Nat) (content : String) :
    (∀ line ∈ cut '\n' (minify limit content).toList,
        line.getLast? ≠ some ';' ∧ ¬HasEmptyBetween line) ∧
      ∃ kept, LeavesOut (withoutEmpty (normalisedLines content)) kept ∧
        AreMadeOf BeginsAs (minified limit content) kept := by
  constructor
  · intro line hline
    simp only [cut_minify] at hline
    split at hline
    · -- A text without lines still has an empty one.
      simp [List.mem_singleton.1 hline, HasEmptyBetween]
    · have hpacked : IsPacked line := isPacked_of_mem_minifyLines hline
      exact ⟨hpacked.last, not_hasEmptyBetween hpacked.collapsed⟩
  · rcases leavesOut_minifyLines limit (cut '\n' content.toList) with ⟨kept, hleaves, hmade⟩
    refine ⟨kept, by simpa only [withoutEmpty_normalisedLines] using hleaves, ?_⟩
    exact hmade.imp fun _ _ _ hbegun => hbegun.toBeginsAs

/-- A semicolon at the start of a program stays. -/
theorem leading_semicolon_stays :
    ∃ line ∈ cut '\n' (minify defaultLineLimit ";SB1").toList, line.head? = some ';' := by
  decide +kernel

end Program
end MotionController
