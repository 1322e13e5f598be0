import MotionController.Proofs.Program.CommandView

/-!
# Labels at the start of lines

A line that begins with a label is never packed behind another one (`MayPack.not_startsWithLabel`),
and no line gets a new beginning. So the leading commands of the lines that begin with a label are,
in order, those of the normalised lines of the program (`labelCommands_minify`).
-/

namespace MotionController
namespace Program

open Text

variable {limit : Nat} {line next : Line} {lines : List Line}

/-! ## The view -/

/-- The line without its comment, the blanks next to operators and the blanks at its ends. -/
def normalised (line : Line) : Line :=
  trim (dropIdleBlanks [] (beforeComment line))

/-- The normalised lines of a program text. -/
def normalisedLines (content : String) : List Line :=
  (cut '\n' content.toList).map normalised

/-- The text of the line before its first semicolon. -/
def leadingCommand (line : Line) : Line :=
  line.takeWhile (· ≠ ';')

/-- The leading commands of the lines that begin with a label. -/
def labelCommands (lines : List Line) : List Line :=
  (lines.filter startsWithLabel).map leadingCommand

/-- The leading command of the line, if the line begins with a label. -/
def leadingLabel (line : Line) : List Line :=
  if startsWithLabel line then [leadingCommand line] else []

theorem normalised_eq_compact (line : Line) : normalised line = compact line := by
  have hcomment : beforeComment line = cutComment line := (cutComment_eq_join line).symm
  have hdrop : dropIdleBlanks [] (cutComment line) = tighten (cutComment line) :=
    dropIdleBlanks_eq_tightenAfter [] (cutComment line)
  simp only [normalised, compact, hcomment, hdrop]

theorem map_normalised (lines : List Line) : lines.map normalised = lines.map compact :=
  List.map_congr_left fun line _ => normalised_eq_compact line

theorem labelCommands_eq_flatMap (lines : List Line) :
    labelCommands lines = lines.flatMap leadingLabel := by
  unfold labelCommands
  induction lines with
  | nil => rfl
  | cons line rest ih =>
      cases h : startsWithLabel line <;> simp [leadingLabel, h, ih]

theorem leadingLabel_nil : leadingLabel [] = [] := rfl

theorem startsWithLabel_eq (line : Line) :
    startsWithLabel line = !(leadingLabel line).isEmpty := by
  cases h : startsWithLabel line <;> simp [leadingLabel, h]

/-! ## What is packed behind a line -/

theorem startsWithLabel_append_cons (a b : Line) :
    startsWithLabel (a ++ ';' :: b) = startsWithLabel a := by
  cases a with
  | nil => rfl
  | cons c rest => rfl

theorem leadingCommand_append_cons (a b : Line) :
    leadingCommand (a ++ ';' :: b) = leadingCommand a := by
  unfold leadingCommand
  induction a with
  | nil => simp
  | cons c rest ih =>
      by_cases hc : c = ';'
      · simp [hc]
      · simpa [hc] using ih

theorem leadingLabel_append_cons (a b : Line) :
    leadingLabel (a ++ ';' :: b) = leadingLabel a := by
  unfold leadingLabel
  simp only [startsWithLabel_append_cons, leadingCommand_append_cons]

/-- A number sign begins no joinable command. -/
theorem isJoinableCommand_label (name : Line) : isJoinableCommand ('#' :: name) = false := by
  have hsign : isBlank '#' = false := by decide
  have hstart : trimStart ('#' :: name) = '#' :: name := trimStart_cons_of_not_blank hsign
  have hend : trimEnd ('#' :: name) = '#' :: trimEnd name := trimEnd_cons_of_not_blank hsign
  have htarget : splitTarget? ('#' :: name) = none := by
    simp [splitTarget?]
  simp [isJoinableCommand, hstart, hend, isSimpleAssignment, htarget]

theorem not_startsWithLabel_of_isJoinable (h : isJoinable line = true) :
    startsWithLabel line = false := by
  cases line with
  | nil => rfl
  | cons c rest =>
      by_cases hc : c = '#'
      · -- The first piece of the line would begin with the number sign.
        subst hc
        have hall : ∀ p ∈ cut ';' ('#' :: rest), isJoinableCommand p = true :=
          List.all_eq_true.1 h
        cases hcut : cut ';' rest with
        | nil => exact absurd hcut (cut_ne_nil ';' rest)
        | cons piece pieces =>
            have hfirst := hall ('#' :: piece) (by simp [cut, hcut])
            simp [isJoinableCommand_label] at hfirst
      · simpa [startsWithLabel] using hc

/-- No line that begins with a label goes behind another one. -/
theorem MayPack.not_startsWithLabel (h : MayPack limit line next) :
    startsWithLabel next = false := by
  cases h with
  | joinable hnext _ => exact not_startsWithLabel_of_isJoinable hnext
  | behindLabel h =>
      simp only [takesNext, Bool.and_eq_true, Bool.not_eq_true'] at h
      exact h.1.2
  | routineEnd _ _ => decide

theorem MayPack.leadingLabel_eq (h : MayPack limit line next) :
    leadingLabel (line ++ ';' :: next) = leadingLabel line ++ leadingLabel next := by
  have hnext : leadingLabel next = [] := by
    simp [leadingLabel, h.not_startsWithLabel]
  simp [leadingLabel_append_cons, hnext]

/-! ## Tidying -/

theorem leadingLabel_tidy (h : IsCompact line) : leadingLabel (tidy line) = leadingLabel line := by
  have htidy : IsCompact (tidy line) ∧ leadingLabel (tidy line) = leadingLabel line := by
    apply tidy_invariant (P := fun text => IsCompact text ∧ leadingLabel text = leadingLabel line)
    · rintro s t hdrop ⟨hs, heq⟩
      refine ⟨hs.dropsSemicolon hdrop, ?_⟩
      -- In short form the semicolon that goes stands right before another one.
      cases hdrop with
      | drop a w b hw =>
          have hnil := hs.tight.eq_nil_of_semicolons hw
          subst hnil
          simpa only [List.nil_append, leadingLabel_append_cons] using heq
    · rintro a ⟨ha, heq⟩
      exact ⟨ha.of_append_cons.1, by simpa only [leadingLabel_append_cons] using heq⟩
    · exact ⟨h, rfl⟩
  exact htidy.2

theorem startsWithLabel_tidy (h : IsCompact line) :
    startsWithLabel (tidy line) = startsWithLabel line := by
  simp only [startsWithLabel_eq, leadingLabel_tidy h]

/-! ## Passes keep the labels at the start of lines -/

theorem flatMap_leadingLabel_pass (limit : Nat) (lines : List Line) :
    (pass limit lines).flatMap leadingLabel = (lines.map compact).flatMap leadingLabel := by
  have hpacks := packs_pass limit lines
  have hcompact := hpacks.forall_mem (fun _ _ => IsCompact.pack)
    fun _ => isCompact_of_mem_compactAll
  calc
    (pass limit lines).flatMap leadingLabel
        = (squash limit (merge limit (compactAll lines))).flatMap
            fun line => leadingLabel (tidy line) := by
            simp [pass, tidyAll, flatMap_filter_ne_nil leadingLabel_nil, List.flatMap_map]
    _ = (squash limit (merge limit (compactAll lines))).flatMap leadingLabel := by
            apply List.flatMap_congr
            intro line hline
            exact leadingLabel_tidy (hcompact line hline)
    _ = (compactAll lines).flatMap leadingLabel :=
            hpacks.flatMap_eq_of_mayPack fun _ _ => MayPack.leadingLabel_eq
    _ = (lines.map compact).flatMap leadingLabel := flatMap_filter_ne_nil leadingLabel_nil _

theorem labelCommands_minifyLines (limit : Nat) (lines : List Line) :
    labelCommands (minifyLines limit lines) = labelCommands (lines.map normalised) := by
  simp only [map_normalised, labelCommands_eq_flatMap]
  apply minifyLines_invariant_of_isPacked
    (P := fun packed => packed.flatMap leadingLabel = (lines.map compact).flatMap leadingLabel)
  · intro packed hpacked hlabels
    -- Packed lines are their own short forms.
    have hself : packed.map compact = packed :=
      map_compact_eq_self fun line hline => (hpacked line hline).toIsCompact
    have hstep := flatMap_leadingLabel_pass limit packed
    simp only [hself] at hstep
    exact hstep.trans hlabels
  · exact flatMap_leadingLabel_pass limit lines

theorem labelCommands_empty : labelCommands [[]] = labelCommands [] := rfl

/-- Minification keeps every label that a line begins with at the start of a line. -/
theorem labelCommands_minify (limit : Nat) (content : String) :
    labelCommands (cut '\n' (minify limit content).toList) =
      labelCommands (normalisedLines content) := by
  have hlabels : labelCommands (minified limit content) = labelCommands (normalisedLines content) :=
    labelCommands_minifyLines limit (cut '\n' content.toList)
  simp only [cut_minify]
  split
  · next h =>
      simp only [h] at hlabels
      exact labelCommands_empty.trans hlabels
  · exact hlabels

example :
    labelCommands (cut '\n' (minify defaultLineLimit "#A ; x = 1\n;#B\n #C;'#D\nSB1").toList) =
      ["#A", "#C"].map String.toList := by
  decide +kernel

end Program
end MotionController
