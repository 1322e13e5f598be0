import MotionController.Proofs.Program.LineStarts

/-!
# Line breaks that packing removes

The normalised lines of a program fall apart into runs of neighbouring lines, and each line of the
minified program holds the commands of one run. Behind the first line of a run there are lines of
joinable commands only, but that the second line may be any when the first is only a label, and any
bare `EN` behind it as well (`IsPackedFrom`).

Lines that were packed are packed again, so a pass has to know what the lines it meets were packed
from. That is what `Splits` carries along: each step of a pass appends the runs of the lines it
packs (`splits_mergeBehind`, `splits_squash`), and hence every pass keeps the lines that were there
in the first place (`splits_pass`).
-/

namespace MotionController
namespace Program

open Text

variable {limit place : Nat} {first line next shared part command : Line}
variable {lines run others nextRun endRun spoken : List Line}

/-! ## Runs of lines -/

/-- The line has commands. -/
def hasCommands (line : Line) : Bool :=
  !(trimmedPieces line).isEmpty

/-- The only command of the line is a label. -/
def IsLabelOnly (line : Line) : Prop :=
  ∃ label, trimmedPieces line = [label] ∧ isLabelLine label = true

/-- All commands of the line are joinable. -/
def OnlyJoins (line : Line) : Prop :=
  ∀ command ∈ trimmedPieces line, isJoinableCommand command = true

/-- Why a line may go behind the first one of its run, with `place` lines between them. -/
inductive MayShare (first : Line) (place : Nat) (line : Line) : Prop where
  | joinable (h : OnlyJoins line)
  | behindLabel (hplace : place = 0) (hfirst : IsLabelOnly first)
  | routineEnd (hline : trimmedPieces line = [endCommand]) (hfirst : IsLabelOnly first)

/-- The line holds the commands of a run of lines, and those of the lines that have commands may go
behind the first of them. -/
structure IsPackedFrom (line : Line) (run : List Line) : Prop where
  commands : trimmedPieces line = run.flatMap trimmedPieces
  shares : ∀ first others, run.filter hasCommands = first :: others →
    ∀ place part, others[place]? = some part → MayShare first place part

theorem hasCommands_iff : hasCommands line = true ↔ trimmedPieces line ≠ [] := by
  simp [hasCommands]

theorem trimmedPieces_of_not_hasCommands (h : hasCommands line = false) :
    trimmedPieces line = [] := by
  simpa [hasCommands] using h

/-! ## How the lines of a run came together -/

/-- What is known of the lines that share a line: all behind the first are joinable, or the first is
a label, which the shared line still begins with. -/
inductive Shares (line : Line) : (run : List Line) → Prop where
  | joined {run : List Line} (h : ∀ part ∈ run.tail, OnlyJoins part) : Shares line run
  | labelled {first second : Line} {others : List Line} (hline : startsWithLabel line = true)
      (hfirst : IsLabelOnly first)
      (hothers : ∀ part ∈ others, OnlyJoins part ∨ trimmedPieces part = [endCommand]) :
      Shares line (first :: second :: others)

theorem mem_tail_append {part : Line} (h : part ∈ (run ++ nextRun).tail) :
    part ∈ run.tail ∨ part ∈ nextRun := by
  cases run with
  | nil => exact .inr (List.mem_of_mem_tail h)
  | cons first others => exact List.mem_append.1 h

theorem Shares.mayShare (h : Shares line (first :: others)) (hpart : others[place]? = some part) :
    MayShare first place part := by
  cases h with
  | joined h => exact .joinable (h part (List.mem_of_getElem? hpart))
  | labelled _ hfirst hothers =>
      cases place with
      | zero => exact .behindLabel rfl hfirst
      | succ place =>
          rcases hothers part (List.mem_of_getElem? hpart) with h | h
          · exact .joinable h
          · exact .routineEnd h hfirst

theorem Shares.onlyJoins_of_mem_tail (h : Shares line run)
    (hline : startsWithLabel line = false) : ∀ part ∈ run.tail, OnlyJoins part := by
  cases h with
  | joined h => exact h
  | labelled hlabel _ _ => simp [hlabel] at hline

/-- Joinable lines may go behind any run. -/
theorem Shares.append (h : Shares line run) (hnext : ∀ part ∈ nextRun, OnlyJoins part) :
    Shares (line ++ ';' :: next) (run ++ nextRun) := by
  cases h with
  | joined h =>
      -- An empty run takes its first line from the other one, whose lines are all joinable.
      apply Shares.joined
      intro part hpart
      rcases mem_tail_append hpart with hpart | hpart
      · exact h part hpart
      · exact hnext part hpart
  | labelled hline hfirst hothers =>
      apply Shares.labelled
      · simpa only [startsWithLabel_append_cons] using hline
      · exact hfirst
      · intro part hpart
        rcases List.mem_append.1 hpart with hpart | hpart
        · exact hothers part hpart
        · exact .inl (hnext part hpart)

theorem shares_of_label (hline : startsWithLabel line = true) (hfirst : IsLabelOnly first)
    (hothers : ∀ part ∈ others.tail, OnlyJoins part ∨ trimmedPieces part = [endCommand]) :
    Shares line (first :: others) := by
  cases others with
  | nil => exact .joined fun part hpart => absurd hpart List.not_mem_nil
  | cons second rest => exact .labelled hline hfirst hothers

/-! ## Lines and what they hold -/

/-- The line is in short form and holds the commands of lines that all have some. -/
structure Holds (line : Line) (run : List Line) : Prop where
  compact : IsCompact line
  commands : trimmedPieces line = run.flatMap trimmedPieces
  spoken : ∀ part ∈ run, hasCommands part = true
  shares : Shares line run

theorem Holds.mem_trimmedPieces (h : Holds line run) (hpart : part ∈ run)
    (hcommand : command ∈ trimmedPieces part) : command ∈ trimmedPieces line := by
  simp only [h.commands]
  exact List.mem_flatMap.2 ⟨part, hpart, hcommand⟩

/-- A line with one command holds one line. -/
theorem Holds.exists_eq_singleton (h : Holds line run) (hline : trimmedPieces line = [command]) :
    ∃ part, run = [part] ∧ trimmedPieces part = [command] := by
  have hcommands : run.flatMap trimmedPieces = [command] := h.commands.symm.trans hline
  cases run with
  | nil => simp at hcommands
  | cons part others =>
      have hpart : trimmedPieces part ≠ [] :=
        hasCommands_iff.1 (h.spoken part List.mem_cons_self)
      simp only [List.flatMap_cons, List.append_eq_singleton_iff, hpart, false_and, false_or]
        at hcommands
      refine ⟨part, ?_, hcommands.1⟩
      -- Further lines would have commands as well.
      cases others with
      | nil => rfl
      | cons other rest =>
          have hother := hasCommands_iff.1 (h.spoken other (by simp))
          simp [hother] at hcommands

theorem Holds.eq_nil (h : Holds [] run) : run = [] := by
  have hcommands : run.flatMap trimmedPieces = [] := h.commands.symm
  cases run with
  | nil => rfl
  | cons part others =>
      have hpart := hasCommands_iff.1 (h.spoken part List.mem_cons_self)
      simp [hpart] at hcommands

theorem Holds.tidy (h : Holds line run) : Holds (tidy line) run where
  compact := h.compact.tidy
  commands := (trimmedPieces_tidy line).trans h.commands
  spoken := h.spoken
  shares := by
    cases h.shares with
    | joined hjoins => exact .joined hjoins
    | labelled hline hfirst hothers =>
        exact .labelled ((startsWithLabel_tidy h.compact).trans hline) hfirst hothers

/-- At first a line in short form holds itself, or nothing. -/
theorem holds_self (h : IsCompact line) : Holds line ([line].filter hasCommands) := by
  cases hcommands : hasCommands line with
  | true =>
      refine ⟨h, by simp [hcommands], by simp [hcommands], .joined ?_⟩
      simp [hcommands]
  | false =>
      have hnil := trimmedPieces_of_not_hasCommands hcommands
      exact ⟨h, by simp [hcommands, hnil], by simp [hcommands], .joined (by simp [hcommands])⟩

/-! ## Packing two lines -/

theorem Holds.pack (hline : Holds line run) (hnext : Holds next nextRun)
    (hshares : Shares (line ++ ';' :: next) (run ++ nextRun)) :
    Holds (line ++ ';' :: next) (run ++ nextRun) where
  compact := hline.compact.pack hnext.compact
  commands := by
    simp only [trimmedPieces_append_cons, List.flatMap_append, hline.commands, hnext.commands]
  spoken := List.forall_mem_append.2 ⟨hline.spoken, hnext.spoken⟩
  shares := hshares

theorem cut_dropLeadingSeparator (line : Line) :
    ∀ p ∈ cut ';' line, p ≠ [] → p ∈ cut ';' (dropLeadingSeparator line) := by
  intro p hp hne
  unfold dropLeadingSeparator
  split
  · simpa [hne] using hp
  · exact hp

/-- In short form the pieces of a joinable line are its commands. -/
theorem onlyJoins_of_isJoinable (hline : IsCompact line) (h : isJoinable line = true) :
    OnlyJoins line := by
  intro command hcommand
  rcases List.mem_filter.1 hcommand with ⟨hmem, hne⟩
  rcases List.mem_map.1 hmem with ⟨p, hp, rfl⟩
  have htrim : trim p = p := (hline.of_mem_cut hp).trimmed.trim_eq
  simp only [htrim] at hne ⊢
  exact List.all_eq_true.1 h p (cut_dropLeadingSeparator line p hp (by simpa using hne))

theorem Holds.joinable (hline : Holds line run) (hnext : Holds next nextRun)
    (h : isJoinable next = true) : Holds (line ++ ';' :: next) (run ++ nextRun) := by
  -- What a merged line may do is traced back to the lines it was packed from.
  have hjoins : ∀ part ∈ nextRun, OnlyJoins part := fun part hpart command hcommand =>
    onlyJoins_of_isJoinable hnext.compact h command (hnext.mem_trimmedPieces hpart hcommand)
  exact hline.pack hnext (hline.shares.append hjoins)

theorem trimmedPieces_of_isLabelLine (hline : IsCompact line) (h : isLabelLine line = true) :
    trimmedPieces line = [line] := by
  -- A label is of one piece, since its characters are letters and digits.
  have hsemicolon : ';' ∉ line := by
    cases line with
    | nil => simp
    | cons c name =>
        intro hmem
        unfold isLabelLine at h
        split at h
        · next heq =>
            rcases List.cons.inj heq with ⟨rfl, rfl⟩
            simp only [Bool.and_eq_true, List.all_eq_true] at h
            rcases List.mem_cons.1 hmem with hc | hname
            · simp at hc
            · exact absurd (h.2 ';' hname) (by decide)
        · simp at h
  have hne : line ≠ [] := by
    intro hnil
    simp [hnil, isLabelLine] at h
  simp [trimmedPieces, cut_of_not_mem hsemicolon, hline.trimmed.trim_eq, hne]

theorem startsWithLabel_of_isLabelLine (h : isLabelLine line = true) :
    startsWithLabel line = true := by
  unfold isLabelLine at h
  split at h
  · rfl
  · simp at h

/-- A label line was packed from one line, which a line without label may go behind, and a bare `EN`
behind that one. -/
theorem Holds.shares_of_takesNext (hline : Holds line run) (hnext : Holds next nextRun)
    (h : takesNext limit line next = true)
    (hend : ∀ part ∈ endRun, trimmedPieces part = [endCommand])
    (hshared : startsWithLabel shared = startsWithLabel line) :
    Shares shared (run ++ (nextRun ++ endRun)) := by
  simp only [takesNext, Bool.and_eq_true, Bool.not_eq_true'] at h
  rcases hline.exists_eq_singleton (trimmedPieces_of_isLabelLine hline.compact h.1.1) with
    ⟨first, rfl, hfirst⟩
  apply shares_of_label
  · exact hshared.trans (startsWithLabel_of_isLabelLine h.1.1)
  · exact ⟨line, hfirst, h.1.1⟩
  · intro part hpart
    have hside : part ∈ nextRun.tail ∨ part ∈ endRun := mem_tail_append hpart
    rcases hside with hpart | hpart
    · exact .inl (hnext.shares.onlyJoins_of_mem_tail h.1.2 part hpart)
    · exact .inr (hend part hpart)

theorem Holds.behindLabel (hline : Holds line run) (hnext : Holds next nextRun)
    (h : takesNext limit line next = true) : Holds (line ++ ';' :: next) (run ++ nextRun) := by
  have hshares := hline.shares_of_takesNext hnext h
    (fun part (hpart : part ∈ []) => absurd hpart List.not_mem_nil)
    (startsWithLabel_append_cons line next)
  simp only [List.append_nil] at hshares
  exact hline.pack hnext hshares

theorem trimmedPieces_endCommand : trimmedPieces endCommand = [endCommand] := by
  decide

theorem Holds.routineEnd (hline : Holds line run) (hnext : Holds next nextRun)
    (hend : Holds endCommand endRun) (h : takesNext limit line next = true) :
    Holds ((line ++ ';' :: next) ++ ';' :: endCommand) ((run ++ nextRun) ++ endRun) := by
  rcases hend.exists_eq_singleton trimmedPieces_endCommand with ⟨last, rfl, hlast⟩
  apply (hline.behindLabel hnext h).pack hend
  simp only [List.append_assoc]
  apply hline.shares_of_takesNext hnext h
  · intro part hpart
    simpa [List.mem_singleton.1 hpart] using hlast
  · simp only [List.cons_append, startsWithLabel_append_cons]

/-! ## Passes append runs -/

/-- The lines hold runs of lines, one after another. -/
inductive Splits : (lines : List Line) → (spoken : List Line) → Prop where
  | nil : Splits [] []
  | cons {line : Line} {run lines spoken : List Line} (h : Holds line run)
      (hrest : Splits lines spoken) : Splits (line :: lines) (run ++ spoken)

theorem splits_mergeBehind (hline : Holds line run) (h : Splits lines spoken) :
    Splits (mergeBehind limit line lines) (run ++ spoken) := by
  induction h generalizing line run with
  | nil => exact .cons hline .nil
  | cons hnext hrest ih =>
      unfold mergeBehind
      split
      · next hmerge =>
          simp only [Bool.and_eq_true] at hmerge
          simp only [← List.append_assoc]
          exact ih (hline.joinable hnext hmerge.1)
      · exact .cons hline (ih hnext)

theorem splits_merge (h : Splits lines spoken) : Splits (merge limit lines) spoken := by
  cases h with
  | nil => exact .nil
  | cons hline hrest => exact splits_mergeBehind hline hrest

theorem splits_squash (limit : Nat) (lines : List Line) :
    ∀ spoken, Splits lines spoken → Splits (squash limit lines) spoken := by
  -- One case for each way that squashing goes on, each with the lines it looks at taken apart.
  induction lines using squash.induct limit with
  | case1 => exact fun _ h => h
  | case2 line => exact fun _ h => h
  | case3 line next htakes =>
      rintro _ (_ | ⟨hline, _ | ⟨hnext, hnil⟩⟩)
      simp only [squash, htakes, if_true, ← List.append_assoc]
      exact .cons (hline.behindLabel hnext htakes) hnil
  | case4 line next htakes packed after others hend ih =>
      rintro _ (_ | ⟨hline, _ | ⟨hnext, _ | ⟨hlast, hothers⟩⟩⟩)
      simp only [squash_routineEnd htakes hend, ← List.append_assoc]
      simp only [Bool.and_eq_true, beq_iff_eq] at hend
      rcases hend with ⟨rfl, _⟩
      exact .cons (hline.routineEnd hnext hlast htakes) (ih _ hothers)
  | case5 line next htakes packed after others hend ih =>
      rintro _ (_ | ⟨hline, _ | ⟨hnext, hrest⟩⟩)
      simp only [squash_behindLabel htakes hend, ← List.append_assoc]
      exact .cons (hline.behindLabel hnext htakes) (ih _ hrest)
  | case6 line next rest htakes ih =>
      rintro _ (_ | ⟨hline, hrest⟩)
      simp only [squash, if_neg htakes]
      exact .cons hline (ih _ hrest)

theorem Splits.tidy (h : Splits lines spoken) : Splits (lines.map tidy) spoken := by
  induction h with
  | nil => exact .nil
  | cons hline _ ih => exact .cons hline.tidy ih

/-- Empty lines hold nothing. -/
theorem Splits.filter_ne_nil (h : Splits lines spoken) :
    Splits (lines.filter fun line => !line.isEmpty) spoken := by
  induction h with
  | nil => exact .nil
  | @cons line run lines spoken hline _ ih =>
      cases line with
      | nil => simpa [hline.eq_nil] using ih
      | cons c rest => exact .cons hline ih

theorem splits_pass (h : Splits (lines.map compact) spoken) : Splits (pass limit lines) spoken := by
  have hpacked : Splits (squash limit (merge limit (compactAll lines))) spoken :=
    splits_squash limit _ _ (splits_merge h.filter_ne_nil)
  exact hpacked.tidy.filter_ne_nil

theorem Splits.isCompact (h : Splits lines spoken) : ∀ line ∈ lines, IsCompact line := by
  induction h with
  | nil => exact fun line hline => absurd hline List.not_mem_nil
  | cons hline _ ih => exact List.forall_mem_cons.2 ⟨hline.compact, ih⟩

theorem splits_normalised (lines : List Line) :
    Splits (lines.map normalised) ((lines.map normalised).filter hasCommands) := by
  induction lines with
  | nil => exact .nil
  | cons line rest ih =>
      have hcompact : IsCompact (normalised line) := by
        simpa only [normalised_eq_compact] using isCompact_compact line
      have hsplits := Splits.cons (holds_self hcompact) ih
      simpa only [List.map_cons, ← List.filter_append, List.singleton_append] using hsplits

theorem splits_minifyLines (limit : Nat) (lines : List Line) :
    Splits (minifyLines limit lines) ((lines.map normalised).filter hasCommands) := by
  apply minifyLines_invariant
    (P := fun packed => Splits packed ((lines.map normalised).filter hasCommands))
  · intro packed hpacked
    apply splits_pass
    simpa only [map_compact_eq_self hpacked.isCompact] using hpacked
  · apply splits_pass
    simpa only [map_normalised] using splits_normalised lines

/-! ## Runs of all lines -/

theorem Holds.isPackedFrom (h : Holds line (run.filter hasCommands)) : IsPackedFrom line run where
  commands := h.commands.trans (flatMap_filter_eq (fun _ => trimmedPieces_of_not_hasCommands) run)
  shares := by
    intro first others hrun place part hpart
    have hshares := h.shares
    simp only [hrun] at hshares
    exact hshares.mayShare hpart

/-- Lines without commands go with a run that they stand next to. -/
theorem Splits.exists_runs {inputs : List Line} (hne : lines ≠ [])
    (h : Splits lines (inputs.filter hasCommands)) :
    ∃ runs : List (List Line), inputs = runs.flatten ∧ List.Forall₂ IsPackedFrom lines runs := by
  generalize hspoken : inputs.filter hasCommands = spoken at h
  induction h generalizing inputs with
  | nil => exact absurd rfl hne
  | @cons line run lines spoken hline hrest ih =>
      cases hrest with
      | nil =>
          -- The last line takes all that is left.
          have hall : inputs.filter hasCommands = run := by simpa using hspoken
          refine ⟨[inputs], by simp, .cons ?_ .nil⟩
          exact Holds.isPackedFrom (hall ▸ hline)
      | cons hnext hothers =>
          rcases List.filter_eq_append_iff.1 hspoken with ⟨head, rest, rfl, hhead, hrest⟩
          rcases ih (List.cons_ne_nil _ _) hrest with ⟨runs, rfl, hruns⟩
          refine ⟨head :: runs, by simp, .cons ?_ hruns⟩
          exact Holds.isPackedFrom (hhead ▸ hline)

/-! ## Minified programs -/

theorem splits_cut_minify (limit : Nat) (content : String) :
    Splits (cut '\n' (minify limit content).toList)
      ((normalisedLines content).filter hasCommands) := by
  have hsplits : Splits (minified limit content) ((normalisedLines content).filter hasCommands) :=
    splits_minifyLines limit (cut '\n' content.toList)
  simp only [cut_minify]
  -- Without lines the text is empty, which is read as one line without commands.
  split
  · next h =>
      simp only [h] at hsplits
      have hempty : Holds [] [] := holds_self (isCompact_compact [])
      exact .cons hempty hsplits
  · exact hsplits

/-- Minification keeps each label at the start of a line there, and it removes line breaks only
before lines of joinable commands, behind a line that is only a label, and before the bare `EN` of a
run that begins with such a line. -/
theorem minify_packs_runs (limit : Nat) (content : String) :
    labelCommands (cut '\n' (minify limit content).toList) =
        labelCommands (normalisedLines content) ∧
      ∃ runs : List (List Line), normalisedLines content = runs.flatten ∧
        List.Forall₂ IsPackedFrom (cut '\n' (minify limit content).toList) runs := by
  constructor
  · exact labelCommands_minify limit content
  · exact (splits_cut_minify limit content).exists_runs (cut_ne_nil '\n' _)

end Program
end MotionController
