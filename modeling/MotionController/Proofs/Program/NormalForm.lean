import MotionController.Proofs.Program.LineStarts

/-!
# Normal forms of lines

The normal form of a line has its comment cut off and the blanks next to operators and at the ends
dropped, and of its semicolons only those before commands are left: one between neighbours, and one
before the first command if the line began with one. It is what a pass makes of a line that it packs
with no other one (`tidy_compact_eq`).
-/

namespace MotionController
namespace Program

open Text

variable {a b line : Line}

/-! ## The view -/

/-- The line with one semicolon between neighbouring commands and none behind the last; one before
the first stays. -/
def closedUp (line : Line) : Line :=
  if line.head? = some ';' then
    (trimmedPieces line).flatMap fun command => ';' :: command
  else
    join ';' (trimmedPieces line)

/-- The line without its comment, the blanks next to operators and at the ends, and the semicolons
that stand before another one or at the end. -/
def normalForm (line : Line) : Line :=
  closedUp (normalised line)

example : normalForm " ;; x = 1 ; ; IF ( y ) ;; ' z".toList = ";x=1;IF(y)".toList := by
  decide +kernel

/-! ## Pieces in short form -/

/-- In short form the pieces of a line need no trimming. -/
theorem IsCompact.trimmedPieces_eq (h : IsCompact line) :
    trimmedPieces line = (cut ';' line).filter fun command => !command.isEmpty := by
  have hmap : (cut ';' line).map trim = cut ';' line := by
    calc
      (cut ';' line).map trim = (cut ';' line).map id :=
        List.map_congr_left fun p hp => (h.of_mem_cut hp).trimmed.trim_eq
      _ = cut ';' line := List.map_id _
  simp [trimmedPieces, hmap]

theorem IsCompact.trimmedPieces_of_not_mem (h : IsCompact line) (hline : ';' ∉ line)
    (hne : line ≠ []) : trimmedPieces line = [line] := by
  simp [h.trimmedPieces_eq, cut_of_not_mem hline, hne]

theorem trimmedPieces_semicolon_cons (b : Line) : trimmedPieces (';' :: b) = trimmedPieces b :=
  trimmedPieces_append_cons [] b

/-! ## Tidying a line in short form -/

theorem semicolonFollows_of_isTrimmed (h : IsTrimmed line) (hline : line.head? ≠ some ';') :
    semicolonFollows line = false := by
  cases line with
  | nil => rfl
  | cons c rest =>
      have hc : isBlank c = false := h.head c rfl
      simpa [semicolonFollows_cons_of_not_blank hc] using hline

theorem collapseSemicolons_append (ha : ';' ∉ a) (b : Line) :
    collapseSemicolons (a ++ b) = a ++ collapseSemicolons b := by
  induction a with
  | nil => rfl
  | cons c rest ih =>
      simp only [List.mem_cons, not_or] at ha
      simp [collapseSemicolons, Ne.symm ha.1, ih ha.2]

theorem collapseSemicolons_ne_nil (h : line ≠ []) : collapseSemicolons line ≠ [] := by
  induction line with
  | nil => exact absurd rfl h
  | cons c rest ih =>
      by_cases hdropped : c = ';' ∧ semicolonFollows rest = true
      · -- The semicolon that follows is still to come.
        rcases hdropped with ⟨rfl, hfollows⟩
        have hrest : rest ≠ [] := by
          intro hnil
          simp [hnil, semicolonFollows, trimStart] at hfollows
        simpa [collapseSemicolons_cons_of_dropped hfollows] using ih hrest
      · simp [collapseSemicolons_cons_of_kept hdropped]

theorem dropTrailingSeparator_append (hb : b ≠ []) :
    dropTrailingSeparator (a ++ b) = a ++ dropTrailingSeparator b := by
  simp only [dropTrailingSeparator, List.getLast?_append_of_ne_nil a hb]
  split
  · exact List.dropLast_append_of_ne_nil hb
  · rfl

/-- What stands before the first semicolon stays as it is. -/
theorem tidy_append (ha : ';' ∉ a) (hb : b ≠ []) : tidy (a ++ b) = a ++ tidy b := by
  simp only [tidy, collapseSemicolons_append ha]
  exact dropTrailingSeparator_append (collapseSemicolons_ne_nil hb)

theorem tidy_of_not_mem (ha : ';' ∉ a) : tidy a = a := by
  have hcollapsed : collapseSemicolons a = a := by
    simpa [collapseSemicolons] using collapseSemicolons_append ha []
  have hlast : a.getLast? ≠ some ';' := fun h => ha (List.mem_of_getLast? h)
  exact IsTidy.tidy_eq ⟨hcollapsed, hlast⟩

theorem tidy_semicolon_semicolon (b : Line) : tidy (';' :: ';' :: b) = tidy (';' :: b) := by
  have hfollows : semicolonFollows (';' :: b) = true :=
    semicolonFollows_cons_of_not_blank isBlank_semicolon
  simp only [tidy, collapseSemicolons_cons_of_dropped hfollows]

/-- A semicolon that none follows stays, unless it is the last character. -/
theorem tidy_semicolon_of_head (hb : IsTrimmed b) (hne : b ≠ []) (hhead : b.head? ≠ some ';') :
    tidy (';' :: b) = ';' :: tidy b := by
  have hfollows : semicolonFollows b = false := semicolonFollows_of_isTrimmed hb hhead
  have hkept : collapseSemicolons (';' :: b) = [';'] ++ collapseSemicolons b :=
    collapseSemicolons_cons_of_kept (by simp [hfollows])
  simp only [tidy, hkept]
  exact dropTrailingSeparator_append (collapseSemicolons_ne_nil hne)

theorem head?_ne_semicolon (ha : ';' ∉ a) (hne : a ≠ []) : (a ++ b).head? ≠ some ';' := by
  cases a with
  | nil => exact absurd rfl hne
  | cons c rest =>
      intro hc
      exact ha (by simp [Option.some.inj hc])

/-- Behind a semicolon each command keeps one semicolon before it. -/
theorem tidy_semicolon_cons (h : IsCompact b) :
    tidy (';' :: b) = (trimmedPieces b).flatMap fun command => ';' :: command := by
  induction b using piece_induction ';' with
  | piece a ha =>
      by_cases hne : a = []
      · subst hne
        decide
      · have hhead : a.head? ≠ some ';' := by
          simpa using head?_ne_semicolon (b := []) ha hne
        simp [tidy_semicolon_of_head h.trimmed hne hhead, tidy_of_not_mem ha,
          h.trimmedPieces_of_not_mem ha hne]
  | append a b ha ih =>
      have hb := ih h.of_append_cons.2
      by_cases hne : a = []
      · subst hne
        simpa [tidy_semicolon_semicolon, trimmedPieces_semicolon_cons] using hb
      · have htidy : tidy (';' :: (a ++ ';' :: b)) = ';' :: (a ++ tidy (';' :: b)) := by
          simp only [tidy_semicolon_of_head h.trimmed (by simp) (head?_ne_semicolon ha hne),
            tidy_append ha (List.cons_ne_nil ';' b)]
        simp [htidy, hb, trimmedPieces_append_cons,
          h.of_append_cons.1.trimmedPieces_of_not_mem ha hne]

theorem tidy_eq_closedUp (h : IsCompact line) : tidy line = closedUp line := by
  induction line using piece_induction ';' with
  | piece a ha =>
      have hhead : a.head? ≠ some ';' := fun hc => ha (List.mem_of_mem_head? hc)
      by_cases hne : a = []
      · subst hne
        decide
      · simp [closedUp, hhead, tidy_of_not_mem ha, h.trimmedPieces_of_not_mem ha hne, join]
  | append a b ha _ =>
      have hb := tidy_semicolon_cons h.of_append_cons.2
      by_cases hne : a = []
      · subst hne
        simp [closedUp, hb, trimmedPieces_semicolon_cons]
      · have hhead := head?_ne_semicolon (b := ';' :: b) ha hne
        simp only [closedUp, if_neg hhead, tidy_append ha (List.cons_ne_nil ';' b), hb]
        simp [trimmedPieces_append_cons, join_cons,
          h.of_append_cons.1.trimmedPieces_of_not_mem ha hne]

/-- A pass brings a line that it packs with no other one into its normal form. -/
theorem tidy_compact_eq (line : Line) : tidy (compact line) = normalForm line := by
  simp only [normalForm, normalised_eq_compact, tidy_eq_closedUp (isCompact_compact line)]

end Program
end MotionController
