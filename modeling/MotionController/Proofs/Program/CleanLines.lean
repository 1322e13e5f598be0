import Mathlib.Data.List.Flatten
import MotionController.Proofs.Program.FixedPoint
import MotionController.Proofs.Text.Ascii

/-!
# Clean lines

The lines of a minified program are clean: nothing of them is left to be cut off (`IsClean`). So
trimming leaves a minified program as it is (`trimLines_minify`). Counted with their line breaks the
lines never take more bytes after a pass than before it (`byteLength_withBreaks_pass_le`), since
packing only puts a semicolon in the place of a line break.
-/

namespace MotionController
namespace Program

open Text

variable {limit : Nat} {lines packed : List Line} {line : Line}

/-! ## The view -/

/-- The line is not empty and has no comment, no blank at its ends and none next to an operator. -/
structure IsClean (line : Line) : Prop where
  ne_nil : line ≠ []
  trimmed : IsTrimmed line
  tight : IsTight line
  /-- No comment marker stands at the start of the line or right behind a semicolon. -/
  unmarked : ∀ piece ∈ cut ';' line, ∀ marker ∈ commentMarkers, ¬marker <+: piece

/-! ## Packed lines -/

/-- Where no blanks come first, a comment is opened by what the text begins with. -/
theorem opensComment_of_prefix {marker piece : Line} (hpiece : IsTrimmed piece)
    (hmarker : marker ∈ commentMarkers) (hbegins : marker <+: piece) :
    opensComment piece = true := by
  unfold opensComment
  simp only [hpiece.trimStart_eq]
  exact List.any_eq_true.2 ⟨marker, hmarker, List.isPrefixOf_iff_prefix.2 hbegins⟩

theorem IsPacked.isClean (h : IsPacked line) : IsClean line where
  ne_nil := h.ne_nil
  trimmed := h.trimmed
  tight := h.tight
  unmarked := by
    intro piece hpiece marker hmarker hbegins
    have htrimmed : IsTrimmed piece := (h.toIsCompact.of_mem_cut hpiece).trimmed
    have hopens := opensComment_of_prefix htrimmed hmarker hbegins
    simp [h.commentFree piece hpiece] at hopens

theorem isClean_of_mem_cut_minify {content : String} (hne : minified limit content ≠ [])
    (h : line ∈ cut '\n' (minify limit content).toList) : IsClean line := by
  simp only [cut_minify, if_neg hne] at h
  exact (isPacked_of_mem_minifyLines h).isClean

/-- Trimming finds nothing to drop in clean lines. -/
theorem trimLines_eq_self {text : String}
    (h : ∀ line ∈ cut '\n' text.toList, IsTrimmed line ∧ line ≠ []) : trimLines text = text := by
  have htrim : (cut '\n' text.toList).map trim = cut '\n' text.toList :=
    (List.map_congr_left fun line hline => (h line hline).1.trim_eq).trans (List.map_id _)
  have hfilter := filter_ne_nil_eq_self fun line hline => (h line hline).2
  simp only [trimLines, htrim, hfilter, join_cut, String.ofList_toList]

theorem minify_of_minified_eq_nil {content : String} (h : minified limit content = []) :
    minify limit content = "" := by
  simp [minify, textOfLines, h, join]

theorem trimLines_minify (limit : Nat) (content : String) :
    trimLines (minify limit content) = minify limit content := by
  by_cases hnil : minified limit content = []
  · simp only [minify_of_minified_eq_nil hnil]
    decide
  · apply trimLines_eq_self
    intro line hline
    have hclean := isClean_of_mem_cut_minify hnil hline
    exact ⟨hclean.trimmed, hclean.ne_nil⟩

/-! ## Bytes -/

/-- The text of the lines, each with its line break. -/
def withBreaks (lines : List Line) : List Char :=
  lines.flatMap fun line => line ++ ['\n']

theorem withBreaks_cons (line : Line) (lines : List Line) :
    withBreaks (line :: lines) = line ++ '\n' :: withBreaks lines := by
  simp [withBreaks]

theorem join_append_newline (h : lines ≠ []) : join '\n' lines ++ ['\n'] = withBreaks lines := by
  induction lines with
  | nil => exact absurd rfl h
  | cons line rest ih =>
      cases rest with
      | nil => simp [join, withBreaks]
      | cons next others =>
          have hrest := ih (List.cons_ne_nil next others)
          simp [join, withBreaks_cons line, ← hrest]

theorem byteLength_join (h : lines ≠ []) :
    byteLength (join '\n' lines) + 1 = byteLength (withBreaks lines) := by
  simp only [← join_append_newline h, byteLength_append]
  rfl

/-- Lines that are shortened, some of them left out, leave out characters of the text. -/
theorem withBreaks_sublist {shorten : Line → Line} (h : ∀ line, List.Sublist (shorten line) line)
    (keep : Line → Bool) (lines : List Line) :
    List.Sublist (withBreaks ((lines.map shorten).filter keep)) (withBreaks lines) := by
  have hkept : List.Sublist (withBreaks ((lines.map shorten).filter keep))
      (withBreaks (lines.map shorten)) := List.filter_sublist.flatMap _
  have hshort : List.Sublist (withBreaks (lines.map shorten)) (withBreaks lines) := by
    simp only [withBreaks, List.flatMap_map]
    exact List.Sublist.flatMap_right lines fun line _ => (h line).append_right ['\n']
  exact hkept.trans hshort

/-- Packing puts a semicolon in the place of a line break. -/
theorem Packs.byteLength_withBreaks (h : Packs limit lines packed) :
    byteLength (withBreaks packed) = byteLength (withBreaks lines) := by
  induction h with
  | refl => rfl
  | tail _ hstep ih =>
      cases hstep with
      | pack before line next after _ =>
          have hsizes : ';'.utf8Size = '\n'.utf8Size := rfl
          simpa [withBreaks, hsizes] using ih

theorem byteLength_withBreaks_pass_le (limit : Nat) (lines : List Line) :
    byteLength (withBreaks (pass limit lines)) ≤ byteLength (withBreaks lines) := by
  have hpacks := packs_pass limit lines
  calc
    byteLength (withBreaks (pass limit lines))
        ≤ byteLength (withBreaks (squash limit (merge limit (compactAll lines)))) :=
          byteLength_le_of_sublist (withBreaks_sublist tidy_sublist _ _)
    _ = byteLength (withBreaks (compactAll lines)) := hpacks.byteLength_withBreaks
    _ ≤ byteLength (withBreaks lines) :=
          byteLength_le_of_sublist (withBreaks_sublist compact_sublist _ _)

theorem byteLength_withBreaks_minifyLines_le (limit : Nat) (lines : List Line) :
    byteLength (withBreaks (minifyLines limit lines)) ≤ byteLength (withBreaks lines) :=
  minifyLines_invariant
    (P := fun packed => byteLength (withBreaks packed) ≤ byteLength (withBreaks lines))
    (fun packed h => (byteLength_withBreaks_pass_le limit packed).trans h)
    (byteLength_withBreaks_pass_le limit lines)

theorem byteLength_toList (text : String) : byteLength text.toList = text.utf8ByteSize := by
  simp only [← length_utf8Bytes, length_utf8Bytes_toList]

theorem utf8ByteSize_minify_le (limit : Nat) (content : String) :
    (minify limit content).utf8ByteSize ≤ content.utf8ByteSize := by
  by_cases hnil : minified limit content = []
  · simp [minify_of_minified_eq_nil hnil]
  · have hafter := byteLength_join hnil
    have hbefore := byteLength_join (cut_ne_nil '\n' content.toList)
    have hle := byteLength_withBreaks_minifyLines_le limit (cut '\n' content.toList)
    simp only [join_cut, byteLength_toList] at hbefore
    have hsize : byteLength (join '\n' (minified limit content)) =
        (minify limit content).utf8ByteSize := by
      simp only [← byteLength_toList, minify, textOfLines, String.toList_ofList]
    -- Both texts are one line break short of their lines.
    simp only [minified] at hafter hsize
    omega

/-! ## Numbers of lines -/

theorem length_compactAll_le (lines : List Line) : (compactAll lines).length ≤ lines.length := by
  simpa [compactAll] using
    List.length_filter_le (fun line : Line => !line.isEmpty) (lines.map compact)

theorem length_pass_le (limit : Nat) (lines : List Line) :
    (pass limit lines).length ≤ (compactAll lines).length :=
  (length_tidyAll_le _).trans (packs_pass limit lines).length_le

/-- Lines that are empty once they are compact do not count. -/
theorem length_minifyLines_le (limit : Nat) (lines : List Line) :
    (minifyLines limit lines).length ≤ (compactAll lines).length :=
  minifyLines_invariant (P := fun packed => packed.length ≤ (compactAll lines).length)
    (fun packed h => ((length_pass_le limit packed).trans (length_compactAll_le packed)).trans h)
    (length_pass_le limit lines)

theorem length_cut_minify_le (limit : Nat) (content : String) :
    (cut '\n' (minify limit content).toList).length ≤ (cut '\n' content.toList).length := by
  simp only [cut_minify]
  split
  · exact List.length_pos_iff.2 (cut_ne_nil '\n' content.toList)
  · exact (length_minifyLines_le limit _).trans (length_compactAll_le _)

theorem length_compactAll_cut_le (text : List Char) :
    (compactAll (cut '\n' text)).length ≤ (Text.lines text).length := by
  unfold Text.lines
  dsimp only
  split
  · next hlast =>
      -- The empty piece behind a final line break is left out on both sides.
      rcases List.getLast?_eq_some_iff.1 hlast with ⟨front, hfront⟩
      rw [hfront, compactAll_append, compactAll_empty, List.append_nil, List.dropLast_concat]
      exact length_compactAll_le front
  · exact length_compactAll_le _

theorem length_lines_minify_le (limit : Nat) (content : String) :
    (Text.lines (minify limit content).toList).length ≤ (Text.lines content.toList).length := by
  by_cases hnil : minified limit content = []
  · simp [minify_of_minified_eq_nil hnil, Text.lines]
  · calc
      (Text.lines (minify limit content).toList).length
          ≤ (cut '\n' (minify limit content).toList).length := by
        unfold Text.lines
        dsimp only
        split
        · simp
        · exact Nat.le_refl _
      _ = (minified limit content).length := by rw [cut_minify, if_neg hnil]
      _ ≤ (compactAll (cut '\n' content.toList)).length := length_minifyLines_le limit _
      _ ≤ (Text.lines content.toList).length := length_compactAll_cut_le _

/-! ## Minified programs -/

/-- The lines of a minified program are clean, unless nothing is left of it. Trimming changes
nothing, and there are no more bytes and no more lines than before, whether or not a line break at
the end begins one more line. -/
theorem minify_cleans_lines (limit : Nat) (content : String) :
    (minify limit content = "" ∨ ∀ line ∈ cut '\n' (minify limit content).toList, IsClean line) ∧
      trimLines (minify limit content) = minify limit content ∧
        (minify limit content).utf8ByteSize ≤ content.utf8ByteSize ∧
          (cut '\n' (minify limit content).toList).length ≤ (cut '\n' content.toList).length ∧
            (Text.lines (minify limit content).toList).length ≤
              (Text.lines content.toList).length := by
  refine ⟨?_, trimLines_minify limit content, utf8ByteSize_minify_le limit content,
    length_cut_minify_le limit content, length_lines_minify_le limit content⟩
  by_cases hnil : minified limit content = []
  · exact .inl (minify_of_minified_eq_nil hnil)
  · exact .inr fun line hline => isClean_of_mem_cut_minify hnil hline

end Program
end MotionController
