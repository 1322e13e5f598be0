import MotionController.Proofs.Program.FixedPoint

/-!
# Minified programs are fully packed

A merge that packs nothing came upon no line that may go behind the one before it
(`isChain_of_merge_eq`), and a squash that packs nothing upon no label that may take the line after
it (`isChain_of_squash_eq`). The passes go on until neither packs anything
(`merge_and_squash_minifyLines`), so that no two neighbours are left in a minified program that
could be packed together (`minify_is_fully_packed`).
-/

namespace MotionController
namespace Program

open Text

variable {limit : Nat} {line next : Line} {lines rest : List Line}

/-! ## Merging that packs nothing -/

theorem isChain_of_mergeBehind_eq (h : mergeBehind limit line lines = line :: lines) :
    (line :: lines).IsChain fun line next => ¬(isJoinable next && fits limit line next) = true := by
  induction lines generalizing line with
  | nil => exact .singleton line
  | cons next rest ih =>
      unfold mergeBehind at h
      split at h
      · -- Packing the two lines would have left fewer.
        have hle := (packs_mergeBehind limit (line ++ ';' :: next) rest).length_le
        simp only [h, List.length_cons] at hle
        omega
      · next hapart => exact .cons_cons hapart (ih (List.cons.inj h).2)

theorem isChain_of_merge_eq (h : merge limit lines = lines) :
    lines.IsChain fun line next => ¬(isJoinable next && fits limit line next) = true := by
  cases lines with
  | nil => exact .nil
  | cons line rest => exact isChain_of_mergeBehind_eq h

/-! ## Squashing that packs nothing -/

theorem length_squash_lt (h : takesNext limit line next = true) (rest : List Line) :
    (squash limit (line :: next :: rest)).length < (line :: next :: rest).length := by
  cases rest with
  | nil => simp [squash, h]
  | cons after others =>
      by_cases hend : (after == endCommand && fits limit (line ++ ';' :: next) after) = true
      · have hle := (packs_squash limit others).length_le
        simp only [squash_routineEnd h hend, List.length_cons]
        omega
      · have hle := (packs_squash limit (after :: others)).length_le
        simp only [squash_behindLabel h hend, List.length_cons] at hle ⊢
        omega

theorem isChain_of_squash_eq (h : squash limit lines = lines) :
    lines.IsChain fun line next => ¬takesNext limit line next = true := by
  cases lines with
  | nil => exact .nil
  | cons line rest =>
      induction rest generalizing line with
      | nil => exact .singleton line
      | cons next rest ih =>
          by_cases htakes : takesNext limit line next = true
          · have hlt := length_squash_lt htakes rest
            simp only [h] at hlt
            omega
          · have hrest : line :: squash limit (next :: rest) = line :: next :: rest := by
              simpa only [squash, if_neg htakes] using h
            exact .cons_cons htakes (ih next (List.cons.inj hrest).2)

/-! ## Passes that change nothing -/

/-- A pass that leaves as many lines as there were has packed none. -/
theorem merge_and_squash_of_pass_eq (hpacked : ∀ line ∈ lines, IsPacked line)
    (hpass : pass limit lines = lines) :
    merge limit lines = lines ∧ squash limit lines = lines := by
  have htidy := length_tidyAll_le (squash limit (merge limit lines))
  have hsquash := packs_squash limit (merge limit lines)
  have hmerge := packs_merge limit lines
  simp only [pass, compactAll_eq_self hpacked] at hpass
  simp only [hpass] at htidy
  -- The lines become fewer with each of the two steps that packs any.
  have hmerge_eq : merge limit lines = lines := by
    refine hmerge.eq_or_length_lt.resolve_right fun hlt => ?_
    have hle := hsquash.length_le
    omega
  have hsquash_eq : squash limit (merge limit lines) = merge limit lines := by
    refine hsquash.eq_or_length_lt.resolve_right fun hlt => ?_
    have hle := hmerge.length_le
    omega
  exact ⟨hmerge_eq, by simpa only [hmerge_eq] using hsquash_eq⟩

theorem merge_and_squash_minifyLines (limit : Nat) (lines : List Line) :
    merge limit (minifyLines limit lines) = minifyLines limit lines ∧
      squash limit (minifyLines limit lines) = minifyLines limit lines :=
  merge_and_squash_of_pass_eq (fun _ => isPacked_of_mem_minifyLines) (pass_minifyLines limit lines)

/-! ## Minified programs -/

/-- Why two lines that would fit on one stay apart: the second is not joinable, and the first is not
only a label unless the second begins with one. -/
structure StaysApart (line next : Line) : Prop where
  not_joinable : isJoinable next = false
  label_behind : isLabelLine line = true → startsWithLabel next = true

theorem staysApart_of_fits (hjoin : ¬(isJoinable next && fits limit line next) = true)
    (htakes : ¬takesNext limit line next = true) (hfits : fits limit line next = true) :
    StaysApart line next where
  not_joinable := by simpa [hfits] using hjoin
  label_behind := by
    intro hlabel
    simpa [takesNext, hlabel, hfits] using htakes

/-- Neighbouring lines of a minified program that would stay under the limit together, counted in
bytes with a semicolon between them, may not be packed. -/
theorem minify_is_fully_packed (limit : Nat) (content : String) :
    (cut '\n' (minify limit content).toList).IsChain fun line next =>
      byteLength line + 1 + byteLength next < limit → StaysApart line next := by
  have hpacked := merge_and_squash_minifyLines limit (cut '\n' content.toList)
  simp only [cut_minify]
  split
  · exact .singleton []
  · apply List.isChain_iff_forall_rel_of_append_cons_cons.2
    intro line next before after hlines hlength
    have hjoin :=
      List.isChain_iff_forall_rel_of_append_cons_cons.1 (isChain_of_merge_eq hpacked.1) hlines
    have htakes :=
      List.isChain_iff_forall_rel_of_append_cons_cons.1 (isChain_of_squash_eq hpacked.2) hlines
    exact staysApart_of_fits hjoin htakes (decide_eq_true hlength)

end Program
end MotionController
