import Mathlib.Logic.Function.Iterate
import MotionController.Proofs.Program.Packing
import MotionController.Proofs.Program.ShortForm

/-!
# What a pass leaves

Every line that a pass leaves is in short form, tidy and not empty (`isPacked_of_mem_pass`). On such
lines a further pass has nothing to do but pack: it changes nothing or leaves fewer lines
(`pass_eq_or_length_lt`).
-/

namespace MotionController
namespace Program

open Text

variable {limit fuel : Nat} {lines : List Line} {line : Line}

/-- The line is in short form, tidy and not empty. -/
structure IsPacked (line : Line) : Prop extends IsCompact line, IsTidy line where
  ne_nil : line ≠ []

/-! ## One pass -/

theorem mem_filter_ne_nil {line : Line} :
    line ∈ lines.filter (fun line => !line.isEmpty) ↔ line ∈ lines ∧ line ≠ [] := by
  simp [List.mem_filter]

theorem filter_ne_nil_eq_self (h : ∀ line ∈ lines, line ≠ []) :
    lines.filter (fun line => !line.isEmpty) = lines := by
  apply List.filter_eq_self.2
  intro line hline
  simpa using h line hline

theorem packs_pass (limit : Nat) (lines : List Line) :
    Packs limit (compactAll lines) (squash limit (merge limit (compactAll lines))) :=
  Relation.ReflTransGen.trans (packs_merge limit _) (packs_squash limit _)

theorem isCompact_of_mem_compactAll (h : line ∈ compactAll lines) : IsCompact line := by
  rcases List.mem_map.1 (mem_filter_ne_nil.1 h).1 with ⟨source, _, rfl⟩
  exact isCompact_compact source

theorem isPacked_of_mem_pass (h : line ∈ pass limit lines) : IsPacked line := by
  rcases mem_filter_ne_nil.1 h with ⟨hmem, hne⟩
  rcases List.mem_map.1 hmem with ⟨packed, hpacked, rfl⟩
  -- Packing and tidying keep the short form that the pass begins with.
  have hpack := (packs_pass limit lines).forall_mem (fun _ _ => IsCompact.pack)
    fun _ => isCompact_of_mem_compactAll
  exact { (hpack packed hpacked).tidy, isTidy_tidy packed with ne_nil := hne }

theorem cutComment_sublist (line : Line) : List.Sublist (cutComment line) line := by
  have hcut : ∀ text : Line, List.Sublist (cutBehindCommands text) text := by
    intro text
    induction text with
    | nil => exact List.Sublist.refl []
    | cons c rest ih =>
        unfold cutBehindCommands
        split
        · exact List.nil_sublist _
        · exact ih.cons_cons c
  unfold cutComment
  split
  · exact List.nil_sublist _
  · exact hcut line

theorem compact_sublist (line : Line) : List.Sublist (compact line) line := by
  have htrim : ∀ text : Line, List.Sublist (trim text) text := by
    intro text
    have hprefix : trim text <+: trimStart text := List.rdropWhile_prefix isBlank _
    exact hprefix.sublist.trans (List.dropWhile_sublist isBlank)
  have htighten := tightenAfter_sublist false (cutComment line)
  exact (htrim _).trans (htighten.trans (cutComment_sublist line))

theorem tidy_sublist (line : Line) : List.Sublist (tidy line) line := by
  apply tidy_invariant (P := fun text => List.Sublist text line)
  · intro s t hdrop hs
    exact hdrop.sublist.trans hs
  · intro a ha
    exact (List.sublist_append_left a [';']).trans ha
  · exact List.Sublist.refl line

/-- No pass brings line breaks into lines. -/
theorem newline_not_mem_of_mem_pass (hlines : ∀ line ∈ lines, '\n' ∉ line)
    (h : line ∈ pass limit lines) : '\n' ∉ line := by
  rcases List.mem_map.1 (mem_filter_ne_nil.1 h).1 with ⟨packed, hpacked, rfl⟩
  have hcompact : ∀ line ∈ compactAll lines, '\n' ∉ line := by
    intro line hline hmem
    rcases List.mem_map.1 (mem_filter_ne_nil.1 hline).1 with ⟨source, hsource, rfl⟩
    exact hlines source hsource ((compact_sublist source).subset hmem)
  have hpack := (packs_pass limit lines).forall_mem (P := fun line => '\n' ∉ line) ?_ hcompact
  · exact fun hmem => hpack packed hpacked ((tidy_sublist packed).subset hmem)
  · intro line next hline hnext hmem
    simp only [List.mem_append, List.mem_cons] at hmem
    rcases hmem with hmem | hmem | hmem
    · exact hline hmem
    · exact absurd hmem (by decide)
    · exact hnext hmem

/-! ## A pass over packed lines -/

theorem map_compact_eq_self (h : ∀ line ∈ lines, IsCompact line) : lines.map compact = lines :=
  (List.map_congr_left fun line hline => (h line hline).compact_eq).trans (List.map_id lines)

theorem compactAll_eq_self (h : ∀ line ∈ lines, IsPacked line) : compactAll lines = lines := by
  have hmap : lines.map compact = lines :=
    map_compact_eq_self fun line hline => (h line hline).toIsCompact
  unfold compactAll
  simp only [hmap]
  exact filter_ne_nil_eq_self fun line hline => (h line hline).ne_nil

theorem tidyAll_eq_self (h : ∀ line ∈ lines, IsPacked line) : tidyAll lines = lines := by
  have hmap : lines.map tidy = lines := by
    refine (List.map_congr_left fun line hline => ?_).trans (List.map_id lines)
    exact (h line hline).tidy_eq
  unfold tidyAll
  simp only [hmap]
  exact filter_ne_nil_eq_self fun line hline => (h line hline).ne_nil

theorem length_tidyAll_le (lines : List Line) : (tidyAll lines).length ≤ lines.length := by
  have hfilter := List.length_filter_le (fun line : Line => !line.isEmpty) (lines.map tidy)
  simpa [tidyAll] using hfilter

theorem pass_eq_or_length_lt (h : ∀ line ∈ lines, IsPacked line) :
    pass limit lines = lines ∨ (pass limit lines).length < lines.length := by
  have hpacks := packs_pass limit lines
  have hcompact := compactAll_eq_self h
  have hle := length_tidyAll_le (squash limit (merge limit (compactAll lines)))
  -- Tidying only shortens the list, so a pass that packs anything leaves fewer lines.
  rcases hpacks.eq_or_length_lt with heq | hlt
  · left
    unfold pass
    rw [heq, hcompact]
    exact tidyAll_eq_self h
  · right
    simp only [hcompact] at hlt hle
    unfold pass
    simp only [hcompact]
    exact Nat.lt_of_le_of_lt hle hlt

/-! ## Repeated passes -/

theorem settle_succ (limit fuel : Nat) (lines : List Line) :
    settle limit (fuel + 1) lines =
      if pass limit lines = lines then lines else settle limit fuel (pass limit lines) := rfl

theorem settle_invariant {P : List Line → Prop} (hpass : ∀ lines, P lines → P (pass limit lines))
    (h : P lines) : P (settle limit fuel lines) := by
  induction fuel generalizing lines with
  | zero => exact h
  | succ fuel ih =>
      simp only [settle_succ]
      split
      · exact h
      · exact ih (hpass lines h)

theorem minifyLines_invariant {P : List Line → Prop}
    (hpass : ∀ lines, P lines → P (pass limit lines)) (h : P (pass limit lines)) :
    P (minifyLines limit lines) :=
  settle_invariant hpass h

theorem isPacked_of_mem_minifyLines (h : line ∈ minifyLines limit lines) : IsPacked line := by
  have hpacked : ∀ line ∈ minifyLines limit lines, IsPacked line :=
    minifyLines_invariant (P := fun lines => ∀ line ∈ lines, IsPacked line)
      (fun _ _ _ => isPacked_of_mem_pass) (fun _ => isPacked_of_mem_pass)
  exact hpacked line h

/-- From the first pass on the lines are packed, and a further pass need keep a property of packed
lines only. -/
theorem minifyLines_invariant_of_isPacked {P : List Line → Prop}
    (hpass : ∀ packed, (∀ line ∈ packed, IsPacked line) → P packed → P (pass limit packed))
    (h : P (pass limit lines)) : P (minifyLines limit lines) := by
  have hinvariant : (∀ line ∈ minifyLines limit lines, IsPacked line) ∧
      P (minifyLines limit lines) := by
    apply minifyLines_invariant
      (P := fun packed => (∀ line ∈ packed, IsPacked line) ∧ P packed)
    · rintro packed ⟨hpacked, hP⟩
      exact ⟨fun _ => isPacked_of_mem_pass, hpass packed hpacked hP⟩
    · exact ⟨fun _ => isPacked_of_mem_pass, h⟩
  exact hinvariant.2

theorem newline_not_mem_of_mem_minifyLines (hlines : ∀ line ∈ lines, '\n' ∉ line)
    (h : line ∈ minifyLines limit lines) : '\n' ∉ line := by
  have hfree : ∀ line ∈ minifyLines limit lines, '\n' ∉ line :=
    minifyLines_invariant (P := fun lines => ∀ line ∈ lines, '\n' ∉ line)
      (fun _ hlines _ => newline_not_mem_of_mem_pass hlines)
      (fun _ => newline_not_mem_of_mem_pass hlines)
  exact hfree line h

/-! ## The text of a minified program -/

theorem newline_not_mem_of_mem_minified {content : String} (h : line ∈ minified limit content) :
    '\n' ∉ line :=
  newline_not_mem_of_mem_minifyLines (fun _ => not_mem_of_mem_cut) h

/-- The lines of a minified text, but that the empty text has one empty line. -/
theorem cut_minify (limit : Nat) (content : String) :
    cut '\n' (minify limit content).toList =
      if minified limit content = [] then [[]] else minified limit content := by
  unfold minify textOfLines
  simp only [String.toList_ofList]
  split
  · next h => simp [h, join]
  · next h => exact cut_join (fun _ => newline_not_mem_of_mem_minified) h

end Program
end MotionController
