import MotionController.Proofs.Program.Pass

/-!
# Minified programs stay as they are

Each pass after the first either changes nothing or leaves fewer lines, so the passes come to rest
before their number runs out (`exists_settlesAfter`). Packed lines are read back from their text as
they were written (`minify_textOfLines`), also after the text was cleared of redundant semicolons
(`prepare_minify_newline`), so a minified program is its own minification.
-/

namespace MotionController
namespace Program

open Text

variable {limit fuel rounds : Nat} {lines others : List Line} {line : Line}

/-! ## The passes come to rest -/

/-- Each of the first `rounds` passes changes the lines, and the one after them does not. -/
structure SettlesAfter (limit : Nat) (lines : List Line) (rounds : Nat) : Prop where
  changes : ∀ j < rounds, (pass limit)^[j + 1] lines ≠ (pass limit)^[j] lines
  settled : (pass limit)^[rounds + 1] lines = (pass limit)^[rounds] lines

theorem settlesAfter_zero (h : pass limit lines = lines) : SettlesAfter limit lines 0 where
  changes := fun j hj => absurd hj (Nat.not_lt_zero j)
  settled := h

theorem SettlesAfter.succ (hchange : pass limit lines ≠ lines)
    (h : SettlesAfter limit (pass limit lines) rounds) : SettlesAfter limit lines (rounds + 1) where
  changes := by
    intro j hj
    cases j with
    | zero => exact hchange
    | succ j => exact h.changes j (Nat.lt_of_succ_lt_succ hj)
  settled := h.settled

theorem exists_settlesAfter (h : ∀ line ∈ lines, IsPacked line) :
    ∃ rounds ≤ lines.length, SettlesAfter limit lines rounds := by
  -- The number of lines goes down with every pass that changes something.
  induction hlength : lines.length using Nat.strong_induction_on generalizing lines with
  | _ length ih =>
      subst hlength
      by_cases hchange : pass limit lines = lines
      · exact ⟨0, Nat.zero_le _, settlesAfter_zero hchange⟩
      · have hfewer : (pass limit lines).length < lines.length :=
          (pass_eq_or_length_lt h).resolve_left hchange
        rcases ih _ hfewer (fun _ => isPacked_of_mem_pass) rfl with ⟨rounds, hrounds, hsettles⟩
        exact ⟨rounds + 1, Nat.lt_of_le_of_lt hrounds hfewer, hsettles.succ hchange⟩

theorem SettlesAfter.settle_eq (h : SettlesAfter limit lines rounds) (hfuel : rounds < fuel) :
    settle limit fuel lines = (pass limit)^[rounds] lines := by
  induction rounds generalizing fuel lines with
  | zero =>
      rcases Nat.exists_eq_succ_of_ne_zero (Nat.ne_of_gt hfuel) with ⟨fuel, rfl⟩
      have hsettled : pass limit lines = lines := h.settled
      simp [settle_succ, hsettled]
  | succ rounds ih =>
      rcases Nat.exists_eq_succ_of_ne_zero (Nat.ne_of_gt (Nat.zero_lt_of_lt hfuel)) with ⟨fuel, rfl⟩
      have hchange : pass limit lines ≠ lines := h.changes 0 (Nat.succ_pos rounds)
      have hrest : SettlesAfter limit (pass limit lines) rounds :=
        { changes := fun j hj => h.changes (j + 1) (Nat.succ_lt_succ hj), settled := h.settled }
      simpa [settle_succ, hchange] using ih hrest (Nat.lt_of_succ_lt_succ hfuel)

/-- The passes after the first come to rest within their number. -/
theorem minifyLines_eq_iterate (limit : Nat) (lines : List Line) :
    ∃ rounds ≤ (pass limit lines).length, SettlesAfter limit (pass limit lines) rounds ∧
      minifyLines limit lines = (pass limit)^[rounds] (pass limit lines) := by
  have hpacked : ∀ line ∈ pass limit lines, IsPacked line := fun _ => isPacked_of_mem_pass
  rcases exists_settlesAfter hpacked with ⟨rounds, hrounds, hsettles⟩
  exact ⟨rounds, hrounds, hsettles, hsettles.settle_eq (Nat.lt_succ_of_le hrounds)⟩

theorem pass_minifyLines (limit : Nat) (lines : List Line) :
    pass limit (minifyLines limit lines) = minifyLines limit lines := by
  rcases minifyLines_eq_iterate limit lines with ⟨rounds, _, hsettles, heq⟩
  have hsettled := hsettles.settled
  simp only [Function.iterate_succ_apply', ← heq] at hsettled
  exact hsettled

theorem minifyLines_eq_self (h : pass limit lines = lines) : minifyLines limit lines = lines := by
  simp [minifyLines, settle_succ, h]

/-! ## The text of packed lines -/

theorem minifyLines_congr (h : compactAll lines = compactAll others) :
    minifyLines limit lines = minifyLines limit others := by
  have hpass : pass limit lines = pass limit others := by
    simp [pass, h]
  simp [minifyLines, hpass]

theorem compactAll_append (lines others : List Line) :
    compactAll (lines ++ others) = compactAll lines ++ compactAll others := by
  simp [compactAll]

theorem compactAll_empty : compactAll [[]] = [] := rfl

/-- An empty last line makes no difference. -/
theorem minify_append_newline (limit : Nat) (text : String) :
    minify limit (text ++ "\n") = minify limit text := by
  have htext : (text ++ "\n").toList = text.toList ++ '\n' :: [] := by simp
  have hlines : compactAll (cut '\n' (text ++ "\n").toList) =
      compactAll (cut '\n' text.toList) := by
    rw [htext, cut_append_cons, cut_nil, compactAll_append, compactAll_empty, List.append_nil]
  exact congrArg textOfLines (minifyLines_congr hlines)

theorem minify_minify (limit : Nat) (content : String) :
    minify limit (minify limit content) = minify limit content := by
  have hself : minifyLines limit (minified limit content) = minified limit content :=
    minifyLines_eq_self (pass_minifyLines limit _)
  have hlines : minified limit (minify limit content) = minified limit content := by
    change minifyLines limit (cut '\n' (minify limit content).toList) = _
    simp only [cut_minify]
    -- Without lines the text is empty, which is read as one empty line.
    split
    · next hnil =>
        simp only [hnil]
        rfl
    · exact hself
  exact congrArg textOfLines hlines

/-- Nothing is left to clear from packed lines, each with its line end. -/
theorem collapseSemicolons_join_newline (h : ∀ line ∈ lines, IsPacked line) :
    collapseSemicolons (join '\n' lines ++ ['\n']) = join '\n' lines ++ ['\n'] := by
  have hend : ∀ {line rest}, IsPacked line → collapseSemicolons rest = rest →
      collapseSemicolons (line ++ '\n' :: rest) = line ++ '\n' :: rest := by
    intro line rest hline hrest
    have hnewline : collapseSemicolons ('\n' :: rest) = '\n' :: rest :=
      collapseSemicolons_cons_eq_self_iff.2 ⟨fun hc => absurd hc (by decide), hrest⟩
    refine collapsed_append hline.collapsed hnewline ?_
    intro c hc
    have hsolid := hline.trimmed.last c hc
    have hlast := hline.last
    exact ⟨hsolid, fun heq => hlast (heq ▸ hc)⟩
  induction lines with
  | nil => rfl
  | cons line rest ih =>
      have hline := h line List.mem_cons_self
      have hrest := ih fun other hother => h other (List.mem_cons_of_mem line hother)
      cases rest with
      | nil => exact hend hline rfl
      | cons next others =>
          have hassoc : join '\n' (line :: next :: others) ++ ['\n'] =
              line ++ '\n' :: (join '\n' (next :: others) ++ ['\n']) := by
            simp [join]
          simp only [hassoc]
          exact hend hline hrest

theorem prepare_minify_newline (limit : Nat) (content : String) :
    prepare (minify limit content ++ "\n") = minify limit content ++ "\n" := by
  have hpacked : ∀ line ∈ minified limit content, IsPacked line :=
    fun _ => isPacked_of_mem_minifyLines
  have htext : (minify limit content ++ "\n").toList =
      join '\n' (minified limit content) ++ ['\n'] := by
    simp [minify, textOfLines]
  unfold prepare
  rw [htext, collapseSemicolons_join_newline hpacked, ← htext, String.ofList_toList]

/-- The passes stop because one changed nothing, a minified program is its own minification, and so
is one that went through the whole pipeline, with its last line end. -/
theorem minify_idempotent (limit : Nat) (content : String) :
    (∃ rounds ≤ (pass limit (cut '\n' content.toList)).length,
      SettlesAfter limit (pass limit (cut '\n' content.toList)) rounds ∧
        minified limit content = (pass limit)^[rounds] (pass limit (cut '\n' content.toList))) ∧
      minify limit (minify limit content) = minify limit content ∧
        minify limit (prepare (minify limit (prepare content) ++ "\n")) =
          minify limit (prepare content) := by
  refine ⟨minifyLines_eq_iterate limit _, minify_minify limit content, ?_⟩
  calc
    minify limit (prepare (minify limit (prepare content) ++ "\n"))
        = minify limit (minify limit (prepare content) ++ "\n") := by
            simp only [prepare_minify_newline]
    _ = minify limit (minify limit (prepare content)) := minify_append_newline limit _
    _ = minify limit (prepare content) := minify_minify limit _

end Program
end MotionController
