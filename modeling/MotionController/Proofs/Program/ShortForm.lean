import MotionController.Proofs.Program.Semicolons
import MotionController.Proofs.Program.Tightening

/-!
# Lines in short form

The short form of a line has no comment, no blank next to an operator and no blank at its ends
(`isCompact_compact`), and a line of that kind is its own short form (`IsCompact.compact_eq`).
Putting such lines together with a semicolon and tidying them keeps them that way
(`IsCompact.pack`, `IsCompact.tidy`).
-/

namespace MotionController
namespace Program

open Text

variable {a b w line : Line}

/-- The line has no comment, no blank next to an operator and none at its ends. -/
structure IsCompact (line : Line) : Prop where
  commentFree : CommentFree line
  tight : IsTight line
  trimmed : IsTrimmed line

/-! ## Short forms -/

theorem commentFree_of_allBlank_append (hw : AllBlank w) (h : CommentFree (w ++ a)) :
    CommentFree a := by
  have hpiece : ∀ p, ';' ∉ p → CommentFree (w ++ p) → CommentFree p := by
    intro p hp hfree
    have hwp : ';' ∉ w ++ p := by
      simpa [hp] using AllBlank.semicolon_not_mem hw
    have hopens := (commentFree_of_not_mem hwp).1 hfree
    apply (commentFree_of_not_mem hp).2
    rwa [opensComment_congr (firstWord_of_allBlank_append hw)] at hopens
  cases a using piece_induction ';' with
  | piece a ha => exact hpiece a ha h
  | append a b ha _ =>
      simp only [← List.append_assoc] at h
      rcases commentFree_append_cons.1 h with ⟨hfirst, hrest⟩
      exact commentFree_append_cons.2 ⟨hpiece a ha hfirst, hrest⟩

theorem CommentFree.trim (h : CommentFree line) : CommentFree (trim line) := by
  rcases exists_allBlank_append_trimStart line with ⟨w, hw, hline⟩
  have hstart : CommentFree (trimStart line) := by
    apply commentFree_of_allBlank_append hw
    rwa [← hline]
  rcases exists_trimEnd_append_allBlank (trimStart line) with ⟨v, hv, hend⟩
  apply (commentFree_append_of_allBlank hv).1
  unfold Text.trim
  rwa [← hend]

theorem isCompact_compact (line : Line) : IsCompact (compact line) where
  commentFree := ((commentFree_cutComment line).tightenAfter false).trim
  tight := (isTight_tighten _).trim
  trimmed := isTrimmed_trim _

theorem IsCompact.compact_eq (h : IsCompact line) : compact line = line := by
  simp [compact, h.commentFree.cutComment_eq, h.tight.tighten_eq, h.trimmed.trim_eq]

/-! ## Packing and tidying -/

theorem IsCompact.pack (ha : IsCompact a) (hb : IsCompact b) : IsCompact (a ++ ';' :: b) where
  commentFree := commentFree_append_cons.2 ⟨ha.commentFree, hb.commentFree⟩
  tight := isTight_append_cons ha.tight hb.tight ha.trimmed.last hb.trimmed.head
  trimmed := by
    -- An empty side leaves the semicolon at that end, which is no blank.
    constructor
    · intro c hc
      cases a with
      | nil =>
          have hc : ';' = c := by simpa using hc
          exact hc ▸ isBlank_semicolon
      | cons d rest => exact ha.trimmed.head c (by simpa using hc)
    · intro c hc
      simp only [List.getLast?_append_of_ne_nil _ (List.cons_ne_nil _ _)] at hc
      cases b with
      | nil =>
          have hc : ';' = c := by simpa using hc
          exact hc ▸ isBlank_semicolon
      | cons d rest => exact hb.trimmed.last c (by simpa using hc)

/-- In a tight line only a semicolon right behind another one makes it redundant. -/
theorem IsTight.eq_nil_of_semicolons (h : IsTight (a ++ ';' :: (w ++ ';' :: b)))
    (hw : AllBlank w) : w = [] := by
  cases w with
  | nil => rfl
  | cons c rest =>
      have hmeet : MayMeet ';' c := (List.isChain_append_cons_cons.1 h).2.1
      exact absurd ⟨isOperator_semicolon, hw c (List.mem_cons_self ..)⟩ hmeet.2

theorem IsCompact.dropsSemicolon {t : Line} (h : IsCompact line) (hdrop : DropsSemicolon line t) :
    IsCompact t := by
  cases hdrop with
  | drop a w b hw =>
      -- The two semicolons are neighbours, so one takes the other's place in the chain.
      have hnil := h.tight.eq_nil_of_semicolons hw
      subst hnil
      rcases commentFree_append_cons.1 h.commentFree with ⟨hfirst, hrest⟩
      have hchain := List.isChain_append_cons_cons.1 h.tight
      constructor
      · exact commentFree_append_cons.2 ⟨hfirst, (commentFree_append_cons (a := []).1 hrest).2⟩
      · have hoverlap : List.IsChain MayMeet (a ++ [';'] ++ b) :=
          hchain.1.append_overlap hchain.2.2 (List.cons_ne_nil _ _)
        simpa [IsTight] using hoverlap
      · constructor
        · intro c hc
          apply h.trimmed.head c
          cases a <;> simpa using hc
        · intro c hc
          apply h.trimmed.last c
          simpa [List.getLast?_append] using hc

/-- The two sides of a semicolon are in short form on their own. -/
theorem IsCompact.of_append_cons (h : IsCompact (a ++ ';' :: b)) : IsCompact a ∧ IsCompact b := by
  rcases commentFree_append_cons.1 h.commentFree with ⟨hfreeA, hfreeB⟩
  have htightA : IsTight a := List.IsChain.left_of_append h.tight
  have htightB : IsTight (';' :: b) := List.IsChain.right_of_append h.tight
  constructor
  · refine ⟨hfreeA, htightA, ?_, ?_⟩
    · intro c hc
      apply h.trimmed.head c
      cases a with
      | nil => simp at hc
      | cons d rest => simpa using hc
    · -- A blank at the end of `a` would stand next to the semicolon.
      intro c hc
      have hmeet : MayMeet c ';' := (List.isChain_append.1 h.tight).2.2 c hc ';' rfl
      simpa [isOperator_semicolon] using hmeet.1
  · refine ⟨hfreeB, htightB.of_cons, ?_, ?_⟩
    · intro c hc
      have hmeet : MayMeet ';' c := List.IsChain.rel_head? htightB hc
      simpa [isOperator_semicolon] using hmeet.2
    · intro c hc
      apply h.trimmed.last c
      have hne : b ≠ [] := by
        intro hnil
        simp [hnil] at hc
      cases b with
      | nil => exact absurd rfl hne
      | cons d rest => simpa [List.getLast?_append] using hc

theorem IsCompact.of_mem_cut {p : Line} (h : IsCompact line) (hp : p ∈ cut ';' line) :
    IsCompact p := by
  induction line using piece_induction ';' with
  | piece a ha =>
      have hp : p = a := by simpa [cut_of_not_mem ha] using hp
      exact hp ▸ h
  | append a b ha ih =>
      simp only [cut_append_cons_of_not_mem ha, List.mem_cons] at hp
      rcases hp with rfl | hp
      · exact h.of_append_cons.1
      · exact ih h.of_append_cons.2 hp

theorem IsCompact.tidy (h : IsCompact line) : IsCompact (tidy line) :=
  tidy_invariant (fun _ _ hdrop hs => hs.dropsSemicolon hdrop) (fun _ ha => ha.of_append_cons.1) h

end Program
end MotionController
