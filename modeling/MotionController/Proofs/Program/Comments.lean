import MotionController.Program.Line
import MotionController.Proofs.Text.Cutting
import MotionController.Proofs.Text.Trimming

/-!
# Laws of comments

Whether a text opens a comment shows in its first word, which neither the blanks around it nor what
stands behind an operator changes. The commands that a line keeps are those before the first one
that opens a comment (`cutComment_eq_join`); a line without comment stays as it is
(`CommentFree.cutComment_eq`).
-/

namespace MotionController
namespace Program

open Text

variable {a b w line : Line} {o : Char}

/-! ## Operators -/

theorem isBlank_of_isOperator (ho : isOperator o = true) : isBlank o = false := by
  have hall : (operators.all fun c => !isBlank c) = true := by decide
  simpa using List.all_eq_true.1 hall o (List.contains_iff_mem.1 ho)

theorem isOperator_semicolon : isOperator ';' = true := by
  decide

theorem isBlank_semicolon : isBlank ';' = false := by
  decide

theorem AllBlank.semicolon_not_mem (hw : AllBlank w) : ';' ∉ w :=
  hw.not_mem isBlank_semicolon

/-! ## The first word -/

/-- The character is neither blank nor an operator. -/
def isPlain (c : Char) : Bool :=
  !isBlank c && !isOperator c

/-- The plain characters that a text begins with, behind optional blanks. -/
def firstWord (text : Line) : Line :=
  (trimStart text).takeWhile isPlain

theorem isPlain_of_blank {c : Char} (hc : isBlank c = true) : isPlain c = false := by
  simp [isPlain, hc]

theorem isPlain_of_operator {c : Char} (hc : isOperator c = true) : isPlain c = false := by
  simp [isPlain, hc]

theorem firstWord_of_allBlank (hw : AllBlank w) : firstWord w = [] := by
  unfold firstWord
  simp only [trimStart_eq_nil_iff.2 hw, List.takeWhile_nil]

theorem firstWord_of_allBlank_append (hw : AllBlank w) : firstWord (w ++ a) = firstWord a := by
  unfold firstWord
  simp only [trimStart_of_allBlank_append hw]

/-- Nothing behind an operator belongs to the first word. -/
theorem firstWord_append_cons (ho : isOperator o = true) :
    firstWord (a ++ o :: b) = firstWord a := by
  -- A blank text leaves the operator first, and no word begins there.
  by_cases ha : trimStart a = []
  · have hblank := trimStart_eq_nil_iff.1 ha
    rw [firstWord_of_allBlank_append hblank, firstWord_of_allBlank hblank, firstWord,
      trimStart_cons_of_not_blank (isBlank_of_isOperator ho)]
    simp [isPlain_of_operator ho]
  · unfold firstWord
    rw [trimStart_append_of_ne_nil ha, takeWhile_append_cons_of_refused (isPlain_of_operator ho)]

theorem firstWord_append_of_allBlank (hw : AllBlank w) : firstWord (a ++ w) = firstWord a := by
  by_cases ha : trimStart a = []
  · have hblank := trimStart_eq_nil_iff.1 ha
    simp only [firstWord_of_allBlank hblank, firstWord_of_allBlank (hblank.append hw)]
  · unfold firstWord
    simp only [trimStart_append_of_ne_nil ha]
    cases w with
    | nil => rw [List.append_nil]
    | cons c rest =>
        have hc : isPlain c = false := isPlain_of_blank (hw c (List.mem_cons_self ..))
        exact takeWhile_append_cons_of_refused hc _ rest

theorem firstWord_trimEnd (a : Line) : firstWord (trimEnd a) = firstWord a := by
  rcases exists_trimEnd_append_allBlank a with ⟨w, hw, ha⟩
  calc
    firstWord (trimEnd a) = firstWord (trimEnd a ++ w) := (firstWord_append_of_allBlank hw).symm
    _ = firstWord a := by rw [← ha]

theorem isPrefixOf_takeWhile {marker : Line} (hmarker : marker.all isPlain = true) (text : Line) :
    marker.isPrefixOf (text.takeWhile isPlain) = marker.isPrefixOf text := by
  induction marker generalizing text with
  | nil => simp
  | cons c rest ih =>
      simp only [List.all_cons, Bool.and_eq_true] at hmarker
      -- A marker is plain, so the text is cut only where the two differ anyway.
      cases text with
      | nil => rfl
      | cons d others =>
          by_cases hd : c = d
          · subst hd
            simp [hmarker.1, ih hmarker.2]
          · have hbeq : (c == d) = false := beq_eq_false_iff_ne.2 hd
            cases hplain : isPlain d <;> simp [List.isPrefixOf_cons_cons, hplain, hbeq]

/-- Whether a text opens a comment shows in its first word. -/
theorem opensComment_eq_firstWord (text : Line) :
    opensComment text = commentMarkers.any fun marker => marker.isPrefixOf (firstWord text) := by
  have hplain : ∀ marker ∈ commentMarkers, marker.all isPlain = true := by decide
  unfold opensComment
  rw [Bool.eq_iff_iff, List.any_eq_true, List.any_eq_true]
  constructor
  · rintro ⟨marker, hmem, h⟩
    exact ⟨marker, hmem, by rwa [firstWord, isPrefixOf_takeWhile (hplain marker hmem)]⟩
  · rintro ⟨marker, hmem, h⟩
    exact ⟨marker, hmem, by rwa [firstWord, isPrefixOf_takeWhile (hplain marker hmem)] at h⟩

theorem opensComment_congr (h : firstWord a = firstWord b) : opensComment a = opensComment b := by
  simp only [opensComment_eq_firstWord, h]

theorem opensComment_of_allBlank (hw : AllBlank w) : opensComment w = false := by
  simp only [opensComment_eq_firstWord, firstWord_of_allBlank hw]
  decide

theorem opensComment_append_semicolon (a b : Line) :
    opensComment (a ++ ';' :: b) = opensComment a :=
  opensComment_congr (firstWord_append_cons isOperator_semicolon)

/-- Nothing behind a character of no marker counts. -/
theorem isPrefixOf_append_cons {c : Char} {marker : Line} (hc : c ∉ marker) :
    marker.isPrefixOf (a ++ c :: b) = marker.isPrefixOf a := by
  induction marker generalizing a with
  | nil => simp
  | cons d rest ih =>
      simp only [List.mem_cons, not_or] at hc
      cases a with
      | nil => simp [List.isPrefixOf_cons_cons, Ne.symm hc.1]
      | cons e others => simp [List.isPrefixOf_cons_cons, ih hc.2]

theorem opensComment_append_quote (a b : Line) :
    opensComment (a ++ '"' :: b) = opensComment a := by
  have hmarkers : ∀ marker ∈ commentMarkers, '"' ∉ marker := by decide
  have hquote : isBlank '"' = false := by decide
  simp only [opensComment, trimStart_append_cons hquote]
  rw [Bool.eq_iff_iff, List.any_eq_true, List.any_eq_true]
  refine exists_congr fun marker => and_congr_right fun hmem => ?_
  simp only [isPrefixOf_append_cons (hmarkers marker hmem)]

/-! ## Lines without comment -/

/-- No command of the line opens a comment. -/
def CommentFree (line : Line) : Prop :=
  ∀ command ∈ cut ';' line, opensComment command = false

instance : DecidablePred CommentFree := fun line =>
  inferInstanceAs (Decidable (∀ command ∈ cut ';' line, opensComment command = false))

theorem commentFree_of_not_mem (ha : ';' ∉ a) : CommentFree a ↔ opensComment a = false := by
  simp [CommentFree, cut_of_not_mem ha]

theorem commentFree_append_cons :
    CommentFree (a ++ ';' :: b) ↔ CommentFree a ∧ CommentFree b := by
  unfold CommentFree
  simp only [cut_append_cons]
  exact List.forall_mem_append

/-- No comment opens at the start of the line or behind a semicolon. -/
theorem commentFree_iff :
    CommentFree line ↔
      opensComment line = false ∧ ∀ a b, line = a ++ ';' :: b → opensComment b = false := by
  constructor
  · intro h
    have hopens : ∀ text, CommentFree text → opensComment text = false := by
      intro text htext
      cases text using piece_induction ';' with
      | piece a ha => exact (commentFree_of_not_mem ha).1 htext
      | append a b ha _ =>
          have hfirst := (commentFree_append_cons.1 htext).1
          simpa only [opensComment_append_semicolon] using (commentFree_of_not_mem ha).1 hfirst
    refine ⟨hopens line h, ?_⟩
    rintro a b rfl
    exact hopens b (commentFree_append_cons.1 h).2
  · rintro ⟨hstart, hbehind⟩
    induction line using piece_induction ';' with
    | piece a ha => exact (commentFree_of_not_mem ha).2 hstart
    | append a b ha ih =>
        simp only [opensComment_append_semicolon] at hstart
        have hrest : CommentFree b := by
          refine ih (hbehind a b rfl) ?_
          rintro u v rfl
          exact hbehind (a ++ ';' :: u) v (by simp)
        exact commentFree_append_cons.2 ⟨(commentFree_of_not_mem ha).2 hstart, hrest⟩

theorem commentFree_of_allBlank (hw : AllBlank w) : CommentFree w :=
  (commentFree_of_not_mem (AllBlank.semicolon_not_mem hw)).2 (opensComment_of_allBlank hw)

theorem commentFree_append_of_allBlank (hw : AllBlank w) :
    CommentFree (a ++ w) ↔ CommentFree a := by
  induction a using piece_induction ';' with
  | piece a ha =>
      have haw : ';' ∉ a ++ w := by
        simpa [ha] using AllBlank.semicolon_not_mem hw
      rw [commentFree_of_not_mem haw, commentFree_of_not_mem ha,
        opensComment_congr (firstWord_append_of_allBlank hw)]
  | append a b _ ih =>
      rw [List.append_assoc, List.cons_append, commentFree_append_cons, commentFree_append_cons, ih]

/-! ## The commands before a comment -/

/-- The commands of a line before the first one that opens a comment. -/
def keptCommands (line : Line) : List Line :=
  (cut ';' line).takeWhile fun command => !opensComment command

theorem keptCommands_of_not_mem (ha : ';' ∉ a) :
    keptCommands a = if opensComment a then [] else [a] := by
  cases h : opensComment a <;> simp [keptCommands, cut_of_not_mem ha, h]

theorem keptCommands_eq_cut (h : CommentFree line) : keptCommands line = cut ';' line := by
  apply List.takeWhile_eq_self_iff.2
  intro command hmem
  simp [h command hmem]

theorem keptCommands_append_cons :
    keptCommands (a ++ ';' :: b) =
      if CommentFree a then cut ';' a ++ keptCommands b else keptCommands a := by
  unfold keptCommands
  simp only [cut_append_cons, List.takeWhile_append]
  by_cases ha : CommentFree a
  · have hself := keptCommands_eq_cut ha
    unfold keptCommands at hself
    rw [if_pos ha, hself, if_pos rfl]
  -- With a comment in `a`, the kept commands end before `b`.
  · rw [if_neg ha, if_neg]
    intro hlength
    -- A prefix of full length is everything, and then no command opens a comment.
    have hself := (List.takeWhile_prefix fun command => !opensComment command).eq_of_length hlength
    apply ha
    intro command hmem
    simpa using List.takeWhile_eq_self_iff.1 hself command hmem

theorem keptCommands_eq_nil_iff : keptCommands line = [] ↔ opensComment line = true := by
  induction line using piece_induction ';' with
  | piece a ha => cases h : opensComment a <;> simp [keptCommands_of_not_mem ha, h]
  | append a b ha _ =>
      rw [opensComment_append_semicolon, keptCommands_append_cons, keptCommands_of_not_mem ha,
        cut_of_not_mem ha]
      cases h : opensComment a <;> simp [commentFree_of_not_mem ha, h]

theorem cutBehindCommands_of_not_mem (ha : ';' ∉ a) : cutBehindCommands a = a := by
  induction a with
  | nil => rfl
  | cons c rest ih =>
      simp only [List.mem_cons, not_or] at ha
      simp [cutBehindCommands, Ne.symm ha.1, ih ha.2]

theorem cutBehindCommands_append_cons (ha : ';' ∉ a) :
    cutBehindCommands (a ++ ';' :: b) =
      if opensComment b then a else a ++ ';' :: cutBehindCommands b := by
  induction a with
  | nil => simp [cutBehindCommands]
  | cons c rest ih =>
      simp only [List.mem_cons, not_or] at ha
      rw [List.cons_append, cutBehindCommands, if_neg (fun h => ha.1 h.1.symm), ih ha.2]
      split <;> rfl

theorem cutBehindCommands_eq_join (h : opensComment line = false) :
    cutBehindCommands line = join ';' (keptCommands line) := by
  induction line using piece_induction ';' with
  | piece a ha => simp [cutBehindCommands_of_not_mem ha, keptCommands_of_not_mem ha, h, join]
  | append a b ha ih =>
      simp only [opensComment_append_semicolon] at h
      rw [cutBehindCommands_append_cons ha, keptCommands_append_cons,
        if_pos ((commentFree_of_not_mem ha).2 h), cut_of_not_mem ha, List.singleton_append]
      -- The semicolon stays exactly when a command is kept behind it.
      cases hb : opensComment b with
      | true => simp [keptCommands_eq_nil_iff.2 hb, join]
      | false =>
          cases hkept : keptCommands b with
          | nil => simp [keptCommands_eq_nil_iff.1 hkept] at hb
          | cons first rest => simp [join, ih hb, hkept]

/-- What is left of a line are the commands before its first comment. -/
theorem cutComment_eq_join (line : Line) : cutComment line = join ';' (keptCommands line) := by
  unfold cutComment
  cases h : opensComment line with
  | true => simp [keptCommands_eq_nil_iff.2 h, join]
  | false => simpa using cutBehindCommands_eq_join h

theorem CommentFree.cutComment_eq (h : CommentFree line) : cutComment line = line := by
  simp only [cutComment_eq_join, keptCommands_eq_cut h, join_cut]

theorem semicolon_not_mem_of_mem_keptCommands {command : Line}
    (h : command ∈ keptCommands line) : ';' ∉ command :=
  not_mem_of_mem_cut ((List.takeWhile_subset _) h)

theorem cut_cutComment (h : keptCommands line ≠ []) :
    cut ';' (cutComment line) = keptCommands line := by
  simp only [cutComment_eq_join, cut_join (fun _ => semicolon_not_mem_of_mem_keptCommands) h]

theorem commentFree_cutComment (line : Line) : CommentFree (cutComment line) := by
  by_cases h : keptCommands line = []
  · simp only [cutComment_eq_join, h]
    exact commentFree_of_allBlank (fun c hc => absurd hc (List.not_mem_nil))
  · unfold CommentFree
    simp only [cut_cutComment h]
    intro command hmem
    simpa using List.mem_takeWhile_imp hmem

end Program
end MotionController
