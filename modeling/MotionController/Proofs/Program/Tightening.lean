import Mathlib.Data.List.Chain
import MotionController.Proofs.Program.Comments

/-!
# Laws of tightening

A line is tight when no blank meets an operator. Tightening makes a line tight
(`isTight_tighten`), leaves a tight line as it is (`IsTight.tighten_eq`), drops blanks only
(`filter_solid_tightenAfter`), and works on both sides of an operator apart
(`tightenAfter_append_cons`). So the commands of a tightened line are the tightened commands of the
line (`map_trim_cut_tighten`), and no comment comes into being (`CommentFree.tighten`).
-/

namespace MotionController
namespace Program

open Text

variable {a b w text line : Line} {c o : Char} {behind : Bool}

/-! ## What comes next -/

theorem operatorFollows_of_allBlank (hw : AllBlank w) : operatorFollows w = false := by
  simp [operatorFollows, trimStart_eq_nil_iff.2 hw]

theorem operatorFollows_cons_of_blank (hc : isBlank c = true) :
    operatorFollows (c :: a) = operatorFollows a := by
  unfold operatorFollows
  simp only [trimStart_cons_of_blank hc]

theorem operatorFollows_cons_of_not_blank (hc : isBlank c = false) :
    operatorFollows (c :: a) = isOperator c := by
  unfold operatorFollows
  simp only [trimStart_cons_of_not_blank hc]
  rfl

theorem operatorFollows_of_allBlank_append (hw : AllBlank w) :
    operatorFollows (w ++ a) = operatorFollows a := by
  unfold operatorFollows
  simp only [trimStart_of_allBlank_append hw]

theorem operatorFollows_append (ha : ¬AllBlank a) :
    operatorFollows (a ++ b) = operatorFollows a := by
  have hne : trimStart a ≠ [] := fun h => ha (trimStart_eq_nil_iff.1 h)
  unfold operatorFollows
  simp only [trimStart_append_of_ne_nil hne, List.head?_append_of_ne_nil _ hne]

/-! ## What tightening keeps -/

theorem tightenAfter_cons_of_not_blank (hc : isBlank c = false) :
    tightenAfter behind (c :: a) = c :: tightenAfter (isOperator c) a := by
  simp [tightenAfter, hc]

theorem tightenAfter_sublist (behind : Bool) (text : Line) :
    List.Sublist (tightenAfter behind text) text := by
  induction text generalizing behind with
  | nil => exact List.Sublist.refl []
  | cons c rest ih =>
      -- A dropped blank, a kept blank, and any other character.
      unfold tightenAfter
      split
      · split
        · exact (ih behind).trans (List.sublist_cons_self c rest)
        · exact (ih false).cons_cons c
      · exact (ih _).cons_cons c

/-- Only blanks are dropped. -/
theorem filter_solid_tightenAfter (behind : Bool) (text : Line) :
    (tightenAfter behind text).filter (fun c => !isBlank c) =
      text.filter fun c => !isBlank c := by
  induction text generalizing behind with
  | nil => rfl
  | cons c rest ih =>
      cases hc : isBlank c with
      | true =>
          simp only [tightenAfter, hc, if_true]
          split <;> simp [hc, ih]
      | false =>
          simp only [tightenAfter_cons_of_not_blank hc]
          simp [hc, ih]

theorem allBlank_tightenAfter_iff : AllBlank (tightenAfter behind text) ↔ AllBlank text := by
  have hfilter : ∀ l : Line, AllBlank l ↔ l.filter (fun c => !isBlank c) = [] := by
    intro l
    simp [AllBlank]
  rw [hfilter, hfilter, filter_solid_tightenAfter]

theorem operatorFollows_tightenAfter (behind : Bool) (text : Line) :
    operatorFollows (tightenAfter behind text) = operatorFollows text := by
  induction text generalizing behind with
  | nil => rfl
  | cons c rest ih =>
      cases hc : isBlank c with
      | true =>
          simp only [tightenAfter, hc, if_true]
          split
          · simp only [ih, operatorFollows_cons_of_blank hc]
          · rw [operatorFollows_cons_of_blank hc, operatorFollows_cons_of_blank hc, ih]
      | false =>
          rw [tightenAfter_cons_of_not_blank hc, operatorFollows_cons_of_not_blank hc,
            operatorFollows_cons_of_not_blank hc]

/-- Behind an operator the blanks that a text begins with go as well. -/
theorem tightenAfter_true (text : Line) : tightenAfter true text = trimStart (tighten text) := by
  unfold tighten
  induction text with
  | nil => rfl
  | cons c rest ih =>
      cases hc : isBlank c with
      | true =>
          simp only [tightenAfter, hc, if_true, Bool.true_or, Bool.false_or]
          split
          · exact ih
          · simp only [trimStart_cons_of_blank hc]
            exact ih
      | false =>
          rw [tightenAfter_cons_of_not_blank hc, tightenAfter_cons_of_not_blank hc,
            trimStart_cons_of_not_blank hc]

/-- The two sides of an operator are tightened apart. -/
theorem tightenAfter_append_cons (ho : isOperator o = true) :
    tightenAfter behind (a ++ o :: b) =
      trimEnd (tightenAfter behind a) ++ o :: tightenAfter true b := by
  have hblank := isBlank_of_isOperator ho
  -- By induction on the text before the operator, whose last blanks are those to go.
  induction a generalizing behind with
  | nil => simp [tightenAfter, hblank, ho]
  | cons c rest ih =>
      simp only [List.cons_append]
      cases hc : isBlank c with
      | false =>
          rw [tightenAfter_cons_of_not_blank hc, tightenAfter_cons_of_not_blank hc,
            trimEnd_cons_of_not_blank hc, ih, List.cons_append]
      | true =>
          simp only [tightenAfter, hc, if_true]
          by_cases hrest : AllBlank rest
          · -- Nothing but blanks up to the operator: all of them go.
            have hempty : ∀ flag, trimEnd (tightenAfter flag rest) = [] := fun flag =>
              trimEnd_eq_nil_iff.2 (allBlank_tightenAfter_iff.2 hrest)
            have hcons : trimEnd (c :: tightenAfter false rest) = [] := by
              apply trimEnd_eq_nil_iff.2
              intro d hd
              rcases List.mem_cons.1 hd with rfl | hd
              · exact hc
              · exact allBlank_tightenAfter_iff.2 hrest d hd
            have hfollows : operatorFollows (rest ++ o :: b) = true := by
              rw [operatorFollows_of_allBlank_append hrest,
                operatorFollows_cons_of_not_blank hblank, ho]
            rw [hfollows, Bool.or_true, if_pos rfl, ih, hempty]
            split
            · simp only [hempty]
            · simp only [hcons]
          -- Otherwise the next operator stands within `rest`, and what follows it does not count.
          · have hne : trimEnd (tightenAfter false rest) ≠ [] := fun h =>
              hrest (allBlank_tightenAfter_iff.1 (trimEnd_eq_nil_iff.1 h))
            simp only [operatorFollows_append hrest]
            split
            · exact ih
            · simp only [ih, trimEnd_cons_of_ne_nil hne, List.cons_append]

/-- A plain character keeps the blanks on either side of it. -/
theorem tightenAfter_append_of_plain (hc : isPlain c = true) :
    tightenAfter behind (a ++ c :: b) = tightenAfter behind a ++ c :: tighten b := by
  simp only [isPlain, Bool.and_eq_true, Bool.not_eq_true'] at hc
  rcases hc with ⟨hsolid, hoperator⟩
  induction a generalizing behind with
  | nil => simp [tightenAfter_cons_of_not_blank hsolid, hoperator, tightenAfter, tighten]
  | cons d rest ih =>
      -- No operator comes nearer to the blanks before the character.
      have hfollows : operatorFollows (rest ++ c :: b) = operatorFollows rest := by
        by_cases hrest : AllBlank rest
        · simp [operatorFollows_of_allBlank_append hrest, operatorFollows_of_allBlank hrest,
            operatorFollows_cons_of_not_blank hsolid, hoperator]
        · exact operatorFollows_append hrest
      simp only [List.cons_append, tightenAfter, hfollows, ih]
      split
      · split <;> rfl
      · rfl

/-! ## Commands and comments of a tightened line -/

theorem semicolon_not_mem_tightenAfter (ha : ';' ∉ a) : ';' ∉ tightenAfter behind a :=
  fun h => ha ((tightenAfter_sublist behind a).subset h)

theorem trim_tightenAfter (behind : Bool) (text : Line) :
    trim (tightenAfter behind text) = trim (tighten text) := by
  cases behind with
  | false => rfl
  | true => rw [tightenAfter_true, trim_trimStart]

theorem map_trim_cut_tightenAfter (behind : Bool) (text : Line) :
    (cut ';' (tightenAfter behind text)).map trim =
      (cut ';' text).map fun command => trim (tighten command) := by
  induction text using piece_induction ';' generalizing behind with
  | piece a ha =>
      simp only [cut_of_not_mem ha, cut_of_not_mem (semicolon_not_mem_tightenAfter ha)]
      simp [trim_tightenAfter]
  | append a b ha ih =>
      have hpiece : ';' ∉ trimEnd (tightenAfter behind a) := fun h =>
        semicolon_not_mem_tightenAfter ha ((List.rdropWhile_prefix _ _).subset h)
      rw [tightenAfter_append_cons isOperator_semicolon, cut_append_cons_of_not_mem hpiece,
        cut_append_cons_of_not_mem ha, List.map_cons, List.map_cons, ih, trim_trimEnd,
        trim_tightenAfter]

/-- The commands of a tightened line are the tightened commands of the line. -/
theorem map_trim_cut_tighten (line : Line) :
    (cut ';' (tighten line)).map trim = (cut ';' line).map fun command => trim (tighten command) :=
  map_trim_cut_tightenAfter false line

theorem trimEnd_tightenAfter_append_of_allBlank (hw : AllBlank w) :
    trimEnd (tightenAfter behind (a ++ w)) = trimEnd (tightenAfter behind a) := by
  induction a generalizing behind with
  | nil => simpa [tightenAfter] using trimEnd_eq_nil_iff.2 (allBlank_tightenAfter_iff.2 hw)
  | cons c rest ih =>
      cases hc : isBlank c with
      | false =>
          simpa [tightenAfter_cons_of_not_blank hc] using trimEnd_cons_congr ih
      | true =>
          -- Blanks at the end bring no operator near.
          have hfollows : operatorFollows (rest ++ w) = operatorFollows rest := by
            by_cases hrest : AllBlank rest
            · simp [operatorFollows_of_allBlank_append hrest, operatorFollows_of_allBlank hrest,
                operatorFollows_of_allBlank hw]
            · exact operatorFollows_append hrest
          simp only [List.cons_append, tightenAfter, hc, if_true, hfollows]
          split
          · exact ih
          · exact trimEnd_cons_congr ih

theorem trim_tighten_append_of_allBlank (hw : AllBlank w) :
    trim (tighten (a ++ w)) = trim (tighten a) := by
  have hend : trimEnd (tighten (a ++ w)) = trimEnd (tighten a) :=
    trimEnd_tightenAfter_append_of_allBlank hw
  calc
    trim (tighten (a ++ w)) = trim (trimEnd (tighten (a ++ w))) := (trim_trimEnd _).symm
    _ = trim (trimEnd (tighten a)) := by rw [hend]
    _ = trim (tighten a) := trim_trimEnd _

theorem takeWhile_isPlain_tightenAfter (text : Line) :
    (tightenAfter false text).takeWhile isPlain = text.takeWhile isPlain := by
  induction text with
  | nil => rfl
  | cons c rest ih =>
      cases hc : isBlank c with
      | true =>
          have hplain := isPlain_of_blank hc
          simp only [tightenAfter, hc, if_true, Bool.false_or]
          split
          · next hfollows =>
              -- An operator takes the place of the blanks before it.
              rcases exists_allBlank_append_trimStart rest with ⟨w, hw, hrest⟩
              cases hstart : trimStart rest with
              | nil => simp [operatorFollows, hstart] at hfollows
              | cons o others =>
                  have ho : isOperator o = true := by
                    simpa [operatorFollows, hstart] using hfollows
                  have hempty : trimEnd (tightenAfter false w) = [] :=
                    trimEnd_eq_nil_iff.2 (allBlank_tightenAfter_iff.2 hw)
                  rw [hrest, hstart, tightenAfter_append_cons ho, hempty]
                  simp [isPlain_of_operator ho, hplain]
          · simp [hplain]
      | false =>
          cases ho : isOperator c with
          | true => simp [tightenAfter_cons_of_not_blank hc, isPlain_of_operator ho]
          | false =>
              have hplain : isPlain c = true := by simp [isPlain, hc, ho]
              simp [tightenAfter_cons_of_not_blank hc, ho, hplain, ih]

theorem firstWord_tightenAfter (behind : Bool) (text : Line) :
    firstWord (tightenAfter behind text) = firstWord text := by
  induction text generalizing behind with
  | nil => rfl
  | cons c rest ih =>
      cases hc : isBlank c with
      | true =>
          have hskip : ∀ l, firstWord (c :: l) = firstWord l := by
            intro l
            simp [firstWord, trimStart_cons_of_blank hc]
          simp only [tightenAfter, hc, if_true, hskip]
          split
          · exact ih behind
          · simp only [hskip, ih]
      | false =>
          cases ho : isOperator c with
          | true =>
              simp [firstWord, tightenAfter_cons_of_not_blank hc, trimStart_cons_of_not_blank hc,
                isPlain_of_operator ho]
          | false =>
              have hplain : isPlain c = true := by simp [isPlain, hc, ho]
              simp [firstWord, tightenAfter_cons_of_not_blank hc, trimStart_cons_of_not_blank hc,
                hplain, ho, takeWhile_isPlain_tightenAfter]

/-- Tightening brings no comment into being. -/
theorem CommentFree.tightenAfter (h : CommentFree text) (behind : Bool) :
    CommentFree (tightenAfter behind text) := by
  induction text using piece_induction ';' generalizing behind with
  | piece a ha =>
      have hopens : opensComment a = false := (commentFree_of_not_mem ha).1 h
      apply (commentFree_of_not_mem (semicolon_not_mem_tightenAfter ha)).2
      simpa [opensComment_congr (firstWord_tightenAfter behind a)] using hopens
  | append a b ha ih =>
      rcases commentFree_append_cons.1 h with ⟨hfirst, hrest⟩
      have hpiece : ';' ∉ trimEnd (Program.tightenAfter behind a) := fun hmem =>
        semicolon_not_mem_tightenAfter ha ((List.rdropWhile_prefix _ _).subset hmem)
      have hword : firstWord (trimEnd (Program.tightenAfter behind a)) = firstWord a := by
        simp only [firstWord_trimEnd, firstWord_tightenAfter]
      have hopens : opensComment a = false := (commentFree_of_not_mem ha).1 hfirst
      simp only [tightenAfter_append_cons isOperator_semicolon]
      refine commentFree_append_cons.2 ⟨?_, ih hrest true⟩
      apply (commentFree_of_not_mem hpiece).2
      simpa [opensComment_congr hword] using hopens

/-! ## Tight lines -/

/-- Two characters may stand side by side in a tight line: they are no blank and operator. -/
def MayMeet (c d : Char) : Prop :=
  ¬(isBlank c = true ∧ isOperator d = true) ∧ ¬(isOperator c = true ∧ isBlank d = true)

/-- No blank stands next to an operator. -/
def IsTight (line : Line) : Prop :=
  line.IsChain MayMeet

instance : DecidableRel MayMeet := fun c d =>
  inferInstanceAs (Decidable (¬(isBlank c = true ∧ isOperator d = true) ∧
    ¬(isOperator c = true ∧ isBlank d = true)))

instance : DecidablePred IsTight := fun line =>
  inferInstanceAs (Decidable (line.IsChain MayMeet))

theorem IsTight.of_cons (h : IsTight (c :: a)) : IsTight a :=
  List.IsChain.tail h

theorem isTight_append_cons (ha : IsTight a) (hb : IsTight b)
    (hlast : ∀ c ∈ a.getLast?, isBlank c = false) (hhead : ∀ c ∈ b.head?, isBlank c = false) :
    IsTight (a ++ ';' :: b) := by
  -- Only the neighbours of the new semicolon are to be looked at.
  have hb' : IsTight (';' :: b) := by
    refine List.IsChain.cons hb ?_
    intro d hd
    exact ⟨fun h => by simp [isBlank_semicolon] at h, fun h => by simp [hhead d hd] at h⟩
  refine List.IsChain.append ha hb' ?_
  intro c hc d hd
  have hd : d = ';' := by simpa using hd.symm
  subst hd
  exact ⟨fun h => by simp [hlast c hc] at h, fun h => by simp [isBlank_semicolon] at h⟩

theorem isTight_tightenAfter (behind : Bool) (text : Line) :
    IsTight (tightenAfter behind text) ∧
      (behind = true → ∀ c ∈ (tightenAfter behind text).head?, isBlank c = false) := by
  induction text generalizing behind with
  | nil => exact ⟨List.IsChain.nil, fun _ c hc => by simp [tightenAfter] at hc⟩
  | cons c rest ih =>
      cases hc : isBlank c with
      | true =>
          simp only [tightenAfter, hc, if_true]
          split
          · exact ih behind
          · next hkept =>
              simp only [Bool.or_eq_true, not_or, Bool.not_eq_true] at hkept
              refine ⟨List.IsChain.cons (ih false).1 ?_, fun h => by simp [hkept.1] at h⟩
              intro d hd
              refine ⟨?_, fun h => ?_⟩
              · -- An operator at the head would have followed in the text as well.
                rintro ⟨-, ho⟩
                rcases List.head?_eq_some_iff.1 (Option.mem_def.1 hd) with ⟨others, hothers⟩
                have hfollows := operatorFollows_tightenAfter false rest
                rw [hothers, operatorFollows_cons_of_not_blank (isBlank_of_isOperator ho), ho,
                  hkept.2] at hfollows
                simp at hfollows
              · simp [isBlank_of_isOperator h.1] at hc
      | false =>
          simp only [tightenAfter_cons_of_not_blank hc]
          refine ⟨List.IsChain.cons (ih _).1 ?_, ?_⟩
          · intro d hd
            refine ⟨fun h => by simp [hc] at h, ?_⟩
            rintro ⟨ho, hd'⟩
            simp [(ih _).2 ho d hd] at hd'
          · intro _ d hd
            have hd : d = c := by simpa using hd.symm
            simp only [hd, hc]

theorem isTight_tighten (line : Line) : IsTight (tighten line) :=
  (isTight_tightenAfter false line).1

theorem IsTight.operatorFollows_eq_false (h : IsTight (c :: a)) (hc : isBlank c = true) :
    operatorFollows a = false := by
  induction a generalizing c with
  | nil => rfl
  | cons d rest ih =>
      have hmeet : MayMeet c d := List.IsChain.rel_head? h rfl
      cases hd : isBlank d with
      | true => simpa [operatorFollows_cons_of_blank hd] using ih h.of_cons hd
      | false =>
          have ho : ¬isOperator d = true := fun ho => hmeet.1 ⟨hc, ho⟩
          simpa [operatorFollows_cons_of_not_blank hd] using ho

theorem IsTight.tightenAfter_eq (h : IsTight text)
    (hhead : behind = true → ∀ c ∈ text.head?, isBlank c = false) :
    tightenAfter behind text = text := by
  induction text generalizing behind with
  | nil => rfl
  | cons c rest ih =>
      cases hc : isBlank c with
      | true =>
          have hbehind : behind = false := by
            cases behind with
            | false => rfl
            | true => simp [hhead rfl c rfl] at hc
          have hrest : tightenAfter false rest = rest := ih h.of_cons (fun h => by simp at h)
          simp [tightenAfter, hc, hbehind, h.operatorFollows_eq_false hc, hrest]
      | false =>
          -- Behind an operator a tight text does not go on with a blank.
          have hrest : tightenAfter (isOperator c) rest = rest := by
            apply ih h.of_cons
            intro ho d hd
            have hmeet : MayMeet c d := List.IsChain.rel_head? h hd
            simpa [ho] using hmeet.2
          simp only [tightenAfter_cons_of_not_blank hc, hrest]

theorem IsTight.tighten_eq (h : IsTight line) : tighten line = line :=
  h.tightenAfter_eq (fun h => by simp at h)

theorem IsTight.trim (h : IsTight line) : IsTight (trim line) := by
  have hfront : Text.trim line <+: trimStart line := List.rdropWhile_prefix isBlank _
  have hback : trimStart line <:+ line := List.dropWhile_suffix isBlank
  have hinner : Text.trim line <:+: line := hfront.isInfix.trans hback.isInfix
  exact List.IsChain.infix h hinner

end Program
end MotionController
