import Mathlib.Data.List.Chain
import Mathlib.Logic.Relation
import MotionController.Program.Minify
import MotionController.Proofs.Program.Comments

/-!
# Laws of redundant semicolons

Collapsing drops redundant semicolons one at a time (`reaches_collapseSemicolons`), so whatever a
single drop keeps is kept (`collapseSemicolons_invariant`). A collapsed text stays as it is, and so
does a tidy line, which has no semicolon at its end either (`isTidy_tidy`, `IsTidy.tidy_eq`).
-/

namespace MotionController
namespace Program

open Text

variable {a b w text line : List Char} {c : Char}

/-! ## A semicolon comes next -/

theorem semicolonFollows_iff :
    semicolonFollows text = true ↔ ∃ w b, AllBlank w ∧ text = w ++ ';' :: b := by
  unfold semicolonFollows
  constructor
  · intro h
    rcases exists_allBlank_append_trimStart text with ⟨w, hw, htext⟩
    rcases List.head?_eq_some_iff.1 (beq_iff_eq.1 h) with ⟨b, hb⟩
    exact ⟨w, b, hw, by rw [← hb]; exact htext⟩
  · rintro ⟨w, b, hw, rfl⟩
    simp [trimStart_of_allBlank_append hw, trimStart_cons_of_not_blank isBlank_semicolon]

theorem semicolonFollows_cons_of_blank (hc : isBlank c = true) :
    semicolonFollows (c :: a) = semicolonFollows a := by
  simp [semicolonFollows, trimStart_cons_of_blank hc]

theorem semicolonFollows_cons_of_not_blank (hc : isBlank c = false) :
    semicolonFollows (c :: a) = (c == ';') := by
  simp [semicolonFollows, trimStart_cons_of_not_blank hc]

theorem semicolonFollows_append (ha : ¬AllBlank a) :
    semicolonFollows (a ++ b) = semicolonFollows a := by
  have hne : trimStart a ≠ [] := fun h => ha (trimStart_eq_nil_iff.1 h)
  simp [semicolonFollows, trimStart_append_of_ne_nil hne, List.head?_append_of_ne_nil _ hne]

theorem semicolonFollows_of_allBlank (hw : AllBlank w) : semicolonFollows w = false := by
  simp [semicolonFollows, trimStart_eq_nil_iff.2 hw]

/-! ## One semicolon at a time -/

theorem collapseSemicolons_cons_of_dropped (ha : semicolonFollows a = true) :
    collapseSemicolons (';' :: a) = collapseSemicolons a := by
  simp [collapseSemicolons, ha]

theorem collapseSemicolons_cons_of_kept (h : ¬(c = ';' ∧ semicolonFollows a = true)) :
    collapseSemicolons (c :: a) = c :: collapseSemicolons a := by
  simp only [collapseSemicolons, if_neg h]

/-- One semicolon is dropped that another one follows behind optional blanks. -/
inductive DropsSemicolon : List Char → List Char → Prop where
  | drop (a w b : List Char) (hw : AllBlank w) :
      DropsSemicolon (a ++ ';' :: (w ++ ';' :: b)) (a ++ (w ++ ';' :: b))

/-- Collapsing drops redundant semicolons one at a time. -/
theorem reaches_collapseSemicolons (text : List Char) :
    Relation.ReflTransGen DropsSemicolon text (collapseSemicolons text) := by
  -- The part of the text that is done with is carried along, as `a`.
  have hreaches : ∀ a, Relation.ReflTransGen DropsSemicolon (a ++ text)
      (a ++ collapseSemicolons text) := by
    induction text with
    | nil =>
        intro a
        exact .refl
    | cons c rest ih =>
        intro a
        by_cases h : c = ';' ∧ semicolonFollows rest = true
        · rcases h with ⟨rfl, hfollows⟩
          rcases semicolonFollows_iff.1 hfollows with ⟨w, b, hw, hrest⟩
          have hdrop : DropsSemicolon (a ++ ';' :: rest) (a ++ rest) := by
            simp only [hrest]
            exact .drop a w b hw
          simp only [collapseSemicolons_cons_of_dropped hfollows]
          exact .head hdrop (ih a)
        · simpa [collapseSemicolons_cons_of_kept h] using ih (a ++ [c])
  exact hreaches []

theorem collapseSemicolons_invariant {P : List Char → Prop}
    (hstep : ∀ s t, DropsSemicolon s t → P s → P t) (h : P text) :
    P (collapseSemicolons text) := by
  have hreaches := reaches_collapseSemicolons text
  generalize collapseSemicolons text = collapsed at hreaches ⊢
  induction hreaches with
  | refl => exact h
  | tail _ hdrop ih => exact hstep _ _ hdrop ih

theorem DropsSemicolon.sublist {s t : List Char} (h : DropsSemicolon s t) : List.Sublist t s := by
  cases h with
  | drop a w b _ => exact (List.sublist_cons_self _ _).append_left a

theorem collapseSemicolons_sublist (text : List Char) :
    List.Sublist (collapseSemicolons text) text := by
  apply collapseSemicolons_invariant (P := fun t => List.Sublist t text)
  · intro s t hdrop hs
    exact hdrop.sublist.trans hs
  · exact List.Sublist.refl text

/-! ## Collapsed texts -/

theorem collapseSemicolons_cons_eq_self_iff :
    collapseSemicolons (c :: a) = c :: a ↔
      (c = ';' → semicolonFollows a = false) ∧ collapseSemicolons a = a := by
  by_cases h : c = ';' ∧ semicolonFollows a = true
  · rcases h with ⟨rfl, hfollows⟩
    rw [collapseSemicolons_cons_of_dropped hfollows]
    constructor
    -- A drop shortens the text, so it does not give the text back.
    · intro heq
      have hlength := (collapseSemicolons_sublist a).length_le
      simp only [heq, List.length_cons] at hlength
      omega
    · rintro ⟨hnot, -⟩
      simp [hnot rfl] at hfollows
  · simp only [collapseSemicolons_cons_of_kept h]
    constructor
    · intro heq
      refine ⟨fun hc => ?_, (List.cons.inj heq).2⟩
      simpa [hc] using h
    · rintro ⟨-, ha⟩
      simp only [ha]

theorem semicolonFollows_collapseSemicolons (text : List Char) :
    semicolonFollows (collapseSemicolons text) = semicolonFollows text := by
  induction text with
  | nil => rfl
  | cons c rest ih =>
      by_cases h : c = ';' ∧ semicolonFollows rest = true
      · rcases h with ⟨rfl, hfollows⟩
        simp [collapseSemicolons_cons_of_dropped hfollows, ih, hfollows,
          semicolonFollows_cons_of_not_blank isBlank_semicolon]
      · simp only [collapseSemicolons_cons_of_kept h]
        cases hc : isBlank c with
        | true => simpa [semicolonFollows_cons_of_blank hc] using ih
        | false => simp [semicolonFollows_cons_of_not_blank hc]

theorem collapseSemicolons_collapseSemicolons (text : List Char) :
    collapseSemicolons (collapseSemicolons text) = collapseSemicolons text := by
  induction text with
  | nil => rfl
  | cons c rest ih =>
      by_cases h : c = ';' ∧ semicolonFollows rest = true
      · rcases h with ⟨rfl, hfollows⟩
        simpa [collapseSemicolons_cons_of_dropped hfollows] using ih
      · simp only [collapseSemicolons_cons_of_kept h]
        refine collapseSemicolons_cons_eq_self_iff.2 ⟨fun hc => ?_, ih⟩
        simpa [hc, semicolonFollows_collapseSemicolons] using h

theorem collapsed_of_append (h : collapseSemicolons (a ++ b) = a ++ b) :
    collapseSemicolons a = a := by
  induction a with
  | nil => rfl
  -- A semicolon that follows within `a` follows within the whole as well.
  | cons c rest ih =>
      rcases collapseSemicolons_cons_eq_self_iff.1 h with ⟨hnot, hrest⟩
      refine collapseSemicolons_cons_eq_self_iff.2 ⟨fun hc => ?_, ih hrest⟩
      by_cases hblank : AllBlank rest
      · exact semicolonFollows_of_allBlank hblank
      · simpa [semicolonFollows_append hblank] using hnot hc

/-- Collapsed texts stay collapsed side by side when the first one ends with neither a blank nor a
semicolon. -/
theorem collapsed_append (ha : collapseSemicolons a = a) (hb : collapseSemicolons b = b)
    (hlast : ∀ c ∈ a.getLast?, isBlank c = false ∧ c ≠ ';') :
    collapseSemicolons (a ++ b) = a ++ b := by
  induction a with
  | nil => exact hb
  | cons c rest ih =>
      rcases collapseSemicolons_cons_eq_self_iff.1 ha with ⟨hnot, hrest⟩
      cases rest with
      | nil =>
          refine collapseSemicolons_cons_eq_self_iff.2 ⟨fun hc => ?_, hb⟩
          exact absurd hc (hlast c rfl).2
      | cons d others =>
          have hlast' : ∀ e ∈ (d :: others).getLast?, isBlank e = false ∧ e ≠ ';' := by
            intro e he
            exact hlast e (by simpa using he)
          -- The last character of `a` stops the look ahead before `b`.
          have hblank : ¬AllBlank (d :: others) := by
            intro hall
            have hmem := List.getLast_mem (List.cons_ne_nil d others)
            have hlast := hlast' _ (List.getLast?_eq_some_getLast (List.cons_ne_nil d others))
            simp [hall _ hmem] at hlast
          refine collapseSemicolons_cons_eq_self_iff.2 ⟨fun hc => ?_, ih hrest hlast'⟩
          simp only [← hnot hc]
          exact semicolonFollows_append hblank

/-- A character other than blanks and semicolons parts the semicolons on either side of it. -/
theorem collapseSemicolons_append_cons (hc : isBlank c = false) (hne : c ≠ ';') :
    collapseSemicolons (a ++ c :: b) = collapseSemicolons a ++ c :: collapseSemicolons b := by
  induction a with
  | nil => exact collapseSemicolons_cons_of_kept fun h => hne h.1
  | cons d rest ih =>
      have hfollows : semicolonFollows (rest ++ c :: b) = semicolonFollows rest := by
        by_cases hrest : AllBlank rest
        · simp [semicolonFollows, trimStart_eq_nil_iff.2 hrest,
            trimStart_of_allBlank_append hrest, trimStart_cons_of_not_blank hc, hne]
        · exact semicolonFollows_append hrest
      simp only [List.cons_append, collapseSemicolons, hfollows, ih]
      split <;> rfl

/-- No two semicolons are neighbours in a collapsed text. -/
theorem isChain_of_collapsed (h : collapseSemicolons text = text) :
    text.IsChain fun c d => ¬(c = ';' ∧ d = ';') := by
  induction text with
  | nil => exact List.IsChain.nil
  | cons c rest ih =>
      rcases collapseSemicolons_cons_eq_self_iff.1 h with ⟨hnot, hrest⟩
      refine List.IsChain.cons (ih hrest) ?_
      rintro d hd ⟨hc, rfl⟩
      rcases List.head?_eq_some_iff.1 (Option.mem_def.1 hd) with ⟨others, rfl⟩
      have hfollows := hnot hc
      simp [semicolonFollows_cons_of_not_blank isBlank_semicolon] at hfollows

/-! ## Tidy lines -/

/-- What is kept by dropping a redundant semicolon, and by dropping one at the end, is kept by
tidying. -/
theorem tidy_invariant {P : List Char → Prop} (hstep : ∀ s t, DropsSemicolon s t → P s → P t)
    (hend : ∀ a, P (a ++ [';']) → P a) (h : P line) : P (tidy line) := by
  have hcollapsed : P (collapseSemicolons line) := collapseSemicolons_invariant hstep h
  unfold tidy dropTrailingSeparator
  split
  · next hlast =>
      rcases List.getLast?_eq_some_iff.1 hlast with ⟨a, ha⟩
      simp only [ha, List.dropLast_concat]
      exact hend a (ha ▸ hcollapsed)
  · exact hcollapsed

/-- The line has neither a redundant semicolon nor one at its end. -/
structure IsTidy (line : List Char) : Prop where
  collapsed : collapseSemicolons line = line
  last : line.getLast? ≠ some ';'

theorem IsTidy.tidy_eq (h : IsTidy line) : tidy line = line := by
  simp [tidy, h.collapsed, dropTrailingSeparator, h.last]

theorem isTidy_tidy (line : List Char) : IsTidy (tidy line) := by
  have hcollapsed := collapseSemicolons_collapseSemicolons line
  unfold tidy dropTrailingSeparator
  generalize collapseSemicolons line = text at hcollapsed ⊢
  split
  · next hlast =>
      rcases List.getLast?_eq_some_iff.1 hlast with ⟨a, rfl⟩
      simp only [List.dropLast_concat]
      refine ⟨collapsed_of_append hcollapsed, ?_⟩
      -- A semicolon before the last one would have been dropped.
      intro hlast'
      rcases List.getLast?_eq_some_iff.1 hlast' with ⟨b, rfl⟩
      clear hlast hlast'
      induction b with
      | nil =>
          simp [collapseSemicolons, semicolonFollows, trimStart, isBlank_semicolon] at hcollapsed
      | cons c rest ih => exact ih (collapseSemicolons_cons_eq_self_iff.1 hcollapsed).2
  · next hlast => exact ⟨hcollapsed, hlast⟩

end Program
end MotionController
