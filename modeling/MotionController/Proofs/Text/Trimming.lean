import Mathlib.Data.List.DropRight
import MotionController.Text.Blank

/-!
# Laws of trimming

What trimming does to a text that is put together from parts: blanks beside a text never count
(`trim_append_of_allBlank`, `trim_of_allBlank_append`), a character that is not blank stops the trim
(`trimEnd_append_cons`), and a trimmed text stays as it is (`IsTrimmed.trim_eq`).
-/

namespace MotionController
namespace Text

variable {a b w : List Char} {c : Char}

/-- The text holds blanks only. -/
def AllBlank (text : List Char) : Prop :=
  ∀ c ∈ text, isBlank c = true

/-- No blank stands at either end of the text. -/
structure IsTrimmed (text : List Char) : Prop where
  head : ∀ c ∈ text.head?, isBlank c = false
  last : ∀ c ∈ text.getLast?, isBlank c = false

theorem AllBlank.append (ha : AllBlank a) (hb : AllBlank b) : AllBlank (a ++ b) := by
  intro c hc
  rcases List.mem_append.1 hc with h | h
  · exact ha c h
  · exact hb c h

theorem AllBlank.not_mem (hw : AllBlank w) (hc : isBlank c = false) : c ∉ w := by
  intro hmem
  simp [hw c hmem] at hc

/-! ## The start of a text -/

theorem trimStart_cons_of_blank (hc : isBlank c = true) : trimStart (c :: a) = trimStart a := by
  simp [trimStart, hc]

theorem trimStart_cons_of_not_blank (hc : isBlank c = false) : trimStart (c :: a) = c :: a := by
  simp [trimStart, hc]

theorem trimStart_of_allBlank_append (hw : AllBlank w) : trimStart (w ++ a) = trimStart a :=
  List.dropWhile_append_of_pos hw

theorem trimStart_eq_nil_iff : trimStart a = [] ↔ AllBlank a :=
  List.dropWhile_eq_nil_iff

theorem trimStart_append_of_ne_nil (ha : trimStart a ≠ []) :
    trimStart (a ++ b) = trimStart a ++ b := by
  unfold trimStart at *
  rw [List.dropWhile_append, if_neg]
  simpa using ha

theorem trimStart_append_cons (hc : isBlank c = false) :
    trimStart (a ++ c :: b) = trimStart a ++ c :: b := by
  by_cases ha : trimStart a = []
  · simp [trimStart_of_allBlank_append (trimStart_eq_nil_iff.1 ha), ha,
      trimStart_cons_of_not_blank hc]
  · exact trimStart_append_of_ne_nil ha

@[simp] theorem trimStart_trimStart (a : List Char) : trimStart (trimStart a) = trimStart a :=
  List.dropWhile_idempotent isBlank a

/-- What trimming the start takes off is blank. -/
theorem exists_allBlank_append_trimStart (a : List Char) :
    ∃ w, AllBlank w ∧ a = w ++ trimStart a := by
  refine ⟨a.takeWhile isBlank, ?_, ?_⟩
  · intro c hc
    exact List.mem_takeWhile_imp hc
  · exact List.takeWhile_append_dropWhile.symm

theorem isBlank_of_head?_trimStart (hc : c ∈ (trimStart a).head?) : isBlank c = false := by
  have hnot := List.head?_dropWhile_not isBlank a
  unfold trimStart at hc
  simp only [Option.mem_def.1 hc] at hnot
  simpa using hnot

theorem trimStart_append_congr (ha : a ≠ []) (h : trimStart (a ++ b) = a ++ b) (d : List Char) :
    trimStart (a ++ d) = a ++ d := by
  cases a with
  | nil => exact absurd rfl ha
  | cons c a =>
      have hc : isBlank c = false := by
        apply isBlank_of_head?_trimStart (a := c :: a ++ b)
        simp only [h]
        rfl
      exact trimStart_cons_of_not_blank hc

/-! ## The end of a text -/

theorem trimEnd_eq_rdropWhile (a : List Char) : trimEnd a = a.rdropWhile isBlank := rfl

@[simp] theorem trimEnd_nil : trimEnd [] = [] := rfl

theorem trimEnd_append_of_allBlank (hw : AllBlank w) : trimEnd (a ++ w) = trimEnd a := by
  have hrev : AllBlank w.reverse := fun c hc => hw c (List.mem_reverse.1 hc)
  unfold trimEnd
  simp only [List.reverse_append, List.dropWhile_append_of_pos hrev]

theorem trimEnd_append_cons (hc : isBlank c = false) :
    trimEnd (a ++ c :: b) = a ++ c :: trimEnd b := by
  unfold trimEnd
  rw [List.reverse_append, List.reverse_cons, List.append_assoc, List.singleton_append,
    List.dropWhile_append]
  split
  · next hb =>
      have hnil : b.reverse.dropWhile isBlank = [] := by simpa using hb
      simp [hnil, hc]
  · simp

theorem trimEnd_cons_of_not_blank (hc : isBlank c = false) : trimEnd (c :: a) = c :: trimEnd a :=
  trimEnd_append_cons (a := []) hc

theorem trimEnd_eq_nil_iff : trimEnd a = [] ↔ AllBlank a :=
  List.rdropWhile_eq_nil_iff

/-- A blank in front stays when the text behind it is not blank. -/
theorem trimEnd_cons_of_ne_nil (ha : trimEnd a ≠ []) : trimEnd (c :: a) = c :: trimEnd a := by
  have hne : a.reverse.dropWhile isBlank ≠ [] := fun h => ha (by simp [trimEnd, h])
  unfold trimEnd
  rw [List.reverse_cons, List.dropWhile_append, if_neg (by simpa using hne)]
  simp

/-- What trimming the end takes off is blank. -/
theorem exists_trimEnd_append_allBlank (a : List Char) :
    ∃ w, AllBlank w ∧ a = trimEnd a ++ w := by
  refine ⟨a.rtakeWhile isBlank, ?_, ?_⟩
  · intro c hc
    exact List.mem_rtakeWhile_imp hc
  · exact List.rdropWhile_append_rtakeWhile.symm

theorem trimEnd_cons_congr (h : trimEnd a = trimEnd b) : trimEnd (c :: a) = trimEnd (c :: b) := by
  have hdrop : ∀ l : List Char, trimEnd (c :: trimEnd l) = trimEnd (c :: l) := by
    intro l
    rcases exists_trimEnd_append_allBlank l with ⟨w, hw, hl⟩
    have hcons := trimEnd_append_of_allBlank (a := c :: trimEnd l) hw
    simpa [← hl] using hcons.symm
  calc
    trimEnd (c :: a) = trimEnd (c :: trimEnd a) := (hdrop a).symm
    _ = trimEnd (c :: trimEnd b) := by rw [h]
    _ = trimEnd (c :: b) := hdrop b

theorem trimEnd_eq_self_iff : trimEnd a = a ↔ ∀ c ∈ a.getLast?, isBlank c = false := by
  simp only [trimEnd_eq_rdropWhile, List.rdropWhile_eq_self_iff]
  constructor
  · intro h c hc
    have hne : a ≠ [] := by
      intro hnil
      simp [hnil] at hc
    have hlast := h hne
    simp only [List.getLast?_eq_some_getLast hne] at hc
    simp only [Option.some.inj hc] at hlast
    simpa using hlast
  · intro h hne
    simpa using h (a.getLast hne) (List.getLast?_eq_some_getLast hne)

theorem trimEnd_of_append (h : trimEnd (a ++ b) = a ++ b) : trimEnd b = b := by
  refine trimEnd_eq_self_iff.2 fun c hc => trimEnd_eq_self_iff.1 h c ?_
  simp [Option.mem_def.1 hc]

theorem trimEnd_append_of_ne_nil (hb : b ≠ []) (h : trimEnd b = b) : trimEnd (a ++ b) = a ++ b := by
  refine trimEnd_eq_self_iff.2 fun c hc => trimEnd_eq_self_iff.1 h c ?_
  simpa [List.getLast?_append, List.getLast?_eq_some_getLast hb] using hc

theorem trimEnd_append_cons_of_ne_nil (hb : b ≠ []) (h : trimEnd b = b) :
    trimEnd (a ++ c :: b) = a ++ c :: b := by
  have hassoc : a ++ c :: b = (a ++ [c]) ++ b := by simp
  rw [hassoc]
  exact trimEnd_append_of_ne_nil hb h

theorem trimEnd_trimStart (h : trimEnd a = a) : trimEnd (trimStart a) = trimStart a := by
  rcases exists_allBlank_append_trimStart a with ⟨w, _, ha⟩
  rw [ha] at h
  exact trimEnd_of_append h

@[simp] theorem trimEnd_trimEnd (a : List Char) : trimEnd (trimEnd a) = trimEnd a :=
  List.rdropWhile_idempotent isBlank a

/-! ## Both ends -/

theorem trim_append_of_allBlank (hw : AllBlank w) : trim (a ++ w) = trim a := by
  unfold trim
  by_cases ha : trimStart a = []
  · have hall : AllBlank (a ++ w) := (trimStart_eq_nil_iff.1 ha).append hw
    simp only [ha, trimStart_eq_nil_iff.2 hall]
  · simp only [trimStart_append_of_ne_nil ha, trimEnd_append_of_allBlank hw]

theorem trim_of_allBlank_append (hw : AllBlank w) : trim (w ++ a) = trim a := by
  unfold trim
  simp only [trimStart_of_allBlank_append hw]

theorem trim_of_allBlank (hw : AllBlank w) : trim w = [] := by
  unfold trim
  simp only [trimStart_eq_nil_iff.2 hw, trimEnd_nil]

@[simp] theorem trim_trimEnd (a : List Char) : trim (trimEnd a) = trim a := by
  rcases exists_trimEnd_append_allBlank a with ⟨w, hw, ha⟩
  calc
    trim (trimEnd a) = trim (trimEnd a ++ w) := (trim_append_of_allBlank hw).symm
    _ = trim a := by rw [← ha]

@[simp] theorem trim_trimStart (a : List Char) : trim (trimStart a) = trim a := by
  unfold trim
  simp only [trimStart_trimStart]

/-- What trimming takes off at either end is blank. -/
theorem exists_allBlank_append_trim (a : List Char) :
    ∃ w v, AllBlank w ∧ AllBlank v ∧ a = w ++ (trim a ++ v) := by
  rcases exists_allBlank_append_trimStart a with ⟨w, hw, hstart⟩
  rcases exists_trimEnd_append_allBlank (trimStart a) with ⟨v, hv, hend⟩
  refine ⟨w, v, hw, hv, ?_⟩
  calc
    a = w ++ trimStart a := hstart
    _ = w ++ (trim a ++ v) := congrArg (w ++ ·) hend

theorem IsTrimmed.trimStart_eq (h : IsTrimmed a) : trimStart a = a := by
  cases a with
  | nil => rfl
  | cons c rest => exact trimStart_cons_of_not_blank (h.head c rfl)

theorem IsTrimmed.trim_eq (h : IsTrimmed a) : trim a = a := by
  unfold trim
  simp only [h.trimStart_eq, trimEnd_eq_self_iff.2 h.last]

theorem isTrimmed_trim (a : List Char) : IsTrimmed (trim a) := by
  constructor
  · intro c hc
    have hprefix : trim a <+: trimStart a := List.rdropWhile_prefix isBlank _
    rcases hprefix with ⟨rest, hrest⟩
    apply isBlank_of_head?_trimStart (a := a)
    simp only [← hrest, List.head?_append, Option.mem_def.1 hc]
    rfl
  · intro c hc
    have hne : trim a ≠ [] := by
      intro hnil
      simp [hnil] at hc
    have hlast := List.rdropWhile_last_not isBlank (trimStart a) hne
    have heq : (trim a).getLast hne = c := by
      simp only [List.getLast?_eq_some_getLast hne] at hc
      simpa using hc
    have : (List.rdropWhile isBlank (trimStart a)).getLast hne = c := heq
    simpa [this] using hlast

end Text
end MotionController
