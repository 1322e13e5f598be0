import Mathlib.Data.List.Basic
import MotionController.Text.Pieces

/-!
# Laws of cutting

Cutting and joining are the list operations `splitOn` and `intercalate`, whose laws carry over: a
separator between two texts separates their pieces (`cut_append_cons`), and joined pieces are found
again (`cut_join`). `piece_induction` goes through a text piece by piece.
-/

namespace MotionController
namespace Text

variable {separator : Char} {a b : List Char} {pieces : List (List Char)}

theorem cut_eq_splitOn (separator : Char) (text : List Char) :
    cut separator text = text.splitOn separator := by
  induction text with
  | nil => rfl
  | cons c rest ih =>
      simp only [List.splitOn_cons_eq_if_modifyHead, ← ih]
      by_cases hc : c = separator
      · simp [cut, hc]
      · have hne := cut_ne_nil separator rest
        cases hcut : cut separator rest with
        | nil => exact absurd hcut hne
        | cons piece pieces => simp [cut, hc, hcut]

theorem join_eq_intercalate (separator : Char) (pieces : List (List Char)) :
    join separator pieces = [separator].intercalate pieces := by
  induction pieces with
  | nil => rfl
  | cons piece rest ih =>
      cases rest with
      | nil => simp [join]
      | cons next others =>
          simp only [List.intercalate_cons_cons, ← ih]
          simp [join]

/-- Behind the first piece each piece comes with a separator before it. -/
theorem join_cons (separator : Char) (piece : List Char) (pieces : List (List Char)) :
    join separator (piece :: pieces) =
      piece ++ pieces.flatMap fun next => separator :: next := by
  induction pieces generalizing piece with
  | nil => simp [join]
  | cons next others ih => simp [join, ih]

@[simp] theorem cut_nil (separator : Char) : cut separator [] = [[]] := rfl

@[simp] theorem cut_cons_self (separator : Char) (text : List Char) :
    cut separator (separator :: text) = [] :: cut separator text := by
  simp [cut]

/-- A separator between two texts separates their pieces. -/
theorem cut_append_cons (separator : Char) (a b : List Char) :
    cut separator (a ++ separator :: b) = cut separator a ++ cut separator b := by
  simp only [cut_eq_splitOn, List.splitOn_append_cons_self]

theorem cut_of_not_mem (ha : separator ∉ a) : cut separator a = [a] := by
  simp only [cut_eq_splitOn, List.splitOn_eq_singleton ha]

theorem cut_append_cons_of_not_mem (ha : separator ∉ a) :
    cut separator (a ++ separator :: b) = a :: cut separator b := by
  simp only [cut_append_cons, cut_of_not_mem ha, List.singleton_append]

/-- Joined pieces are found again. -/
theorem cut_join (hpieces : ∀ piece ∈ pieces, separator ∉ piece) (hne : pieces ≠ []) :
    cut separator (join separator pieces) = pieces := by
  simp only [cut_eq_splitOn, join_eq_intercalate, List.splitOn_intercalate separator hpieces hne]

/-- Every text is one piece, or a first piece with a separator and a text behind it. -/
@[elab_as_elim]
theorem piece_induction {motive : List Char → Prop} (separator : Char)
    (piece : ∀ a, separator ∉ a → motive a)
    (append : ∀ a b, separator ∉ a → motive b → motive (a ++ separator :: b))
    (text : List Char) : motive text := by
  -- The induction is on the pieces, from which joining gives the text back.
  rw [← join_cut separator text]
  have hpieces : ∀ p ∈ cut separator text, separator ∉ p := fun p hp => not_mem_of_mem_cut hp
  have hne := cut_ne_nil separator text
  generalize cut separator text = pieces at hpieces hne ⊢
  induction pieces with
  | nil => exact absurd rfl hne
  | cons first rest ih =>
      have hfirst : separator ∉ first := hpieces first (List.mem_cons_self ..)
      cases rest with
      | nil => exact piece first hfirst
      | cons next others =>
          apply append first _ hfirst
          apply ih
          · intro p hp
            exact hpieces p (List.mem_cons_of_mem _ hp)
          · simp

/-- A piece behind the first one stands behind a separator, and before another one or at the end of
the text. -/
theorem exists_of_mem_tail_cut {text piece : List Char} (h : piece ∈ (cut separator text).tail) :
    ∃ a b, text = a ++ separator :: (piece ++ b) ∧ (b = [] ∨ ∃ rest, b = separator :: rest) := by
  induction text using piece_induction separator with
  | piece a ha => simp [cut_of_not_mem ha] at h
  | append a b ha ih =>
      simp only [cut_append_cons_of_not_mem ha, List.tail_cons] at h
      cases b using piece_induction separator with
      | piece p hp =>
          simp only [cut_of_not_mem hp, List.mem_singleton] at h
          exact ⟨a, [], by simp [h], .inl rfl⟩
      | append p rest hp _ =>
          simp only [cut_append_cons_of_not_mem hp, List.mem_cons] at h
          rcases h with rfl | h
          · exact ⟨a, separator :: rest, rfl, .inr ⟨rest, rfl⟩⟩
          · have htail : piece ∈ (cut separator (p ++ separator :: rest)).tail := by
              simpa [cut_append_cons_of_not_mem hp] using h
            rcases ih htail with ⟨u, v, heq, hv⟩
            exact ⟨a ++ separator :: u, v, by simp [heq], hv⟩

theorem length_cut (separator : Char) (text : List Char) :
    (cut separator text).length = text.count separator + 1 := by
  induction text using piece_induction separator with
  | piece a ha => simp [cut_of_not_mem ha, List.count_eq_zero_of_not_mem ha]
  | append a b ha ih =>
      simp [cut_append_cons_of_not_mem ha, List.count_eq_zero_of_not_mem ha, ih]

/-- Joined texts that may hold separators themselves are cut further. -/
theorem cut_join_eq_flatMap (hne : pieces ≠ []) :
    cut separator (join separator pieces) = pieces.flatMap (cut separator) := by
  induction pieces with
  | nil => exact absurd rfl hne
  | cons piece rest ih =>
      cases rest with
      | nil => simp [join]
      | cons next others =>
          have hrest := ih (List.cons_ne_nil next others)
          simp only [join, cut_append_cons, hrest, List.flatMap_cons]

theorem sublist_of_mem_cut {text piece : List Char} (h : piece ∈ cut separator text) :
    List.Sublist piece text := by
  induction text using piece_induction separator with
  | piece a ha =>
      simp only [cut_of_not_mem ha, List.mem_singleton] at h
      exact h ▸ List.Sublist.refl a
  | append a b ha ih =>
      simp only [cut_append_cons_of_not_mem ha, List.mem_cons] at h
      rcases h with rfl | h
      · exact List.sublist_append_left _ _
      · exact (ih h).trans ((List.sublist_cons_self _ _).trans (List.sublist_append_right _ _))

/-- A text in front goes to the first piece. -/
theorem mem_cut_append_left {piece : List Char} (ha : separator ∉ a)
    (h : piece ∈ cut separator (a ++ b)) : a <+: piece ∨ piece ∈ cut separator b := by
  cases b using piece_induction separator with
  | piece b hb =>
      have hab : separator ∉ a ++ b := by simp [ha, hb]
      simp only [cut_of_not_mem hab, List.mem_singleton] at h
      exact .inl ⟨b, h.symm⟩
  | append first rest hfirst _ =>
      have hafirst : separator ∉ a ++ first := by simp [ha, hfirst]
      simp only [← List.append_assoc, cut_append_cons_of_not_mem hafirst, List.mem_cons] at h
      rcases h with rfl | h
      · exact .inl ⟨first, rfl⟩
      · exact .inr (by simp [cut_append_cons_of_not_mem hfirst, h])

/-- A text behind goes to the last piece. -/
theorem mem_cut_append_right {piece : List Char} (hb : separator ∉ b)
    (h : piece ∈ cut separator (a ++ b)) : piece ∈ cut separator a ∨ b <:+ piece := by
  induction a using piece_induction separator with
  | piece a ha =>
      have hab : separator ∉ a ++ b := by simp [ha, hb]
      simp only [cut_of_not_mem hab, List.mem_singleton] at h
      exact .inr ⟨a, h.symm⟩
  | append first rest hfirst ih =>
      simp only [List.append_assoc, List.cons_append, cut_append_cons_of_not_mem hfirst,
        List.mem_cons] at h ⊢
      rcases h with h | h
      · exact .inl (.inl h)
      · rcases ih h with h | h
        · exact .inl (.inr h)
        · exact .inr h

/-! ## First characters -/

/-- What stands behind a character that the test refuses is not looked at. -/
theorem takeWhile_append_cons_of_refused {test : Char → Bool} {c : Char} (hc : test c = false)
    (a b : List Char) : (a ++ c :: b).takeWhile test = a.takeWhile test := by
  induction a with
  | nil => simp [hc]
  | cons d rest ih =>
      cases hd : test d with
      | false => simp [hd]
      | true => simpa [hd] using ih

/-- A run ends before a character that the test refuses. -/
theorem takeWhile_append_of_head {test : Char → Bool} (ha : ∀ c ∈ a, test c = true)
    (hb : ∀ c ∈ b.head?, test c = false) : (a ++ b).takeWhile test = a := by
  rw [List.takeWhile_append_of_pos ha]
  cases b with
  | nil => simp
  | cons c rest => simp [hb c rfl]

theorem dropWhile_append_of_head {test : Char → Bool} (ha : ∀ c ∈ a, test c = true)
    (hb : ∀ c ∈ b.head?, test c = false) : (a ++ b).dropWhile test = b := by
  rw [List.dropWhile_append_of_pos ha]
  cases b with
  | nil => simp
  | cons c rest => simp [hb c rfl]

/-! ## Lines -/

theorem newline_not_mem_of_mem_lines {text line : List Char} (h : line ∈ lines text) :
    '\n' ∉ line := by
  have hcut : line ∈ cut '\n' text := by
    unfold lines at h
    dsimp only at h
    split at h
    · exact List.dropLast_subset _ h
    · exact h
  exact not_mem_of_mem_cut hcut

/-- The lines of a text in which each line has its line break. -/
theorem lines_flatMap_newline {pieces : List (List Char)} (h : ∀ line ∈ pieces, '\n' ∉ line) :
    lines (pieces.flatMap fun line => line ++ ['\n']) = pieces := by
  have hcut : cut '\n' (pieces.flatMap fun line => line ++ ['\n']) = pieces ++ [[]] := by
    induction pieces with
    | nil => rfl
    | cons line pieces ih =>
        have hline := h line List.mem_cons_self
        have hrest := ih fun other hother => h other (List.mem_cons_of_mem line hother)
        have hassoc : ((line :: pieces).flatMap fun line => line ++ ['\n']) =
            line ++ '\n' :: pieces.flatMap fun line => line ++ ['\n'] := by simp
        simp only [hassoc, cut_append_cons_of_not_mem hline, hrest, List.cons_append]
  simp [lines, hcut]

end Text
end MotionController
