import MotionController.Proofs.Text.Cutting
import MotionController.Proofs.Text.Trimming

/-!
# Tokens

A token is a text without blanks that is not empty. Trimming leaves it as it is
(`IsToken.trim_eq`), and tokens joined by a character that is no blank make up a token
(`isToken_join`).
-/

namespace MotionController
namespace Text

variable {text a b : List Char} {c separator : Char} {pieces : List (List Char)}

/-- Not empty and without blanks. -/
structure IsToken (text : List Char) : Prop where
  ne_nil : text ≠ []
  solid : ∀ c ∈ text, isBlank c = false

instance : DecidablePred IsToken := fun text =>
  decidable_of_iff (text ≠ [] ∧ (text.all fun c => !isBlank c) = true) (by
    constructor
    · rintro ⟨hne, hsolid⟩
      exact ⟨hne, by simpa using hsolid⟩
    · intro h
      exact ⟨h.ne_nil, by simpa using h.solid⟩)

theorem IsToken.append (ha : IsToken a) (hb : IsToken b) : IsToken (a ++ b) where
  ne_nil := List.append_ne_nil_of_left_ne_nil ha.ne_nil b
  solid := by
    intro c hc
    rcases List.mem_append.1 hc with hc | hc
    · exact ha.solid c hc
    · exact hb.solid c hc

theorem isToken_singleton (hc : isBlank c = false) : IsToken [c] where
  ne_nil := List.cons_ne_nil c []
  solid := by simpa using hc

theorem IsToken.cons (hc : isBlank c = false) (ha : IsToken a) : IsToken (c :: a) :=
  (isToken_singleton hc).append ha

theorem isToken_join (hseparator : isBlank separator = false)
    (hpieces : ∀ piece ∈ pieces, IsToken piece) (hne : pieces ≠ []) :
    IsToken (join separator pieces) := by
  induction pieces with
  | nil => exact absurd rfl hne
  | cons piece pieces ih =>
      have hpiece := hpieces piece List.mem_cons_self
      cases pieces with
      | nil => exact hpiece
      | cons next others =>
          have hrest := ih (fun other hother => hpieces other (List.mem_cons_of_mem _ hother))
            (List.cons_ne_nil next others)
          exact hpiece.append (hrest.cons hseparator)

theorem IsToken.trimStart_eq (h : IsToken text) : trimStart text = text := by
  cases text with
  | nil => rfl
  | cons c text => exact trimStart_cons_of_not_blank (h.solid c List.mem_cons_self)

theorem IsToken.trimEnd_eq (h : IsToken text) : trimEnd text = text :=
  trimEnd_eq_self_iff.2 fun c hc => h.solid c (List.mem_of_getLast? hc)

theorem IsToken.trim_eq (h : IsToken text) : trim text = text := by
  simp [trim, h.trimStart_eq, h.trimEnd_eq]

theorem IsToken.newline_not_mem (h : IsToken text) : '\n' ∉ text := by
  intro hmem
  exact absurd (h.solid '\n' hmem) (by decide)

/-- Only blanks are trimmed. -/
theorem mem_trim_of_not_blank (hc : isBlank c = false) (hmem : c ∈ text) : c ∈ trim text := by
  obtain ⟨front, hfront, hstart⟩ := exists_allBlank_append_trimStart text
  obtain ⟨back, hback, hend⟩ := exists_trimEnd_append_allBlank (trimStart text)
  rw [hstart, hend, List.mem_append, List.mem_append] at hmem
  rcases hmem with hmem | hmem | hmem
  · exact absurd hmem (hfront.not_mem hc)
  · exact hmem
  · exact absurd hmem (hback.not_mem hc)

end Text
end MotionController
