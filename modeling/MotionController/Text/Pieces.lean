/-!
# Pieces

Cutting a text at every occurrence of a separator, and joining pieces again. Joining undoes
cutting (`join_cut`), a cut never gives the empty list (`cut_ne_nil`), and no piece holds the
separator (`not_mem_of_mem_cut`).
-/

namespace MotionController
namespace Text

/-- The pieces of a text between the occurrences of `separator`, empty ones included. -/
def cut (separator : Char) : List Char → List (List Char)
  | [] => [[]]
  | c :: rest =>
      if c = separator then
        [] :: cut separator rest
      else
        match cut separator rest with
        | [] => [[c]]
        | piece :: pieces => (c :: piece) :: pieces

/-- The pieces one after another, with `separator` between neighbours. -/
def join (separator : Char) : List (List Char) → List Char
  | [] => []
  | [piece] => piece
  | piece :: pieces => piece ++ separator :: join separator pieces

/-! ## Cutting and joining -/

theorem cut_ne_nil (separator : Char) (text : List Char) : cut separator text ≠ [] := by
  cases text with
  | nil => simp [cut]
  | cons c rest =>
      simp only [cut]
      split
      · simp
      · split <;> simp

theorem join_cut (separator : Char) (text : List Char) :
    join separator (cut separator text) = text := by
  induction text with
  | nil => rfl
  | cons c rest ih =>
      simp only [cut]
      split
      · next h =>
          cases hcut : cut separator rest with
          | nil => exact absurd hcut (cut_ne_nil separator rest)
          | cons piece pieces =>
              rw [hcut] at ih
              simp [join, ih, h]
      · cases hcut : cut separator rest with
        | nil => exact absurd hcut (cut_ne_nil separator rest)
        | cons piece pieces =>
            rw [hcut] at ih
            cases pieces with
            | nil => simpa [join] using ih
            | cons next others => simpa [join] using ih

theorem not_mem_of_mem_cut {separator : Char} {text piece : List Char}
    (h : piece ∈ cut separator text) : separator ∉ piece := by
  induction text generalizing piece with
  | nil =>
      simp only [cut, List.mem_singleton] at h
      simp [h]
  | cons c rest ih =>
      simp only [cut] at h
      split at h
      · rcases List.mem_cons.1 h with h | h
        · simp [h]
        · exact ih h
      · next hc =>
          cases hcut : cut separator rest with
          | nil => exact absurd hcut (cut_ne_nil separator rest)
          | cons first others =>
              rw [hcut] at h ih
              rcases List.mem_cons.1 h with h | h
              · subst h
                simp only [List.mem_cons, not_or]
                exact ⟨fun e => hc e.symm, ih (List.mem_cons_self ..)⟩
              · exact ih (List.mem_cons_of_mem _ h)

/-! ## Lines -/

/-- The lines of a text. A text that ends in a line break has no further, empty line after it. -/
def lines (text : List Char) : List (List Char) :=
  let pieces := cut '\n' text
  if pieces.getLast? = some [] then pieces.dropLast else pieces

end Text
end MotionController
