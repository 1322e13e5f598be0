import MotionController.Proofs.Program.EmptyStatements

/-!
# Texts cleared of redundant semicolons

Collapsing the semicolons of a text drops those that another one follows, be it on a later line, and
nothing else (`DropsRedundant`). Each line keeps its other characters and its commands, and nothing
is left to collapse (`collapsing_clears`).
-/

namespace MotionController
namespace Program

open Text

variable {text s t w : List Char}

/-! ## The view -/

/-- The first character that is not blank. -/
def firstVisible? (text : List Char) : Option Char :=
  text.find? fun c => !isBlank c

/-- From the first text to the second some semicolons are dropped, each of them with another one for
its next visible character, and nothing else changes. -/
inductive DropsRedundant : (text kept : List Char) → Prop where
  | nil : DropsRedundant [] []
  | keep (c : Char) {text kept : List Char} (h : DropsRedundant text kept) :
      DropsRedundant (c :: text) (c :: kept)
  | drop {text kept : List Char} (hnext : firstVisible? text = some ';')
      (h : DropsRedundant text kept) : DropsRedundant (';' :: text) kept

/-- The characters of a line other than semicolons. -/
def withoutSemicolons (line : Line) : Line :=
  line.filter (· ≠ ';')

/-- The second text is the first one cleared of redundant semicolons. -/
structure IsCleared (text cleared : List Char) : Prop where
  drops : DropsRedundant text cleared
  /-- No semicolon is left that another one follows. -/
  apart : ∀ before after, cleared = before ++ ';' :: after → firstVisible? after ≠ some ';'
  /-- The line breaks are the same, with the same other characters between them. -/
  lines : (cut '\n' cleared).map withoutSemicolons = (cut '\n' text).map withoutSemicolons
  commands : (cut '\n' cleared).map trimmedPieces = (cut '\n' text).map trimmedPieces

/-! ## What is dropped -/

theorem semicolonFollows_iff_firstVisible? :
    semicolonFollows text = true ↔ firstVisible? text = some ';' := by
  have hhead : firstVisible? text = (trimStart text).head? := by
    induction text with
    | nil => rfl
    | cons c rest ih =>
        cases hc : isBlank c with
        | true => simpa [firstVisible?, hc, trimStart_cons_of_blank hc] using ih
        | false => simp [firstVisible?, hc, trimStart_cons_of_not_blank hc]
  simp [semicolonFollows, hhead]

theorem dropsRedundant_collapseSemicolons (text : List Char) :
    DropsRedundant text (collapseSemicolons text) := by
  induction text with
  | nil => exact .nil
  | cons c rest ih =>
      by_cases h : c = ';' ∧ semicolonFollows rest = true
      · rcases h with ⟨rfl, hfollows⟩
        have hnext := semicolonFollows_iff_firstVisible?.1 hfollows
        simpa only [collapseSemicolons_cons_of_dropped hfollows] using .drop hnext ih
      · simpa only [collapseSemicolons_cons_of_kept h] using .keep c ih

/-! ## What is left -/

theorem firstVisible?_ne_of_collapsed {before after : List Char}
    (hcollapsed : collapseSemicolons text = text) (heq : text = before ++ ';' :: after) :
    firstVisible? after ≠ some ';' := by
  intro hnext
  rcases semicolonFollows_iff.1 (semicolonFollows_iff_firstVisible?.2 hnext) with
    ⟨blanks, rest, hblanks, rfl⟩
  exact not_hasEmptyBetween hcollapsed ⟨before, blanks, rest, hblanks, heq⟩

theorem withoutSemicolons_dropsSemicolon (h : DropsSemicolon s t) :
    withoutSemicolons s = withoutSemicolons t := by
  cases h with
  | drop a w b _ => simp [withoutSemicolons]

theorem trimmedPieces_append_semicolon_of_allBlank (a : Line) (hw : AllBlank w) :
    trimmedPieces (a ++ ';' :: w) = trimmedPieces (a ++ w) := by
  simp only [trimmedPieces_append_cons, trimmedPieces_of_allBlank hw,
    trimmedPieces_append_of_allBlank hw, List.append_nil]

/-- Collapsing clears a text of redundant semicolons, and does nothing more when it is repeated. -/
theorem collapsing_clears (text : List Char) :
    IsCleared text (collapseSemicolons text) ∧
      collapseSemicolons (collapseSemicolons text) = collapseSemicolons text := by
  have hcollapsed := collapseSemicolons_collapseSemicolons text
  refine ⟨⟨dropsRedundant_collapseSemicolons text, ?_, ?_, ?_⟩, hcollapsed⟩
  · intro before after heq
    exact firstVisible?_ne_of_collapsed hcollapsed heq
  · exact map_cut_collapseSemicolons (fun _ _ => withoutSemicolons_dropsSemicolon)
      (fun a w _ => by simp [withoutSemicolons]) text
  · exact map_cut_collapseSemicolons (fun _ _ hdrop => (trimmedPieces_dropsSemicolon hdrop).symm)
      (fun a _ => trimmedPieces_append_semicolon_of_allBlank a) text

end Program
end MotionController
