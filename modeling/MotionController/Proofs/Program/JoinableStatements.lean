import MotionController.Program.Statement
import MotionController.Proofs.Program.Comments
import MotionController.Proofs.Text.Ascii
import MotionController.Proofs.Text.Cutting

/-!
# The grammar of joinable statements

`ENDIF`, `ELSE` and simple assignments are the joinable statements (`IsJoinableStatement`). Main
statements: the target at the start of a text is split off where it ends (`splitTarget?_append`,
`exists_target_of_splitTarget?`), and a command is joinable if it is such a statement with blanks
around it (`isJoinableCommand_iff`).
-/

namespace MotionController
namespace Program

open Text

variable {text after target index w : Line} {c : Char}

/-! ## The grammar -/

/-- The character may stand inside an index. -/
def isIndexChar (c : Char) : Bool :=
  c ≠ ']' && c ≠ ';'

/-- An index in brackets. -/
inductive IsIndex : Line → Prop where
  | brackets {inner : Line} (hne : inner ≠ []) (hinner : ∀ c ∈ inner, isIndexChar c = true) :
      IsIndex ('[' :: (inner ++ [']']))

/-- What a simple assignment may assign to: an argument of a subroutine, or a variable in lower case
with or without an index. -/
inductive IsTarget : Line → Prop where
  | argument {mark letter : Char} (hmark : mark = '^' ∨ mark = '~')
      (hletter : letter.isLower = true) : IsTarget [mark, letter]
  | variableName {letter : Char} {name index : Line} (hletter : letter.isLower = true)
      (hlength : name.length ≤ 7) (hname : ∀ c ∈ name, c.isAlphanum = true)
      (hindex : index = [] ∨ IsIndex index) : IsTarget (letter :: (name ++ index))

/-- A target, an equals sign, which may have blanks beside it, and a value. -/
inductive IsAssignment : Line → Prop where
  | assign {target w v value : Line} (htarget : IsTarget target) (hw : AllBlank w)
      (hv : AllBlank v) (hne : value ≠ []) (hvalue : ';' ∉ value) :
      IsAssignment (target ++ (w ++ '=' :: (v ++ value)))

/-- A statement that may stand behind others on a line. -/
inductive IsJoinableStatement : Line → Prop where
  | endOfIf : IsJoinableStatement "ENDIF".toList
  | elseBranch : IsJoinableStatement "ELSE".toList
  | assignment {text : Line} (h : IsAssignment text) : IsJoinableStatement text

/-- A joinable statement with blanks around it. -/
def IsSpacedStatement (text : Line) : Prop :=
  ∃ w statement v, AllBlank w ∧ AllBlank v ∧ IsJoinableStatement statement ∧
    text = w ++ (statement ++ v)

/-! ## Characters -/

theorem isBlank_of_isAlphanum (hc : c.isAlphanum = true) : isBlank c = false := by
  have hall : ∀ n < 128, (Char.ofNat n).isAlphanum = true → isBlank (Char.ofNat n) = false := by
    decide
  have hchar := hall c.toNat (toNat_lt_of_isAlphanum hc)
  rw [Char.ofNat_toNat] at hchar
  exact hchar hc

theorem isAlphanum_of_isLower (hc : c.isLower = true) : c.isAlphanum = true :=
  Bool.or_eq_true_iff.2 (.inl (Bool.or_eq_true_iff.2 (.inr hc)))

/-! ## Targets -/

theorem splitIndex?_of_head (h : text.head? ≠ some '[') : splitIndex? text = some text := by
  unfold splitIndex?
  split
  · simp at h
  · rfl

theorem splitIndex?_bracket (rest : Line) :
    splitIndex? ('[' :: rest) =
      match rest.takeWhile isIndexChar, rest.dropWhile isIndexChar with
      | _ :: _, ']' :: after => some after
      | _, _ => none :=
  rfl

theorem splitIndex?_append (h : IsIndex index) : splitIndex? (index ++ after) = some after := by
  cases h with
  | @brackets inner hne hinner =>
      have hclose : ∀ c ∈ (']' :: after).head?, isIndexChar c = false := by simp [isIndexChar]
      have htake := takeWhile_append_of_head hinner hclose
      have hdrop := dropWhile_append_of_head hinner hclose
      cases inner with
      | nil => exact absurd rfl hne
      | cons c inner =>
          have htext : '[' :: (c :: inner ++ [']']) ++ after =
              '[' :: (c :: inner ++ ']' :: after) := by simp
          rw [htext, splitIndex?_bracket, htake, hdrop]
          rfl

theorem exists_index_of_splitIndex? (h : splitIndex? text = some after) :
    ∃ index, (index = [] ∨ IsIndex index) ∧ text = index ++ after := by
  by_cases hhead : text.head? = some '['
  · rcases List.head?_eq_some_iff.1 hhead with ⟨rest, rfl⟩
    rw [splitIndex?_bracket] at h
    split at h
    · next c inner found htake hdrop =>
        cases h
        have hrest : rest = (c :: inner) ++ ']' :: after := by
          rw [← htake, ← hdrop, List.takeWhile_append_dropWhile]
        have hinner : ∀ d ∈ c :: inner, isIndexChar d = true := by
          intro d hd
          rw [← htake] at hd
          exact List.mem_takeWhile_imp hd
        refine ⟨_, .inr (IsIndex.brackets (List.cons_ne_nil c inner) hinner), ?_⟩
        simp [hrest]
    · cases h
  · rw [splitIndex?_of_head hhead] at h
    cases h
    exact ⟨[], .inl rfl, rfl⟩

/-- The target ends where neither a letter or digit nor an index follows. -/
theorem splitTarget?_append (h : IsTarget target)
    (hafter : ∀ c ∈ after.head?, c.isAlphanum = false ∧ c ≠ '[') :
    splitTarget? (target ++ after) = some after := by
  cases h with
  | @argument mark letter hmark hletter => simp [splitTarget?, hmark, hletter]
  | @variableName letter name index hletter hlength hname hindex =>
      have hnotMark : ¬(letter = '^' ∨ letter = '~') := by
        rintro (rfl | rfl) <;> simp at hletter
      have hbehind : ∀ c ∈ (index ++ after).head?, c.isAlphanum = false := by
        rcases hindex with rfl | ⟨_, _⟩
        · exact fun c hc => (hafter c hc).1
        · simp
      -- So the run of letters and digits is the name and no more.
      have htake := takeWhile_append_of_head hname hbehind
      have hdrop := dropWhile_append_of_head hname hbehind
      have hsplit : splitIndex? (index ++ after) = some after := by
        rcases hindex with rfl | hindex
        · exact splitIndex?_of_head fun hhead => (hafter '[' hhead).2 rfl
        · exact splitIndex?_append hindex
      simp [splitTarget?, hnotMark, hletter, htake, hdrop, hlength, hsplit]

theorem exists_target_of_splitTarget? (h : splitTarget? text = some after) :
    ∃ target, IsTarget target ∧ text = target ++ after := by
  unfold splitTarget? at h
  split at h
  · cases h
  · next c rest =>
      split at h
      · next hmark =>
          split at h
          · next letter found =>
              split at h
              · next hletter =>
                  cases h
                  exact ⟨[c, letter], IsTarget.argument hmark hletter, rfl⟩
              · cases h
          · cases h
      · split at h
        · next hname =>
            rcases exists_index_of_splitIndex? h with ⟨index, hindex, heq⟩
            refine ⟨c :: (rest.takeWhile Char.isAlphanum ++ index), ?_, ?_⟩
            · exact IsTarget.variableName hname.1 hname.2
                (fun d hd => List.mem_takeWhile_imp hd) hindex
            · simp only [List.cons_append, List.append_assoc, ← heq,
                List.takeWhile_append_dropWhile]
        · cases h

theorem IsTarget.exists_cons (h : IsTarget target) :
    ∃ c rest, target = c :: rest ∧ isBlank c = false := by
  cases h with
  | @argument mark letter hmark hletter =>
      refine ⟨mark, [letter], rfl, ?_⟩
      rcases hmark with rfl | rfl <;> decide
  | variableName hletter _ _ _ =>
      exact ⟨_, _, rfl, isBlank_of_isAlphanum (isAlphanum_of_isLower hletter)⟩

theorem IsTarget.semicolon_not_mem (h : IsTarget target) : ';' ∉ target := by
  cases h with
  | argument hmark hletter =>
      simp only [List.mem_cons, List.not_mem_nil, or_false, not_or]
      constructor
      · rintro rfl
        simp at hmark
      · rintro rfl
        simp at hletter
  | variableName hletter _ hname hindex =>
      simp only [List.mem_cons, List.mem_append, not_or]
      refine ⟨?_, fun hmem => absurd (hname ';' hmem) (by decide), ?_⟩
      · rintro rfl
        simp at hletter
      · rcases hindex with rfl | ⟨_, hinner⟩
        · simp
        · have hinside : ';' ∉ _ := fun hmem => absurd (hinner ';' hmem) (by decide)
          simpa using hinside

/-! ## One statement -/

/-- Blanks and an equals sign end a target. -/
theorem ends_target_of_allBlank (hw : AllBlank w) :
    ∀ c ∈ (w ++ '=' :: after).head?, c.isAlphanum = false ∧ c ≠ '[' := by
  intro c hc
  cases w with
  | nil =>
      cases hc
      decide
  | cons d w =>
      cases hc
      have hblank : isBlank c = true := hw c List.mem_cons_self
      constructor
      · by_contra halnum
        simp [isBlank_of_isAlphanum (eq_true_of_ne_false halnum)] at hblank
      · rintro rfl
        exact absurd hblank (by decide)

theorem isSimpleAssignment_iff (hsemicolon : ';' ∉ text) :
    isSimpleAssignment text = true ↔ IsAssignment text := by
  constructor
  · intro h
    unfold isSimpleAssignment at h
    split at h
    · cases h
    · next after htarget =>
        rcases exists_target_of_splitTarget? htarget with ⟨target, hisTarget, rfl⟩
        split at h
        · next value heq =>
            rcases exists_allBlank_append_trimStart after with ⟨w, hw, hafter⟩
            -- Blanks behind the equals sign may be taken for the beginning of the value.
            have htext : target ++ after = target ++ (w ++ '=' :: ([] ++ value)) := by
              rw [List.nil_append, ← heq, ← hafter]
            rw [htext] at hsemicolon ⊢
            refine IsAssignment.assign hisTarget hw nofun ?_ ?_
            · simpa using h
            · simpa using fun hmem => hsemicolon (by simp [hmem])
        · cases h
  · intro h
    cases h with
    | @assign target w v value htarget hw hv hne hvalue =>
        have hsplit : splitTarget? (target ++ (w ++ '=' :: (v ++ value))) =
            some (w ++ '=' :: (v ++ value)) :=
          splitTarget?_append htarget (ends_target_of_allBlank hw)
        have hequals : trimStart (w ++ '=' :: (v ++ value)) = '=' :: (v ++ value) := by
          rw [trimStart_of_allBlank_append hw, trimStart_cons_of_not_blank (by decide)]
        simp [isSimpleAssignment, hsplit, hequals, hne]

theorem IsAssignment.exists_cons (h : IsAssignment text) :
    ∃ c rest, text = c :: rest ∧ isBlank c = false := by
  cases h with
  | assign htarget _ _ _ _ =>
      rcases htarget.exists_cons with ⟨c, rest, rfl, hc⟩
      exact ⟨c, _, rfl, hc⟩

theorem IsAssignment.semicolon_not_mem (h : IsAssignment text) : ';' ∉ text := by
  cases h with
  | assign htarget hw hv _ hvalue =>
      simp [htarget.semicolon_not_mem, AllBlank.semicolon_not_mem hw,
        AllBlank.semicolon_not_mem hv, hvalue]

theorem IsAssignment.append (h : IsAssignment text) (hafter : ';' ∉ after) :
    IsAssignment (text ++ after) := by
  cases h with
  | @assign target w v value htarget hw hv hne hvalue =>
      have htext : target ++ (w ++ '=' :: (v ++ value)) ++ after =
          target ++ (w ++ '=' :: (v ++ (value ++ after))) := by simp
      rw [htext]
      exact IsAssignment.assign htarget hw hv (by simp [hne]) (by simp [hvalue, hafter])

theorem IsJoinableStatement.exists_cons (h : IsJoinableStatement text) :
    ∃ c rest, text = c :: rest ∧ isBlank c = false := by
  cases h with
  | endOfIf => exact ⟨'E', _, rfl, by decide⟩
  | elseBranch => exact ⟨'E', _, rfl, by decide⟩
  | assignment h => exact h.exists_cons

theorem IsJoinableStatement.semicolon_not_mem (h : IsJoinableStatement text) : ';' ∉ text := by
  cases h with
  | endOfIf => decide
  | elseBranch => decide
  | assignment h => exact h.semicolon_not_mem

theorem IsSpacedStatement.semicolon_not_mem (h : IsSpacedStatement text) : ';' ∉ text := by
  rcases h with ⟨w, statement, v, hw, hv, hstatement, rfl⟩
  simp [AllBlank.semicolon_not_mem hw, AllBlank.semicolon_not_mem hv,
    hstatement.semicolon_not_mem]

theorem IsSpacedStatement.ne_nil (h : IsSpacedStatement text) : text ≠ [] := by
  rcases h with ⟨w, statement, v, -, -, hstatement, rfl⟩
  rcases hstatement.exists_cons with ⟨c, rest, rfl, -⟩
  simp

/-- The blanks around a statement without blanks at its ends are none. -/
theorem isSpacedStatement_iff_of_isTrimmed (h : IsTrimmed text) :
    IsSpacedStatement text ↔ IsJoinableStatement text := by
  constructor
  · rintro ⟨w, statement, v, hw, hv, hstatement, rfl⟩
    -- Trimming takes the blanks off and leaves at most the statement.
    have htrim : trim statement = w ++ (statement ++ v) := by
      rw [← h.trim_eq, trim_of_allBlank_append hw, trim_append_of_allBlank hv]
    rcases exists_allBlank_append_trim statement with ⟨_, _, -, -, hparts⟩
    have hlengths := congrArg List.length hparts
    simp only [htrim, List.length_append] at hlengths
    have hnoW : w = [] := List.eq_nil_of_length_eq_zero (by omega)
    have hnoV : v = [] := List.eq_nil_of_length_eq_zero (by omega)
    simpa [hnoW, hnoV] using hstatement
  · intro hstatement
    exact ⟨[], text, [], nofun, nofun, hstatement, by simp⟩

theorem isJoinableCommand_iff (hsemicolon : ';' ∉ text) :
    isJoinableCommand text = true ↔ IsSpacedStatement text := by
  rcases exists_allBlank_append_trimStart text with ⟨w, hw, htext⟩
  rcases exists_trimEnd_append_allBlank (trimStart text) with ⟨v, hv, hstart⟩
  simp only [isJoinableCommand, Bool.or_eq_true, beq_iff_eq]
  constructor
  · rintro ((h | h) | h)
    · exact ⟨w, _, v, hw, hv, .endOfIf, by rw [← h, ← hstart, ← htext]⟩
    · exact ⟨w, _, v, hw, hv, .elseBranch, by rw [← h, ← hstart, ← htext]⟩
    · have hnone : ';' ∉ trimStart text := fun hmem =>
        hsemicolon ((List.dropWhile_suffix isBlank).subset hmem)
      exact ⟨w, _, [], hw, nofun, .assignment ((isSimpleAssignment_iff hnone).1 h), by
        rw [List.append_nil, ← htext]⟩
  · rintro ⟨w, statement, v, hw, hv, hstatement, rfl⟩
    have hstart : trimStart (w ++ (statement ++ v)) = statement ++ v := by
      rcases hstatement.exists_cons with ⟨c, rest, rfl, hc⟩
      rw [trimStart_of_allBlank_append hw, List.cons_append, trimStart_cons_of_not_blank hc]
    rw [hstart, trimEnd_append_of_allBlank hv]
    cases hstatement with
    | endOfIf => exact .inl (.inl (by decide))
    | elseBranch => exact .inl (.inr (by decide))
    | assignment h =>
        -- The blanks behind an assignment go to its value.
        have happend := h.append (AllBlank.semicolon_not_mem hv)
        exact .inr ((isSimpleAssignment_iff happend.semicolon_not_mem).2 happend)

end Program
end MotionController
