import MotionController.Proofs.Program.JoinableStatements
import MotionController.Proofs.Text.Expressions

/-!
# The regular expression for joinable lines

A joinable line is joinable statements with semicolons between them. The lines are given by one
regular expression, whose repeated part begins with an anchor or a semicolon (`joinableLine`): the
anchor serves the first statement alone, and the others are one behind another, each with its
semicolon (`repeats_itemPattern_iff`). Main statement: the test for joinable lines is that
expression, it goes through the commands of a line one by one, and for one command it is the grammar
(`joinable_is_compositional`).
-/

namespace MotionController
namespace Program

open Text

variable {line text after before part a b : Line} {n : Nat}

/-! ## The regular expression -/

/-- Blanks, if any. -/
def blankRun : Expression :=
  .repeated (.one isBlank) 0 none

/-- The expression for an index. -/
def indexPattern : Expression :=
  .inOrder [.one (· = '['), .repeated (.one isIndexChar) 1 none, .one (· = ']')]

/-- The expression for a target. -/
def targetPattern : Expression :=
  .either (.inOrder [.one fun c => c = '~' ∨ c = '^', .one Char.isLower])
    (.inOrder [.one Char.isLower, .repeated (.one Char.isAlphanum) 0 (some 7),
      .optional indexPattern])

/-- The expression for a simple assignment. -/
def assignmentPattern : Expression :=
  .inOrder [targetPattern, blankRun, .one (· = '='), blankRun, .repeated (.one (· ≠ ';')) 1 none]

/-- The expression for a joinable statement. -/
def statementPattern : Expression :=
  .either assignmentPattern (.either (.literal "ENDIF".toList) (.literal "ELSE".toList))

/-- The expression for a statement with what comes before it: the start of the line or a
semicolon. -/
def itemPattern : Expression :=
  .inOrder [.either .start (.one (· = ';')), blankRun, statementPattern, blankRun]

/-- The expression for a joinable line. -/
def joinableLine : Expression :=
  .inOrder [.start, .repeated itemPattern 1 none, .finish]

open Expression

theorem matches_blankRun_iff : blankRun.Matches before part after ↔ AllBlank part := by
  rw [blankRun, matches_repeated_one_iff]
  simp [AllBlank]

theorem matches_indexPattern_iff : indexPattern.Matches before part after ↔ IsIndex part := by
  simp only [indexPattern, matches_inOrder_cons, matches_inOrder_nil, matches_one_iff,
    matches_repeated_one_iff, decide_eq_true_eq]
  constructor
  · rintro ⟨_, _, rfl, ⟨_, rfl, rfl⟩, inner, _, rfl, ⟨hleast, -, hinner⟩, _, _, rfl, ⟨_, rfl, rfl⟩,
      rfl⟩
    exact IsIndex.brackets (List.ne_nil_of_length_pos hleast) hinner
  · intro h
    cases h with
    | @brackets inner hne hinner =>
        exact ⟨['['], _, rfl, ⟨'[', rfl, rfl⟩, inner, _, rfl,
          ⟨List.length_pos_of_ne_nil hne, nofun, hinner⟩, [']'], [], rfl, ⟨']', rfl, rfl⟩, rfl⟩

theorem matches_targetPattern_iff : targetPattern.Matches before part after ↔ IsTarget part := by
  simp only [targetPattern, matches_either_iff, matches_inOrder_cons, matches_inOrder_nil,
    matches_one_iff, matches_repeated_one_iff, matches_optional_iff, matches_indexPattern_iff,
    decide_eq_true_eq]
  constructor
  · rintro (⟨_, _, rfl, ⟨mark, hmark, rfl⟩, _, _, rfl, ⟨letter, hletter, rfl⟩, rfl⟩ |
      ⟨_, _, rfl, ⟨letter, hletter, rfl⟩, name, _, rfl, ⟨-, hmost, hname⟩, index, _, rfl, hindex,
        rfl⟩)
    · exact IsTarget.argument hmark.symm hletter
    · simpa using IsTarget.variableName hletter (hmost 7 rfl) hname hindex
  · intro h
    cases h with
    | @argument mark letter hmark hletter =>
        exact .inl ⟨[mark], _, rfl, ⟨mark, hmark.symm, rfl⟩, [letter], [], rfl,
          ⟨letter, hletter, rfl⟩, rfl⟩
    | @variableName letter name index hletter hlength hname hindex =>
        have hmost : ∀ m ∈ some 7, name.length ≤ m := by simpa using hlength
        exact .inr ⟨[letter], _, rfl, ⟨letter, hletter, rfl⟩, name, _, rfl,
          ⟨Nat.zero_le _, hmost, hname⟩, index, [], by simp, hindex, rfl⟩

theorem matches_assignmentPattern_iff :
    assignmentPattern.Matches before part after ↔ IsAssignment part := by
  simp only [assignmentPattern, matches_inOrder_cons, matches_inOrder_nil,
    matches_targetPattern_iff, matches_blankRun_iff, matches_one_iff, matches_repeated_one_iff,
    decide_eq_true_eq]
  constructor
  · rintro ⟨target, _, rfl, htarget, w, _, rfl, hw, _, _, rfl, ⟨_, rfl, rfl⟩, v, _, rfl, hv,
      value, _, rfl, ⟨hleast, -, hvalue⟩, rfl⟩
    have hne : value ≠ [] := List.ne_nil_of_length_pos hleast
    simpa using IsAssignment.assign htarget hw hv hne fun hmem => hvalue ';' hmem rfl
  · intro h
    cases h with
    | @assign target w v value htarget hw hv hne hvalue =>
        have hall : ∀ c ∈ value, c ≠ ';' := fun c hc heq => hvalue (heq ▸ hc)
        exact ⟨target, _, rfl, htarget, w, _, rfl, hw, ['='], _, rfl, ⟨'=', rfl, rfl⟩, v, _, rfl,
          hv, value, [], by simp, ⟨List.length_pos_of_ne_nil hne, nofun, hall⟩, rfl⟩

theorem matches_statementPattern_iff :
    statementPattern.Matches before part after ↔ IsJoinableStatement part := by
  simp only [statementPattern, matches_either_iff, matches_literal_iff,
    matches_assignmentPattern_iff]
  constructor
  · rintro (h | rfl | rfl)
    · exact .assignment h
    · exact .endOfIf
    · exact .elseBranch
  · intro h
    cases h with
    | endOfIf => exact .inr (.inl rfl)
    | elseBranch => exact .inr (.inr rfl)
    | assignment h => exact .inl h

/-- At the start of the line a statement needs no semicolon before it. -/
theorem matches_itemPattern_iff :
    itemPattern.Matches before part after ↔
      ∃ text, IsSpacedStatement text ∧ (part = ';' :: text ∨ before = [] ∧ part = text) := by
  simp only [itemPattern, matches_inOrder_cons, matches_inOrder_nil, matches_either_iff,
    matches_one_iff, matches_blankRun_iff, matches_statementPattern_iff, decide_eq_true_eq]
  constructor
  · rintro ⟨_, _, rfl, hfirst, w, _, rfl, hw, statement, _, rfl, hstatement, v, _, rfl, hv, rfl⟩
    refine ⟨w ++ (statement ++ v), ⟨w, statement, v, hw, hv, hstatement, rfl⟩, ?_⟩
    rw [List.append_nil]
    rcases hfirst with ⟨hstart, rfl⟩ | ⟨_, rfl, rfl⟩
    · exact .inr ⟨hstart, rfl⟩
    · exact .inl rfl
  · rintro ⟨_, ⟨w, statement, v, hw, hv, hstatement, rfl⟩, rfl | ⟨rfl, rfl⟩⟩
    · exact ⟨[';'], _, rfl, .inr ⟨';', rfl, rfl⟩, w, _, rfl, hw, statement, _, rfl, hstatement,
        v, [], by simp, hv, rfl⟩
    · exact ⟨[], _, rfl, .inl ⟨rfl, rfl⟩, w, _, rfl, hw, statement, _, rfl, hstatement,
        v, [], by simp, hv, rfl⟩

/-! ## Repetition -/

/-- Behind other text every statement comes with its semicolon. -/
theorem repeats_itemPattern_iff (hbefore : before ≠ []) :
    Repeats itemPattern.Matches n before part after ↔
      ∃ texts : List Line, texts.length = n ∧ (∀ text ∈ texts, IsSpacedStatement text) ∧
        part = texts.flatMap fun text => ';' :: text := by
  -- On the number of repetitions: the text in front only grows, and the anchor stays out of reach.
  induction n generalizing before part with
  | zero =>
      rw [repeats_zero_iff]
      constructor
      · rintro rfl
        exact ⟨[], rfl, nofun, rfl⟩
      · rintro ⟨texts, hlength, -, rfl⟩
        rw [List.eq_nil_of_length_eq_zero hlength]
        rfl
  | succ n ih =>
      have hnext : ∀ p : Line, before ++ p ≠ [] := fun p hnil =>
        hbefore (List.append_eq_nil_iff.1 hnil).1
      rw [repeats_succ_iff]
      constructor
      · rintro ⟨p, q, rfl, hitem, hrest⟩
        rcases matches_itemPattern_iff.1 hitem with ⟨text, htext, rfl | ⟨hnil, -⟩⟩
        · rcases (ih (hnext _)).1 hrest with ⟨texts, rfl, htexts, rfl⟩
          exact ⟨text :: texts, rfl, List.forall_mem_cons.2 ⟨htext, htexts⟩, by simp⟩
        · exact absurd hnil hbefore
      · rintro ⟨texts, hlength, htexts, rfl⟩
        cases texts with
        | nil => cases hlength
        | cons text texts =>
            rcases List.forall_mem_cons.1 htexts with ⟨htext, hrest⟩
            refine ⟨';' :: text, _, by simp, ?_, (ih (hnext _)).2 ⟨texts, ?_, hrest, rfl⟩⟩
            · exact matches_itemPattern_iff.2 ⟨text, htext, .inl rfl⟩
            · simpa using hlength

/-- The texts one behind another, with a semicolon before the first one or not, are the line. -/
def IsJoinOf (line : Line) (texts : List Line) : Prop :=
  line = join ';' texts ∨ line = ';' :: join ';' texts

theorem finds_joinableLine_iff :
    joinableLine.Finds line ↔
      ∃ texts, texts ≠ [] ∧ (∀ text ∈ texts, IsSpacedStatement text) ∧ IsJoinOf line texts := by
  rw [joinableLine, finds_anchored_iff, matches_repeated_iff]
  constructor
  · rintro ⟨n, hn, -, hrepeats⟩
    obtain ⟨n, rfl⟩ := Nat.exists_eq_add_of_le' hn
    rcases repeats_succ_iff.1 hrepeats with ⟨p, q, rfl, hitem, hrest⟩
    rcases matches_itemPattern_iff.1 hitem with ⟨text, htext, hp⟩
    -- With or without a semicolon, the first statement leaves text in front of the others.
    have hne : [] ++ p ≠ [] := by
      rcases hp with rfl | ⟨-, rfl⟩
      · simp
      · simpa using htext.ne_nil
    rcases (repeats_itemPattern_iff hne).1 hrest with ⟨texts, -, htexts, rfl⟩
    refine ⟨text :: texts, by simp, List.forall_mem_cons.2 ⟨htext, htexts⟩, ?_⟩
    unfold IsJoinOf
    rw [join_cons]
    rcases hp with rfl | ⟨-, rfl⟩
    · exact .inr rfl
    · exact .inl rfl
  · rintro ⟨texts, hne, htexts, hline⟩
    cases texts with
    | nil => exact absurd rfl hne
    | cons text texts =>
        rcases List.forall_mem_cons.1 htexts with ⟨htext, hrest⟩
        unfold IsJoinOf at hline
        rw [join_cons] at hline
        refine ⟨texts.length + 1, by omega, nofun, repeats_succ_iff.2 ?_⟩
        rcases hline with rfl | rfl
        · refine ⟨text, _, rfl, matches_itemPattern_iff.2 ⟨text, htext, .inr ⟨rfl, rfl⟩⟩, ?_⟩
          exact (repeats_itemPattern_iff (by simpa using htext.ne_nil)).2 ⟨texts, rfl, hrest, rfl⟩
        · refine ⟨';' :: text, _, rfl, matches_itemPattern_iff.2 ⟨text, htext, .inl rfl⟩, ?_⟩
          exact (repeats_itemPattern_iff (by simp)).2 ⟨texts, rfl, hrest, rfl⟩

/-! ## Joinable lines -/

theorem dropLeadingSeparator_of_head (h : line.head? ≠ some ';') :
    dropLeadingSeparator line = line := by
  unfold dropLeadingSeparator
  split
  · simp at h
  · rfl

theorem dropLeadingSeparator_append_cons (ha : a ≠ []) :
    dropLeadingSeparator (a ++ ';' :: b) = dropLeadingSeparator a ++ ';' :: b := by
  cases a with
  | nil => exact absurd rfl ha
  | cons c rest =>
      by_cases hc : c = ';'
      · subst hc
        rfl
      · have hrest : ∀ d : Line, (c :: d).head? ≠ some ';' := by simpa using hc
        rw [List.cons_append, dropLeadingSeparator_of_head (hrest _),
          dropLeadingSeparator_of_head (hrest _), List.cons_append]

theorem isJoinOf_cut (line : Line) : IsJoinOf line (cut ';' (dropLeadingSeparator line)) := by
  unfold IsJoinOf
  rw [join_cut]
  by_cases hhead : line.head? = some ';'
  · rcases List.head?_eq_some_iff.1 hhead with ⟨rest, rfl⟩
    exact .inr rfl
  · exact .inl (dropLeadingSeparator_of_head hhead).symm

/-- The first statement is not empty, so a semicolon at the start of the line is the leading one. -/
theorem IsJoinOf.dropLeadingSeparator_eq {texts : List Line} (hne : texts ≠ [])
    (htexts : ∀ text ∈ texts, IsSpacedStatement text) (h : IsJoinOf line texts) :
    dropLeadingSeparator line = join ';' texts := by
  rcases h with rfl | rfl
  · apply dropLeadingSeparator_of_head
    cases texts with
    | nil => exact absurd rfl hne
    | cons text texts =>
        have htext := htexts text List.mem_cons_self
        cases text with
        | nil => exact absurd rfl htext.ne_nil
        | cons c rest =>
            have hc : c ≠ ';' := fun heq => htext.semicolon_not_mem (by simp [heq])
            simpa [join_cons] using hc
  · rfl

theorem isJoinable_eq_true_iff :
    isJoinable line = true ↔
      ∃ texts, texts ≠ [] ∧ (∀ text ∈ texts, IsSpacedStatement text) ∧ IsJoinOf line texts := by
  unfold isJoinable
  rw [List.all_eq_true]
  constructor
  · intro h
    refine ⟨_, cut_ne_nil ';' _, fun text htext => ?_, isJoinOf_cut line⟩
    exact (isJoinableCommand_iff (not_mem_of_mem_cut htext)).1 (h text htext)
  · rintro ⟨texts, hne, htexts, hline⟩ text htext
    have hnone : ∀ text ∈ texts, ';' ∉ text := fun text htext =>
      (htexts text htext).semicolon_not_mem
    rw [hline.dropLeadingSeparator_eq hne htexts, cut_join hnone hne] at htext
    exact (isJoinableCommand_iff (hnone text htext)).2 (htexts text htext)

theorem isJoinable_append_cons (ha : a ≠ []) (hb : b.head? ≠ some ';') :
    isJoinable (a ++ ';' :: b) = (isJoinable a && isJoinable b) := by
  unfold isJoinable
  rw [dropLeadingSeparator_append_cons ha, dropLeadingSeparator_of_head hb, cut_append_cons,
    List.all_append]

theorem isJoinable_of_not_mem (h : ';' ∉ text) : isJoinable text = isJoinableCommand text := by
  have hhead : text.head? ≠ some ';' := fun hhead => h (List.mem_of_head? hhead)
  simp [isJoinable, dropLeadingSeparator_of_head hhead, cut_of_not_mem h]

theorem isJoinable_append_semicolon (text : Line) : isJoinable (text ++ [';']) = false := by
  by_cases hne : text = []
  · subst hne
    decide
  · have hempty : isJoinable [] = false := by decide
    rw [isJoinable_append_cons hne (by simp), hempty, Bool.and_false]

/-- The test for joinable lines finds what the regular expression finds. A semicolon between two
texts joins joinable lines, one statement is joinable by the grammar, and no line that ends in a
semicolon is joinable. -/
theorem joinable_is_compositional :
    (∀ line, isJoinable line = true ↔ joinableLine.Finds line) ∧
      (∀ a b : Line, a ≠ [] → b.head? ≠ some ';' →
        (isJoinable (a ++ ';' :: b) = true ↔ isJoinable a = true ∧ isJoinable b = true)) ∧
      (∀ text, IsTrimmed text → ';' ∉ text →
        (isJoinable text = true ↔ IsJoinableStatement text)) ∧
      ∀ text, isJoinable (text ++ [';']) = false := by
  refine ⟨fun line => ?_, fun a b ha hb => ?_, fun text htrim hnone => ?_,
    isJoinable_append_semicolon⟩
  · rw [isJoinable_eq_true_iff, finds_joinableLine_iff]
  · rw [isJoinable_append_cons ha hb, Bool.and_eq_true]
  · rw [isJoinable_of_not_mem hnone, isJoinableCommand_iff hnone,
      isSpacedStatement_iff_of_isTrimmed htrim]

theorem joinable_element_behind_variable :
    ("x=1".toList ≠ [] ∧ "xArr[i] = 2".toList.head? ≠ some ';' ∧
      isJoinable "x=1;xArr[i] = 2".toList = true) ∧
      IsTrimmed "xArr[i] = 2".toList ∧ ';' ∉ "xArr[i] = 2".toList ∧
        IsJoinableStatement "xArr[i] = 2".toList := by
  rcases joinable_is_compositional with ⟨-, hpair, hone, -⟩
  have hne : "x=1".toList ≠ [] := by decide
  have hhead : "xArr[i] = 2".toList.head? ≠ some ';' := by decide
  have htrimmed : trim "xArr[i] = 2".toList = "xArr[i] = 2".toList := by decide
  have htrim : IsTrimmed "xArr[i] = 2".toList := by
    simpa only [htrimmed] using isTrimmed_trim "xArr[i] = 2".toList
  have hnone : ';' ∉ "xArr[i] = 2".toList := by decide
  have hjoin := (hpair _ _ hne hhead).2 ⟨by decide, by decide⟩
  exact ⟨⟨hne, hhead, hjoin⟩, htrim, hnone, (hone _ htrim hnone).1 (by decide)⟩

end Program
end MotionController
