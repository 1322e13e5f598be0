/-!
# Regular expressions

A regular expression matches a part of a text where the part stands: the anchors look at what is
before and behind it (`Expression.Matches`). A repetition matches parts one behind another
(`Repeats`). Main statements: what repeated characters and optional parts match
(`matches_repeated_one_iff`, `matches_optional_iff`), and that an expression between both anchors is
found in a text exactly if it matches the whole text (`finds_anchored_iff`).
-/

namespace MotionController
namespace Text

/-- A regular expression. The body of a repetition is matched at least `least` times, and at most
`most` times if there is such a bound. -/
inductive Expression where
  | start
  | finish
  | empty
  | one (accepts : Char → Bool)
  | seq (first second : Expression)
  | either (left right : Expression)
  | repeated (body : Expression) (least : Nat) (most : Option Nat)

/-- A text between `before` and `after` that is `n` parts one behind another, each of which is
matched where it stands. -/
inductive Repeats (matched : (before part after : List Char) → Prop) :
    (n : Nat) → (before part after : List Char) → Prop where
  | none (before after : List Char) : Repeats matched 0 before [] after
  | more {n : Nat} {before part rest after : List Char}
      (hpart : matched before part (rest ++ after))
      (hrest : Repeats matched n (before ++ part) rest after) :
      Repeats matched (n + 1) before (part ++ rest) after

namespace Expression

/-- The expression matches `part` where it stands between `before` and `after`. -/
def Matches : Expression → (before part after : List Char) → Prop
  | start, before, part, _ => before = [] ∧ part = []
  | finish, _, part, after => part = [] ∧ after = []
  | empty, _, part, _ => part = []
  | one accepts, _, part, _ => ∃ c, accepts c = true ∧ part = [c]
  | seq first second, before, part, after =>
      ∃ p q, part = p ++ q ∧ first.Matches before p (q ++ after) ∧
        second.Matches (before ++ p) q after
  | either left right, before, part, after =>
      left.Matches before part after ∨ right.Matches before part after
  | repeated body least most, before, part, after =>
      ∃ n, least ≤ n ∧ (∀ m ∈ most, n ≤ m) ∧ Repeats body.Matches n before part after

/-- The expression matches a part of the text. -/
def Finds (expression : Expression) (text : List Char) : Prop :=
  ∃ before part after, text = before ++ (part ++ after) ∧ expression.Matches before part after

/-- The expressions one behind another. -/
def inOrder (expressions : List Expression) : Expression :=
  expressions.foldr seq empty

/-- The expression for one text. -/
def literal (text : List Char) : Expression :=
  inOrder (text.map fun c => one (· = c))

/-- The expression or nothing. -/
def optional (expression : Expression) : Expression :=
  repeated expression 0 (some 1)

end Expression

variable {matched : List Char → List Char → List Char → Prop} {accepts : Char → Bool}
  {expression other : Expression} {expressions : List Expression}
  {before part after text : List Char} {n least : Nat} {most : Option Nat}

/-! ## Repetitions -/

theorem repeats_zero_iff : Repeats matched 0 before part after ↔ part = [] := by
  constructor
  · intro h
    cases h
    rfl
  · intro h
    subst h
    exact Repeats.none before after

theorem repeats_succ_iff :
    Repeats matched (n + 1) before part after ↔
      ∃ p q, part = p ++ q ∧ matched before p (q ++ after) ∧
        Repeats matched n (before ++ p) q after := by
  constructor
  · intro h
    cases h with
    | more hpart hrest => exact ⟨_, _, rfl, hpart, hrest⟩
  · rintro ⟨p, q, rfl, hpart, hrest⟩
    exact Repeats.more hpart hrest

theorem repeats_one_iff :
    Repeats (Expression.one accepts).Matches n before part after ↔
      part.length = n ∧ ∀ c ∈ part, accepts c = true := by
  induction n generalizing before part with
  | zero =>
      rw [repeats_zero_iff, List.length_eq_zero_iff]
      constructor
      · rintro rfl
        simp
      · exact And.left
  | succ n ih =>
      rw [repeats_succ_iff]
      constructor
      · rintro ⟨_, rest, rfl, ⟨c, hc, rfl⟩, hrest⟩
        rcases ih.1 hrest with ⟨hlength, hall⟩
        exact ⟨by simp [hlength], by simpa using ⟨hc, hall⟩⟩
      · rintro ⟨hlength, hall⟩
        cases part with
        | nil => simp at hlength
        | cons c rest =>
            rcases List.forall_mem_cons.1 hall with ⟨hc, hall⟩
            have hlength' : rest.length = n := by simpa using hlength
            exact ⟨[c], rest, rfl, ⟨c, hc, rfl⟩, ih.2 ⟨hlength', hall⟩⟩

namespace Expression

/-! ## What an expression matches -/

theorem matches_repeated_iff :
    (repeated expression least most).Matches before part after ↔
      ∃ n, least ≤ n ∧ (∀ m ∈ most, n ≤ m) ∧ Repeats expression.Matches n before part after :=
  Iff.rfl

theorem matches_repeated_one_iff :
    (repeated (one accepts) least most).Matches before part after ↔
      least ≤ part.length ∧ (∀ m ∈ most, part.length ≤ m) ∧ ∀ c ∈ part, accepts c = true := by
  rw [matches_repeated_iff]
  constructor
  · rintro ⟨n, hleast, hmost, hrepeats⟩
    rcases repeats_one_iff.1 hrepeats with ⟨rfl, hall⟩
    exact ⟨hleast, hmost, hall⟩
  · rintro ⟨hleast, hmost, hall⟩
    exact ⟨part.length, hleast, hmost, repeats_one_iff.2 ⟨rfl, hall⟩⟩

theorem matches_one_iff :
    (one accepts).Matches before part after ↔ ∃ c, accepts c = true ∧ part = [c] :=
  Iff.rfl

theorem matches_either_iff :
    (either expression other).Matches before part after ↔
      expression.Matches before part after ∨ other.Matches before part after :=
  Iff.rfl

theorem matches_optional_iff :
    (optional expression).Matches before part after ↔
      part = [] ∨ expression.Matches before part after := by
  rw [optional, matches_repeated_iff]
  constructor
  · rintro ⟨n, -, hmost, hrepeats⟩
    have hn : n ≤ 1 := hmost 1 rfl
    match n, hn, hrepeats with
    | 0, _, hrepeats => exact .inl (repeats_zero_iff.1 hrepeats)
    | 1, _, hrepeats =>
        rcases repeats_succ_iff.1 hrepeats with ⟨p, q, rfl, hpart, hrest⟩
        rw [repeats_zero_iff.1 hrest] at hpart ⊢
        simpa using Or.inr hpart
  · rintro (rfl | hpart)
    · exact ⟨0, Nat.le_refl 0, by simp, Repeats.none before after⟩
    · refine ⟨1, Nat.zero_le 1, by simp, repeats_succ_iff.2 ⟨part, [], ?_, ?_, ?_⟩⟩
      · simp
      · exact hpart
      · exact Repeats.none _ _

theorem matches_inOrder_nil : (inOrder []).Matches before part after ↔ part = [] :=
  Iff.rfl

theorem matches_inOrder_cons :
    (inOrder (expression :: expressions)).Matches before part after ↔
      ∃ p q, part = p ++ q ∧ expression.Matches before p (q ++ after) ∧
        (inOrder expressions).Matches (before ++ p) q after :=
  Iff.rfl

/-- The expression for one text matches that text only. -/
theorem matches_literal_iff : (literal text).Matches before part after ↔ part = text := by
  induction text generalizing before part with
  | nil => exact matches_inOrder_nil
  | cons c rest ih =>
      have hstep : literal (c :: rest) = inOrder (one (· = c) :: rest.map fun d => one (· = d)) :=
        rfl
      simp only [hstep, matches_inOrder_cons, matches_one_iff, decide_eq_true_eq]
      constructor
      · rintro ⟨_, q, rfl, ⟨_, rfl, rfl⟩, hrest⟩
        rw [ih.1 hrest, List.singleton_append]
      · rintro rfl
        exact ⟨[c], rest, rfl, ⟨c, rfl, rfl⟩, ih.2 rfl⟩

/-! ## Searching -/

/-- An expression between both anchors is found where it matches the whole text. -/
theorem finds_anchored_iff :
    (inOrder [start, expression, finish]).Finds text ↔ expression.Matches [] text [] := by
  unfold Finds
  constructor
  · rintro ⟨before, _, after, rfl, _, _, rfl, ⟨rfl, rfl⟩, q, _, rfl, hpart, _, _, rfl, ⟨rfl, hend⟩,
      hnil⟩
    rcases List.append_eq_nil_iff.1 hend with ⟨rfl, rfl⟩
    simpa using hpart
  · intro h
    refine ⟨[], text, [], by simp, [], text, rfl, ⟨rfl, rfl⟩, text, [], by simp, ?_, ?_⟩
    · simpa using h
    · exact ⟨[], [], rfl, ⟨rfl, rfl⟩, rfl⟩

end Expression

end Text
end MotionController
