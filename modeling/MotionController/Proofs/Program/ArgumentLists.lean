import Mathlib.Data.Nat.Find
import MotionController.Program.AxisArguments
import MotionController.Proofs.Numeric.Decimal
import MotionController.Proofs.Text.Cutting

/-!
# Lists of arguments by axis

An axis has several names: letters in either case, and numbers with zeros or a plus sign before
them (`NamesAxis`). Of the arguments for an axis the last one counts, be it empty
(`lastArgument`). A list has the last argument of each axis at its place, up to the last axis whose
argument is not empty (`IsHighest`), and is refused for a key that names no axis or when there is no
such argument (`ListsByAxis`).
-/

namespace MotionController
namespace Program

open Numeric
open Text

variable {pairs : List (String × String)} {axis : Nat} {key : String}

/-! ## Names of axes -/

/-- The letters of the axes, in order. -/
def axisLetters : List Char :=
  "ABCDEFGH".toList

/-- The other letters of the first axes, in order. -/
def axisAliases : List Char :=
  "XYZW".toList

/-- The key names the axis at a place: a letter in either case, or a number that may have zeros and
a plus sign before it. -/
inductive NamesAxis (key : String) : (axis : Nat) → Prop where
  | letter {axis : Nat} {c : Char} (hkey : key.toList = [c])
      (h : axisLetters[axis]? = some c.toUpper ∨ axisAliases[axis]? = some c.toUpper) :
      NamesAxis key axis
  | number {digits : List Char} (hkey : key.toList = digits ∨ key.toList = '+' :: digits)
      (hdigits : IsDigits digits) (h : digitsValue digits < maxAxes) :
      NamesAxis key (digitsValue digits)

/-- The key names an axis. -/
def IsAxis (key : String) : Prop :=
  ∃ axis, NamesAxis key axis

theorem getElem?_axisLetters_eq_some_iff {letter : Char} :
    axisLetters[axis]? = some letter ↔
      ('A' ≤ letter ∧ letter ≤ 'H') ∧ letter.toNat - 'A'.toNat = axis := by
  have hletters : ∀ n < 8, axisLetters[n]? = some (Char.ofNat ('A'.toNat + n)) := by decide
  constructor
  · intro h
    have hlt : axis < 8 := (List.getElem?_eq_some_iff.1 h).1
    obtain rfl : Char.ofNat ('A'.toNat + axis) = letter := by
      simpa only [hletters axis hlt, Option.some.injEq] using h
    revert axis
    decide
  · rintro ⟨⟨hlow, hhigh⟩, rfl⟩
    have hlow' : 'A'.toNat ≤ letter.toNat := hlow
    have hhigh' : letter.toNat ≤ 'A'.toNat + 7 := hhigh
    rw [hletters _ (by omega), Nat.add_sub_cancel' hlow', Char.ofNat_toNat]

theorem axisIndex?_eq_some_iff {c : Char} :
    axisIndex? c = some axis ↔
      axisLetters[axis]? = some c.toUpper ∨ axisAliases[axis]? = some c.toUpper := by
  unfold axisIndex?
  generalize c.toUpper = letter
  dsimp only
  rw [getElem?_axisLetters_eq_some_iff]
  constructor
  · intro h
    split at h
    · next hrange => exact .inl ⟨hrange, Option.some.inj h⟩
    · split at h <;> cases h <;> simp [axisAliases]
  · rintro (⟨hrange, rfl⟩ | h)
    · rw [if_pos hrange]
    · rcases List.getElem?_eq_some_iff.1 h with ⟨hlt, rfl⟩
      revert axis
      decide

theorem isAlpha_of_axisIndex? {c : Char} (h : axisIndex? c = some axis) : c.isAlpha = true := by
  by_cases hlower : 'a'.val ≤ c.val ∧ c.val ≤ 'z'.val
  · have hletter : c.isLower = true := by
      change (decide ('a'.val ≤ c.val) && decide (c.val ≤ 'z'.val)) = true
      simpa using hlower
    exact Bool.or_eq_true_iff.2 (.inr hletter)
  · -- Any other character is its own upper case.
    have hsame : c.toUpper = c := dif_neg hlower
    have hletters : (axisLetters ++ axisAliases).all Char.isAlpha = true := by decide
    apply List.all_eq_true.1 hletters c
    rw [axisIndex?_eq_some_iff, hsame] at h
    rcases h with h | h
    · exact List.mem_append_left _ (List.mem_of_getElem? h)
    · exact List.mem_append_right _ (List.mem_of_getElem? h)

theorem axisIndex?_lt {c : Char} (h : axisIndex? c = some axis) : axis < maxAxes := by
  rcases axisIndex?_eq_some_iff.1 h with h | h
  · exact (List.getElem?_eq_some_iff.1 h).1
  · exact Nat.lt_trans (List.getElem?_eq_some_iff.1 h).1 (by decide)

/-- A key other than one letter is read as a number. -/
theorem resolveAxis?_of_not_letter (h : ∀ c, key.toList = [c] → c.isAlpha = false) :
    resolveAxis? key = (readUnsigned? 64 key.toList).filter (· < maxAxes) := by
  unfold resolveAxis?
  dsimp only
  split
  · next c hkey => simp [h c hkey, hkey]
  · rfl

theorem namesAxis_of_readUnsigned? (h : readUnsigned? 64 key.toList = some axis)
    (hlt : axis < maxAxes) : NamesAxis key axis := by
  rcases readUnsigned?_eq_some_iff_exists.1 h with ⟨digits, hkey, hdigits, rfl, -⟩
  exact .number hkey hdigits hlt

theorem resolveAxis?_eq_some_iff : resolveAxis? key = some axis ↔ NamesAxis key axis := by
  constructor
  · intro h
    simp only [resolveAxis?, Option.filter_eq_some_iff, decide_eq_true_eq] at h
    rcases h with ⟨hindex, hlt⟩
    split at hindex
    · next c hkey =>
        split at hindex
        · exact .letter hkey (axisIndex?_eq_some_iff.1 hindex)
        · exact namesAxis_of_readUnsigned? (hkey ▸ hindex) hlt
    · exact namesAxis_of_readUnsigned? hindex hlt
  · intro h
    cases h with
    | letter hkey h =>
        have hindex := axisIndex?_eq_some_iff.2 h
        simp [resolveAxis?, hkey, isAlpha_of_axisIndex? hindex, hindex, axisIndex?_lt hindex]
    | @number digits hkey hdigits h =>
        -- One digit is not a letter, and a single plus sign is no number.
        have hsmall : digitsValue digits < Nat.pow 2 64 := Nat.lt_trans h (by decide)
        have hread := readUnsigned?_eq_some_iff_exists.2 ⟨digits, hkey, hdigits, rfl, hsmall⟩
        have hletter : ∀ c, key.toList = [c] → c.isAlpha = false := by
          rintro c hc
          rcases hkey with hkey | hkey
          · obtain rfl : digits = [c] := hkey.symm.trans hc
            exact not_isAlpha_of_isDigit (hdigits.isDigit c List.mem_cons_self)
          · obtain ⟨-, rfl⟩ := List.cons.inj (hkey.symm.trans hc)
            exact absurd rfl hdigits.ne_nil
        simp [resolveAxis?_of_not_letter hletter, hread, h]

instance (key : String) (axis : Nat) : Decidable (NamesAxis key axis) :=
  decidable_of_iff _ resolveAxis?_eq_some_iff

theorem isAxis_iff : IsAxis key ↔ (resolveAxis? key).isSome = true := by
  simp only [IsAxis, ← resolveAxis?_eq_some_iff, Option.isSome_iff_exists]

instance (key : String) : Decidable (IsAxis key) :=
  decidable_of_iff _ isAxis_iff.symm

theorem NamesAxis.lt (h : NamesAxis key axis) : axis < maxAxes := by
  have hresolved := resolveAxis?_eq_some_iff.2 h
  simp only [resolveAxis?, Option.filter_eq_some_iff, decide_eq_true_eq] at hresolved
  exact hresolved.2

/-! ## The view -/

/-- The first key that names no axis. -/
def firstUnknown? (pairs : List (String × String)) : Option String :=
  (pairs.map (·.1)).find? fun key => ¬IsAxis key

/-- The arguments for an axis, in order. -/
def argumentsFor (axis : Nat) (pairs : List (String × String)) : List String :=
  (pairs.filter fun pair => NamesAxis pair.1 axis).map (·.2)

/-- The last argument for an axis, which is empty when there is none. -/
def lastArgument (axis : Nat) (pairs : List (String × String)) : String :=
  (argumentsFor axis pairs).getLast?.getD ""

/-- The axis is the last one whose argument is not empty. -/
structure IsHighest (pairs : List (String × String)) (axis : Nat) : Prop where
  given : lastArgument axis pairs ≠ ""
  above : ∀ other, axis < other → lastArgument other pairs = ""

/-- What comes of listing arguments by axis. -/
structure ListsByAxis (pairs : List (String × String)) (outcome : Except AxisError String) :
    Prop where
  /-- A key that names no axis is reported, the first one of them. -/
  unknown : ∀ key, outcome = .error (.unknownAxis key) ↔ firstUnknown? pairs = some key
  /-- No list is made of empty arguments only. -/
  empty : outcome = .error .noValues ↔
    firstUnknown? pairs = none ∧ ∀ axis, lastArgument axis pairs = ""
  /-- Else the list goes up to the highest axis, and not to a comma behind it. -/
  listed : firstUnknown? pairs = none → (∃ axis, lastArgument axis pairs ≠ "") →
    ∃ highest text, IsHighest pairs highest ∧ outcome = .ok text ∧
      ((∀ pair ∈ pairs, ',' ∉ pair.2.toList) →
        cut ',' text.toList =
            (List.range (highest + 1)).map (fun axis => (lastArgument axis pairs).toList) ∧
          text.toList.getLast? ≠ some ',')

/-! ## Last arguments -/

theorem lastArgument_append_singleton (axis : Nat) (pairs : List (String × String))
    (pair : String × String) :
    lastArgument axis (pairs ++ [pair]) =
      if NamesAxis pair.1 axis then pair.2 else lastArgument axis pairs := by
  by_cases h : NamesAxis pair.1 axis <;> simp [lastArgument, argumentsFor, h]

/-- Nothing is given for places behind the axes. -/
theorem lt_of_lastArgument_ne (h : lastArgument axis pairs ≠ "") : axis < maxAxes := by
  by_contra hle
  have hnone : argumentsFor axis pairs = [] := by
    simp only [argumentsFor, List.map_eq_nil_iff, List.filter_eq_nil_iff, decide_eq_true_eq]
    exact fun pair _ hnames => hle hnames.lt
  exact h (by simp [lastArgument, hnone])

theorem comma_not_mem_lastArgument (h : ∀ pair ∈ pairs, ',' ∉ pair.2.toList) (axis : Nat) :
    ',' ∉ (lastArgument axis pairs).toList := by
  unfold lastArgument
  cases hlast : (argumentsFor axis pairs).getLast? with
  | none => simp
  | some argument =>
      rcases List.mem_map.1 (List.mem_of_getLast? hlast) with ⟨pair, hpair, rfl⟩
      exact h pair (List.mem_filter.1 hpair).1

/-- There are only so many axes, so one of them is the highest. -/
theorem exists_isHighest (h : lastArgument axis pairs ≠ "") :
    ∃ highest, IsHighest pairs highest := by
  have hle := Nat.le_of_lt (lt_of_lastArgument_ne h)
  refine ⟨Nat.findGreatest (lastArgument · pairs ≠ "") maxAxes,
    Nat.findGreatest_spec (P := (lastArgument · pairs ≠ "")) hle h, ?_⟩
  intro other hother
  by_contra hgiven
  exact Nat.findGreatest_is_greatest hother (Nat.le_of_lt (lt_of_lastArgument_ne hgiven)) hgiven

/-! ## Places -/

/-- The last arguments of the axes, each at its place. -/
def lastArguments (pairs : List (String × String)) : List String :=
  (List.range maxAxes).map fun axis => lastArgument axis pairs

theorem placeArguments_append (places : List String) (pairs more : List (String × String)) :
    placeArguments places (pairs ++ more) =
      (placeArguments places pairs).bind fun filled => placeArguments filled more := by
  induction pairs generalizing places with
  | nil => rfl
  | cons pair pairs ih =>
      rcases pair with ⟨key, argument⟩
      simp only [List.cons_append, placeArguments]
      cases resolveAxis? key with
      | some index => exact ih _
      | none => rfl

theorem placeArguments_of_unknown (places : List String) (h : firstUnknown? pairs = some key) :
    placeArguments places pairs = .error (.unknownAxis key) := by
  induction pairs generalizing places with
  | nil => cases h
  | cons pair pairs ih =>
      rcases pair with ⟨first, argument⟩
      simp only [placeArguments]
      cases hresolved : resolveAxis? first with
      | none =>
          have hunknown : ¬IsAxis first := by simp [isAxis_iff, hresolved]
          -- Nothing behind the unknown key is looked at.
          obtain rfl : first = key := by simpa [firstUnknown?, hunknown] using h
          rfl
      | some index =>
          have hknown : IsAxis first := by simp [isAxis_iff, hresolved]
          exact ih _ (by simpa [firstUnknown?, hknown] using h)

theorem firstUnknown?_append_singleton_eq_none {pair : String × String} :
    firstUnknown? (pairs ++ [pair]) = none ↔ firstUnknown? pairs = none ∧ IsAxis pair.1 := by
  simp [firstUnknown?]

/-- An argument that is put into its place is the last one of its axis. -/
theorem lastArguments_append_singleton (pairs : List (String × String))
    (h : NamesAxis key axis) (argument : String) :
    lastArguments (pairs ++ [(key, argument)]) = (lastArguments pairs).set axis argument := by
  have hiff : ∀ other, NamesAxis key other ↔ axis = other := by
    intro other
    simp only [← resolveAxis?_eq_some_iff, resolveAxis?_eq_some_iff.2 h, Option.some.injEq]
  apply List.ext_getElem
  · simp [lastArguments]
  · intro place hleft hright
    simp [lastArguments, List.getElem_set, lastArgument_append_singleton, hiff]

theorem placeArguments_of_known (h : firstUnknown? pairs = none) :
    placeArguments (List.replicate maxAxes "") pairs = .ok (lastArguments pairs) := by
  -- The induction is from the right end, where the argument that counts is.
  induction pairs using List.reverseRecOn with
  | nil => rfl
  | append_singleton pairs pair ih =>
      rcases pair with ⟨key, argument⟩
      rcases firstUnknown?_append_singleton_eq_none.1 h with ⟨hpairs, axis, haxis⟩
      have hresolved := resolveAxis?_eq_some_iff.2 haxis
      rw [placeArguments_append, ih hpairs, lastArguments_append_singleton pairs haxis]
      simp [Except.bind, placeArguments, hresolved]

/-- Arguments for different axes go to different places. -/
theorem placeArguments_exchange (places : List String) {first second : String × String} {i j : Nat}
    (hfirst : NamesAxis first.1 i) (hsecond : NamesAxis second.1 j) (hne : i ≠ j)
    (rest : List (String × String)) :
    placeArguments places (second :: first :: rest) =
      placeArguments places (first :: second :: rest) := by
  have hi := resolveAxis?_eq_some_iff.2 hfirst
  have hj := resolveAxis?_eq_some_iff.2 hsecond
  simp only [placeArguments, hi, hj, List.set_comm _ _ hne]

/-! ## Empty places at the end -/

theorem dropEmptyEnd_append_singleton (places : List String) (place : String) :
    dropEmptyEnd (places ++ [place]) =
      if place = "" then dropEmptyEnd places else places ++ [place] := by
  by_cases h : place = "" <;> simp [dropEmptyEnd, h]

theorem dropEmptyEnd_of_empty {f : Nat → String} (h : ∀ i, f i = "") (n : Nat) :
    dropEmptyEnd ((List.range n).map f) = [] := by
  induction n with
  | zero => rfl
  | succ n ih => simp [List.range_succ, dropEmptyEnd_append_singleton, h n, ih]

theorem dropEmptyEnd_of_highest {f : Nat → String} {n highest : Nat} (hlt : highest < n)
    (hgiven : f highest ≠ "") (habove : ∀ i, highest < i → f i = "") :
    dropEmptyEnd ((List.range n).map f) = (List.range (highest + 1)).map f := by
  induction n with
  | zero => cases hlt
  | succ n ih =>
      rcases Nat.lt_succ_iff_lt_or_eq.1 hlt with hless | rfl
      · simpa [List.range_succ, dropEmptyEnd_append_singleton, habove n hless] using ih hless
      · simp [List.range_succ, dropEmptyEnd_append_singleton, hgiven]

/-! ## Lists -/

theorem argumentList_of_unknown (h : firstUnknown? pairs = some key) :
    argumentList pairs = .error (.unknownAxis key) := by
  simp [argumentList, placeArguments_of_unknown _ h, bind, Except.bind]

theorem argumentList_of_empty (h : firstUnknown? pairs = none)
    (hempty : ∀ axis, lastArgument axis pairs = "") : argumentList pairs = .error .noValues := by
  have hused : dropEmptyEnd (lastArguments pairs) = [] := dropEmptyEnd_of_empty hempty maxAxes
  simp [argumentList, placeArguments_of_known h, bind, Except.bind, hused, throw, throwThe,
    MonadExceptOf.throw]

theorem argumentList_of_highest (h : firstUnknown? pairs = none) {highest : Nat}
    (hhighest : IsHighest pairs highest) :
    argumentList pairs = .ok (String.ofList (join ',' ((List.range (highest + 1)).map
      fun axis => (lastArgument axis pairs).toList))) := by
  have hused : dropEmptyEnd (lastArguments pairs) =
      (List.range (highest + 1)).map fun axis => lastArgument axis pairs :=
    dropEmptyEnd_of_highest (lt_of_lastArgument_ne hhighest.given) hhighest.given
      hhighest.above
  simp [argumentList, placeArguments_of_known h, bind, Except.bind, hused, pure, Except.pure,
    Function.comp_def]

/-- Texts without commas come back from the list they make. Where the last one is not empty, the
list does not end with a comma. -/
theorem cut_join_of_getLast?_ne_nil {pieces : List (List Char)} (hne : pieces ≠ [])
    (hcommas : ∀ piece ∈ pieces, ',' ∉ piece) (hlast : pieces.getLast? ≠ some []) :
    cut ',' (join ',' pieces) = pieces ∧ (join ',' pieces).getLast? ≠ some ',' := by
  have hcut := cut_join hcommas hne
  refine ⟨hcut, ?_⟩
  intro hcomma
  rcases List.getLast?_eq_some_iff.1 hcomma with ⟨front, hfront⟩
  -- Behind a comma at the end an empty text would be found.
  rw [hfront, cut_append_cons] at hcut
  exact hlast (by simp [← hcut])

theorem listsByAxis_argumentList (pairs : List (String × String)) :
    ListsByAxis pairs (argumentList pairs) := by
  cases hunknown : firstUnknown? pairs with
  | some first =>
      have hlist := argumentList_of_unknown hunknown
      exact {
        unknown := fun key => by simp [hlist, hunknown]
        empty := by simp [hlist, hunknown]
        listed := fun h => by simp [hunknown] at h }
  | none =>
      by_cases hempty : ∀ axis, lastArgument axis pairs = ""
      · have hlist := argumentList_of_empty hunknown hempty
        exact {
          unknown := fun key => by simp [hlist, hunknown]
          empty := by simpa [hlist, hunknown] using hempty
          listed := fun _ ⟨axis, haxis⟩ => absurd (hempty axis) haxis }
      · rcases not_forall.1 hempty with ⟨axis, haxis⟩
        rcases exists_isHighest haxis with ⟨highest, hhighest⟩
        have hlist := argumentList_of_highest hunknown hhighest
        refine {
          unknown := fun key => by simp [hlist, hunknown]
          empty := by simp [hlist, hempty]
          listed := fun _ _ => ⟨highest, _, hhighest, hlist, fun hcommas => ?_⟩ }
        rw [String.toList_ofList]
        apply cut_join_of_getLast?_ne_nil
        · simp
        · simpa using fun place _ => comma_not_mem_lastArgument hcommas place
        · simp [List.range_succ, hhighest.given]

/-- Arguments are listed by axis, and neighbouring ones for different axes can change places. -/
theorem argument_list_by_axis (pairs : List (String × String)) :
    ListsByAxis pairs (argumentList pairs) ∧
      ∀ before after first second i j, pairs = before ++ first :: second :: after →
        NamesAxis first.1 i → NamesAxis second.1 j → i ≠ j →
          argumentList (before ++ second :: first :: after) = argumentList pairs := by
  refine ⟨listsByAxis_argumentList pairs, ?_⟩
  rintro before after first second i j rfl hfirst hsecond hne
  simp only [argumentList, placeArguments_append,
    placeArguments_exchange _ hfirst hsecond hne after]

/-- Axes under several names, one of which takes its argument back; two neighbours are exchanged. -/
theorem argument_list_by_axis_of_names :
    let pairs := [("x", "1"), ("D", "7"), ("0", ""), ("+001", "5")]
    ∃ highest text, IsHighest pairs highest ∧
      argumentList [("x", "1"), ("D", "7"), ("+001", "5"), ("0", "")] = .ok text ∧
        cut ',' text.toList = (List.range (highest + 1)).map fun axis =>
          (lastArgument axis pairs).toList := by
  intro pairs
  rcases argument_list_by_axis pairs with ⟨hlists, hexchange⟩
  rcases hlists.listed (by decide) ⟨3, by decide⟩ with ⟨highest, text, hhighest, hlist, hcut⟩
  have hswapped := hexchange [("x", "1"), ("D", "7")] [] ("0", "") ("+001", "5") 0 1 rfl
    (by decide) (by decide) (by decide)
  exact ⟨highest, text, hhighest, hswapped.trans hlist, (hcut (by decide)).1⟩

end Program
end MotionController
