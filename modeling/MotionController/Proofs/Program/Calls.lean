import Mathlib.Data.List.TakeWhile
import MotionController.Program.Call
import MotionController.Proofs.Text.Cutting

/-!
# Single calls

A call is a head, which is a mnemonic and a label, and an ending behind it
(`splitCall?_eq_some_iff`). Its arguments go to the first closing parenthesis behind which a call
may end. Where there is none, an opened list of arguments runs on into a text that is put behind
(`splitArguments?_append_semicolon`). Only then a text behind a semicolon changes how a call before
it is read (`splitCall?_append_semicolon`).
-/

namespace MotionController
namespace Program

open Text

variable {text inner after a b mnemonic name tail : List Char} {call : Call}

/-! ## Arguments -/

/-- A list of arguments may end in the text: at a closing parenthesis behind which a call may
end. -/
def MayEndIn (text : List Char) : Prop :=
  ∃ inner after, text = inner ++ ')' :: after ∧ callEndsBefore after = true

theorem callEndsBefore_append_semicolon (text b : List Char) :
    callEndsBefore (text ++ ';' :: b) = callEndsBefore text := by
  cases text with
  | nil => rfl
  | cons c rest =>
      have hthread : (rest ++ ';' :: b).takeWhile (· ≠ ';') = rest.takeWhile (· ≠ ';') :=
        takeWhile_append_cons_of_refused (by decide) rest b
      have hcondition : ((rest ++ ';' :: b).head? == some '(') = (rest.head? == some '(') := by
        cases rest <;> rfl
      by_cases hc : c = ','
      · subst hc
        simp only [List.cons_append, callEndsBefore, hthread, hcondition]
      · by_cases hsemicolon : c = ';'
        · subst hsemicolon
          rfl
        · simp [callEndsBefore, hc, hsemicolon]

theorem mayEndIn_cons_iff {c : Char} :
    MayEndIn (c :: text) ↔ c = ')' ∧ callEndsBefore text = true ∨ MayEndIn text := by
  constructor
  · rintro ⟨_ | ⟨d, inner⟩, after, heq, hends⟩
    · simp only [List.nil_append, List.cons.injEq] at heq
      exact .inl ⟨heq.1, heq.2 ▸ hends⟩
    · simp only [List.cons_append, List.cons.injEq] at heq
      exact .inr ⟨inner, after, heq.2, hends⟩
  · rintro (⟨rfl, hends⟩ | ⟨inner, after, rfl, hends⟩)
    · exact ⟨[], text, rfl, hends⟩
    · exact ⟨c :: inner, after, rfl, hends⟩

theorem MayEndIn.of_suffix (h : MayEndIn a) (hsuffix : a <:+ b) : MayEndIn b := by
  rcases h with ⟨inner, after, rfl, hends⟩
  rcases hsuffix with ⟨start, rfl⟩
  exact ⟨start ++ inner, after, by simp, hends⟩

theorem splitArguments?_eq_none_iff : splitArguments? text = none ↔ ¬MayEndIn text := by
  induction text with
  | nil => simp [splitArguments?, MayEndIn]
  | cons c rest ih =>
      by_cases hcloses : c = ')' ∧ callEndsBefore rest = true
      · simp [splitArguments?, mayEndIn_cons_iff, hcloses]
      · simp [splitArguments?, mayEndIn_cons_iff, hcloses, ih]

theorem splitArguments?_cons_of_ne {c : Char} (hc : c ≠ ')') (text : List Char) :
    splitArguments? (c :: text) =
      (splitArguments? text).map fun ending => (c :: ending.1, ending.2) := by
  simp [splitArguments?, hc]

/-- Arguments end at the first character, or where they end behind it. -/
theorem splitArguments?_cons_cases {c : Char}
    (h : splitArguments? (c :: text) = some (inner, after)) :
    c = ')' ∧ inner = [c] ∧ after = text ∨
      ∃ inner', splitArguments? text = some (inner', after) ∧ inner = c :: inner' := by
  by_cases hcloses : c = ')' ∧ callEndsBefore text = true
  · simp only [splitArguments?, hcloses, and_self, if_true, Option.some.injEq, Prod.mk.injEq] at h
    exact .inl ⟨hcloses.1, by simp [hcloses.1, h.1], h.2.symm⟩
  · simp only [splitArguments?, hcloses, if_false, Option.map_eq_some_iff, Prod.mk.injEq] at h
    rcases h with ⟨⟨inner', after'⟩, hinner, rfl, rfl⟩
    exact .inr ⟨inner', hinner, rfl⟩

/-- Arguments do not end in a text without closing parenthesis. -/
theorem splitArguments?_append_of_not_mem (ha : ')' ∉ a) (text : List Char) :
    splitArguments? (a ++ text) =
      (splitArguments? text).map fun ending => (a ++ ending.1, ending.2) := by
  induction a with
  | nil => simp
  | cons c a ih =>
      simp only [List.mem_cons, not_or] at ha
      simp [splitArguments?_cons_of_ne (Ne.symm ha.1), ih ha.2, Function.comp_def]

/-- Arguments that end before a semicolon end there whatever is behind it; others run on. -/
theorem splitArguments?_append_semicolon (text b : List Char) :
    splitArguments? (text ++ ';' :: b) =
      match splitArguments? text with
      | some (inner, after) => some (inner, after ++ ';' :: b)
      | none => (splitArguments? b).map fun ending => (text ++ ';' :: ending.1, ending.2) := by
  induction text with
  | nil =>
      have hc : ';' ≠ ')' := by decide
      simp [splitArguments?_cons_of_ne hc, splitArguments?]
  | cons c rest ih =>
      by_cases hcloses : c = ')' ∧ callEndsBefore rest = true
      · simp [splitArguments?, callEndsBefore_append_semicolon, hcloses]
      · have hcloses' : ¬(c = ')' ∧ callEndsBefore (rest ++ ';' :: b) = true) := by
          simpa only [callEndsBefore_append_semicolon] using hcloses
        simp only [List.cons_append, splitArguments?, hcloses, hcloses', if_false, ih]
        cases splitArguments? rest <;> simp [Function.comp_def]

/-! ## The head of a call -/

/-- A mnemonic, a number sign and the name of a label. -/
def callHead (mnemonic name : List Char) : List Char :=
  mnemonic ++ '#' :: name

/-- These are the mnemonic and the whole name of the label of a call before `tail`. -/
structure IsCallHead (mnemonic name tail : List Char) : Prop where
  mnemonic_mem : mnemonic ∈ callMnemonics
  name_ne_nil : name ≠ []
  length_name_le : name.length ≤ maxLabelLength
  name_all : ∀ c ∈ name, isLabelChar c = true
  whole : ∀ c ∈ tail.head?, isLabelChar c = false

theorem mnemonic_of_mem (h : mnemonic ∈ callMnemonics) :
    (∃ c d, mnemonic = [c, d]) ∧ ';' ∉ mnemonic ∧ ')' ∉ mnemonic := by
  simp only [callMnemonics, List.mem_cons, List.not_mem_nil, or_false] at h
  rcases h with rfl | rfl | rfl
  · exact ⟨⟨'J', 'S', rfl⟩, by decide⟩
  · exact ⟨⟨'J', 'P', rfl⟩, by decide⟩
  · exact ⟨⟨'X', 'Q', rfl⟩, by decide⟩

theorem IsCallHead.not_mem_name {c : Char} (h : IsCallHead mnemonic name tail)
    (hc : isLabelChar c = false) : c ∉ name := by
  intro hmem
  simp [h.name_all c hmem] at hc

theorem IsCallHead.semicolon_not_mem (h : IsCallHead mnemonic name tail) :
    ';' ∉ callHead mnemonic name := by
  have hname : ';' ∉ name := h.not_mem_name (by decide)
  simp [callHead, (mnemonic_of_mem h.mnemonic_mem).2.1, hname]

theorem IsCallHead.close_not_mem (h : IsCallHead mnemonic name tail) :
    ')' ∉ callHead mnemonic name := by
  have hname : ')' ∉ name := h.not_mem_name (by decide)
  simp [callHead, (mnemonic_of_mem h.mnemonic_mem).2.2, hname]

theorem isCallHead_append_semicolon (tail b : List Char) :
    IsCallHead mnemonic name (tail ++ ';' :: b) ↔ IsCallHead mnemonic name tail := by
  have hwhole : (∀ c ∈ (tail ++ ';' :: b).head?, isLabelChar c = false) ↔
      ∀ c ∈ tail.head?, isLabelChar c = false := by
    cases tail with
    | nil => simp [show isLabelChar ';' = false by decide]
    | cons c tail => simp
  constructor
  · intro h
    exact ⟨h.mnemonic_mem, h.name_ne_nil, h.length_name_le, h.name_all, hwhole.1 h.whole⟩
  · intro h
    exact ⟨h.mnemonic_mem, h.name_ne_nil, h.length_name_le, h.name_all, hwhole.2 h.whole⟩

theorem splitCall?_callHead (h : IsCallHead mnemonic name tail) :
    splitCall? (callHead mnemonic name ++ tail) =
      (splitCallEnd? tail).map fun ending => (⟨mnemonic, '#' :: name, ending.1⟩, ending.2) := by
  rcases (mnemonic_of_mem h.mnemonic_mem).1 with ⟨c, d, rfl⟩
  have hname := takeWhile_append_of_head h.name_all h.whole
  have hrest := dropWhile_append_of_head h.name_all h.whole
  simp [callHead, splitCall?, hname, hrest, h.mnemonic_mem, h.name_ne_nil, h.length_name_le]

/-- A run of label characters is the whole name of a label. -/
theorem isCallHead_of_run {rest : List Char} (hmnemonic : mnemonic ∈ callMnemonics)
    (hname : rest.takeWhile isLabelChar ≠ [])
    (hlength : (rest.takeWhile isLabelChar).length ≤ maxLabelLength) :
    IsCallHead mnemonic (rest.takeWhile isLabelChar) (rest.dropWhile isLabelChar) where
  mnemonic_mem := hmnemonic
  name_ne_nil := hname
  length_name_le := hlength
  name_all := fun _ hc => List.mem_takeWhile_imp hc
  whole := by
    cases hrest : rest.dropWhile isLabelChar with
    | nil => simp
    | cons e others =>
        have hne : rest.dropWhile isLabelChar ≠ [] := by simp [hrest]
        simpa [hrest] using List.head_dropWhile_not isLabelChar hne

theorem exists_callHead_of_splitCall? (h : splitCall? text = some (call, after)) :
    ∃ mnemonic name tail, IsCallHead mnemonic name tail ∧
      text = callHead mnemonic name ++ tail := by
  unfold splitCall? at h
  split at h
  · next c d rest =>
      dsimp only at h
      split at h
      · next hhead =>
          rcases hhead with ⟨hmnemonic, hname, hlength⟩
          refine ⟨[c, d], _, _, isCallHead_of_run hmnemonic hname hlength, ?_⟩
          simp [callHead, List.takeWhile_append_dropWhile]
      · cases h
  · cases h

/-- A call is read where a head stands, with the ending that is read behind it. -/
theorem splitCall?_eq_some_iff :
    splitCall? text = some (call, after) ↔
      ∃ mnemonic name tail arguments, IsCallHead mnemonic name tail ∧
        text = callHead mnemonic name ++ tail ∧ splitCallEnd? tail = some (arguments, after) ∧
          call = ⟨mnemonic, '#' :: name, arguments⟩ := by
  constructor
  · intro h
    rcases exists_callHead_of_splitCall? h with ⟨mnemonic, name, tail, hhead, rfl⟩
    simp only [splitCall?_callHead hhead, Option.map_eq_some_iff, Prod.mk.injEq] at h
    rcases h with ⟨⟨arguments, after'⟩, hending, hcall, rfl⟩
    exact ⟨mnemonic, name, tail, arguments, hhead, rfl, hending, hcall.symm⟩
  · rintro ⟨mnemonic, name, tail, arguments, hhead, rfl, hending, rfl⟩
    simp [splitCall?_callHead hhead, hending]

/-! ## The ending of a call -/

theorem splitCallEnd?_open (inner : List Char) :
    splitCallEnd? ('(' :: inner) =
      (splitArguments? inner).map fun ending => ('(' :: ending.1, ending.2) := by
  have hopen : '(' ≠ ')' := by decide
  simp [splitCallEnd?, splitArguments?_cons_of_ne hopen]

theorem splitCallEnd?_of_head?_ne (htail : tail.head? ≠ some '(') :
    splitCallEnd? tail = if callEndsBefore tail then some ([], tail) else none := by
  simp [splitCallEnd?, htail]

/-- The arguments of a call are those read behind its head, or there are none. -/
theorem exists_tail_of_splitCall? (h : splitCall? text = some (call, after)) :
    ∃ head tail, text = head ++ tail ∧ ';' ∉ head ∧ ')' ∉ head ∧
      (call.arguments = [] ∧ after = tail ∨
        splitArguments? tail = some (call.arguments, after)) := by
  rcases splitCall?_eq_some_iff.1 h with ⟨mnemonic, name, tail, arguments, hhead, rfl, hends, rfl⟩
  refine ⟨callHead mnemonic name, tail, rfl, hhead.semicolon_not_mem, hhead.close_not_mem, ?_⟩
  by_cases hopen : tail.head? = some '('
  · simp only [splitCallEnd?, hopen, if_true] at hends
    exact .inr hends
  · simp only [splitCallEnd?_of_head?_ne hopen, ite_eq_iff, Option.some.injEq, Prod.mk.injEq,
      reduceCtorEq, and_false, or_false] at hends
    exact .inl ⟨hends.2.1.symm, hends.2.2.symm⟩

/-- The text begins with a call whose arguments do not end in it. -/
def IsOpenCall (text : List Char) : Prop :=
  ∃ mnemonic name inner, IsCallHead mnemonic name ('(' :: inner) ∧
    text = callHead mnemonic name ++ '(' :: inner ∧ ¬MayEndIn inner

theorem IsOpenCall.not_mayEndIn (h : IsOpenCall text) : ¬MayEndIn text := by
  rcases h with ⟨mnemonic, name, inner, hhead, rfl, hinner⟩
  have hopen : '(' ≠ ')' := by decide
  apply splitArguments?_eq_none_iff.1
  simp [splitArguments?_append_of_not_mem hhead.close_not_mem, splitArguments?_cons_of_ne hopen,
    splitArguments?_eq_none_iff.2 hinner]

/-- An open call takes the text behind the semicolon for its arguments, up to where they end. -/
theorem IsOpenCall.splitCall?_append (h : IsOpenCall text) (b : List Char) :
    ∃ mnemonic label inner, splitCall? (text ++ ';' :: b) =
      (splitArguments? b).map fun ending =>
        (⟨mnemonic, label, '(' :: (inner ++ ';' :: ending.1)⟩, ending.2) := by
  rcases h with ⟨mnemonic, name, inner, hhead, rfl, hinner⟩
  have hlonger : IsCallHead mnemonic name ('(' :: (inner ++ ';' :: b)) :=
    (isCallHead_append_semicolon ('(' :: inner) b).2 hhead
  refine ⟨mnemonic, '#' :: name, inner, ?_⟩
  simp [splitCall?_callHead hlonger, splitCallEnd?_open, splitArguments?_append_semicolon,
    splitArguments?_eq_none_iff.2 hinner, Function.comp_def]

theorem splitCallEnd?_append_semicolon
    (h : ∀ inner, tail = '(' :: inner → MayEndIn inner ∨ ¬MayEndIn b) :
    splitCallEnd? (tail ++ ';' :: b) =
      (splitCallEnd? tail).map fun ending => (ending.1, ending.2 ++ ';' :: b) := by
  by_cases hopen : tail.head? = some '('
  · rcases List.head?_eq_some_iff.1 hopen with ⟨inner, rfl⟩
    simp only [List.cons_append, splitCallEnd?_open, splitArguments?_append_semicolon]
    cases hinner : splitArguments? inner with
    | some ending => simp
    | none =>
        have hb : splitArguments? b = none :=
          splitArguments?_eq_none_iff.2
            ((h inner rfl).resolve_left (splitArguments?_eq_none_iff.1 hinner))
        simp [hb]
  · have hopen' : (tail ++ ';' :: b).head? ≠ some '(' := by
      cases tail with
      | nil => simp
      | cons c tail => simpa using hopen
    simp only [splitCallEnd?_of_head?_ne hopen, splitCallEnd?_of_head?_ne hopen',
      callEndsBefore_append_semicolon]
    split <;> simp

/-- A head holds no semicolon, so it stands before one as a whole. -/
theorem IsCallHead.exists_tail {tail' : List Char} (h : IsCallHead mnemonic name tail')
    (heq : text ++ ';' :: b = callHead mnemonic name ++ tail') :
    ∃ tail, IsCallHead mnemonic name tail ∧ text = callHead mnemonic name ++ tail := by
  rcases List.append_eq_append_iff.1 heq with ⟨rest, hhead, hrest⟩ | ⟨tail, rfl, rfl⟩
  · cases rest with
    | nil =>
        simp only [List.nil_append] at hrest
        simp only [List.append_nil] at hhead
        subst hrest
        exact ⟨[], (isCallHead_append_semicolon [] b).1 h, by simp [hhead]⟩
    | cons c rest =>
        simp only [List.cons_append, List.cons.injEq] at hrest
        have hmem : ';' ∈ callHead mnemonic name := by simp [hhead, ← hrest.1]
        exact absurd hmem h.semicolon_not_mem
  · exact ⟨tail, (isCallHead_append_semicolon tail b).1 h, rfl⟩

/-- Unless a call is open and its arguments may end behind the semicolon, it is read as if nothing
was there. -/
theorem splitCall?_append_semicolon (h : ¬(IsOpenCall text ∧ MayEndIn b)) :
    splitCall? (text ++ ';' :: b) =
      (splitCall? text).map fun read => (read.1, read.2 ++ ';' :: b) := by
  by_cases hhead : ∃ mnemonic name tail, IsCallHead mnemonic name tail ∧
      text = callHead mnemonic name ++ tail
  · rcases hhead with ⟨mnemonic, name, tail, hhead, rfl⟩
    have hends : ∀ inner, tail = '(' :: inner → MayEndIn inner ∨ ¬MayEndIn b := by
      rintro inner rfl
      by_cases hinner : MayEndIn inner
      · exact .inl hinner
      · exact .inr fun hb => h ⟨⟨mnemonic, name, inner, hhead, rfl, hinner⟩, hb⟩
    have hlonger := (isCallHead_append_semicolon tail b).2 hhead
    simp [List.append_assoc, splitCall?_callHead hhead, splitCall?_callHead hlonger,
      splitCallEnd?_append_semicolon hends, Function.comp_def]
  · have hnone : splitCall? text = none := by
      by_contra hsome
      rcases Option.ne_none_iff_exists'.1 hsome with ⟨read, hread⟩
      exact hhead (exists_callHead_of_splitCall? hread)
    have hnone' : splitCall? (text ++ ';' :: b) = none := by
      by_contra hsome
      rcases Option.ne_none_iff_exists'.1 hsome with ⟨read, hread⟩
      rcases exists_callHead_of_splitCall? hread with ⟨mnemonic, name, tail, htail, heq⟩
      exact hhead ⟨mnemonic, name, htail.exists_tail heq⟩
    simp [hnone, hnone']

end Program
end MotionController
