import MotionController.Proofs.Program.CallScan
import MotionController.Proofs.Program.ConditionalJumps

/-!
# What warnings about jumps name

A jump is a call where the scan of its line comes to it and finds one (`FindsAt`), and all calls of
a line are found that way (`mem_findCalls_iff`).

A warning about a conditional jump names the jump up to the last letter that its label begins with.
That is the label of the call that is found there exactly when the label has letters only
(`jump_warning_names_call_iff`): labels may hold digits and underscores as well, and the warning
leaves out the first of these and all behind it (`jump_warning_cuts_label`).
-/

namespace MotionController
namespace Program

open Text

variable {text line start mnemonic name tail : List Char} {call : Call}

/-! ## Where calls are found -/

/-- The scan of a line comes to a command and finds a call there. The command is given together with
what follows it on the line. -/
inductive FindsAt : (line start : Line) → Call → Prop where
  | here {line after : Line} {call : Call} (h : splitCall? line = some (call, after)) :
      FindsAt line line call
  | later {line rest start : Line} {call : Call} (hnext : nextBoundary? line = some rest)
      (h : FindsAt rest start call) : FindsAt line start call

theorem FindsAt.exists_splitCall? (h : FindsAt line start call) :
    ∃ after, splitCall? start = some (call, after) := by
  induction h with
  | here h => exact ⟨_, h⟩
  | later _ _ ih => exact ih

/-- The calls of a line are those found at its commands. -/
theorem mem_findCalls_iff : call ∈ findCalls line ↔ ∃ start, FindsAt line start call := by
  constructor
  · intro h
    induction line using findCalls.induct with
    | case1 line ih =>
        simp only [findCalls_eq line, List.mem_append] at h
        rcases h with hfirst | hlater
        · simp only [firstCall, Option.mem_toList, Option.map_eq_some_iff] at hfirst
          rcases hfirst with ⟨⟨_, after⟩, hcall, rfl⟩
          exact ⟨line, .here hcall⟩
        · cases hnext : nextBoundary? line with
          | none => simp [hnext] at hlater
          | some rest =>
              simp only [hnext, Option.elim_some] at hlater
              rcases ih rest hnext hlater with ⟨start, hfinds⟩
              exact ⟨start, .later hnext hfinds⟩
  · rintro ⟨start, h⟩
    induction h with
    | here h => simp [findCalls_of_some h]
    | @later line _ _ _ hnext _ ih => simp [findCalls_eq line, hnext, ih]

/-! ## Where commands begin -/

/-- The texts of a line behind each of its semicolons. -/
def behindSemicolons : Line → List Line
  | [] => []
  | c :: rest => if c = ';' then rest :: behindSemicolons rest else behindSemicolons rest

/-- Where the commands of a program begin, in order: each line with the texts from one of its
commands to its end. -/
def commandStarts (lines : List Line) : List (Line × Line) :=
  lines.flatMap fun line => (line :: behindSemicolons line).map fun start => (line, start)

theorem cut_semicolon_eq (line : Line) :
    cut ';' line = (line :: behindSemicolons line).map (·.takeWhile (· ≠ ';')) := by
  induction line with
  | nil => rfl
  | cons c rest ih =>
      by_cases hc : c = ';'
      · subst hc
        simp [behindSemicolons, ih]
      · simp [cut, behindSemicolons, hc, ih]

theorem isSeparator_eq_false_of_not_mem (hsemicolon : ';' ∉ text) (hbreak : '\n' ∉ text) :
    ∀ c ∈ text, isSeparator c = false := by
  intro c hc
  have hne : c ≠ ';' ∧ c ≠ '\n' :=
    ⟨fun h => hsemicolon (h ▸ hc), fun h => hbreak (h ▸ hc)⟩
  simp [isSeparator, hne]

theorem programPieces_eq_cut (hbreak : '\n' ∉ line) : programPieces line = cut ';' line := by
  induction line using piece_induction ';' with
  | piece a ha =>
      have hall := isSeparator_eq_false_of_not_mem ha hbreak
      simp [programPieces, List.splitOnP_eq_singleton hall, cut_of_not_mem ha]
  | append a b ha ih =>
      simp only [List.mem_append, List.mem_cons, not_or] at hbreak
      have hall := isSeparator_eq_false_of_not_mem ha hbreak.1
      rw [programPieces_append_cons (by decide) hall, cut_append_cons_of_not_mem ha,
        ih hbreak.2.2]

/-- The pieces of a text are its commands, each up to the next semicolon. -/
theorem programPieces_eq_map_commandStarts (text : List Char) :
    programPieces text =
      (commandStarts (cut '\n' text)).map fun start => start.2.takeWhile (· ≠ ';') := by
  have hlines : programPieces text = (cut '\n' text).flatMap (cut ';') := by
    induction text using piece_induction '\n' with
    | piece a ha => simp [programPieces_eq_cut ha, cut_of_not_mem ha]
    | append a b ha ih =>
        have hpieces : programPieces (a ++ '\n' :: b) = programPieces a ++ programPieces b :=
          List.splitOnP_append_cons a b (by decide)
        simp [hpieces, programPieces_eq_cut ha, cut_append_cons_of_not_mem ha, ih]
  simp only [hlines, commandStarts, List.map_flatMap, List.map_map]
  exact congrArg (List.flatMap · (cut '\n' text)) (funext cut_semicolon_eq)

/-! ## What a warning names -/

theorem isAlpha_of_not_isLabelChar {c : Char} (h : isLabelChar c = false) : c.isAlpha = false := by
  simp only [isLabelChar, Char.isAlphanum, Bool.or_eq_false_iff] at h
  exact h.1.1

/-- Of a command that begins a call, the mnemonic and the leading letters of the label are named. -/
theorem namedJump_callHead (h : IsCallHead mnemonic name tail) :
    namedJump (callHead mnemonic name ++ tail) =
      mnemonic ++ '#' :: name.takeWhile Char.isAlpha := by
  rcases (mnemonic_of_mem h.mnemonic_mem).1 with ⟨c, d, rfl⟩
  -- What ends the label is no letter, so no letters are taken from behind it.
  have htail : tail.takeWhile Char.isAlpha = [] := by
    cases tail with
    | nil => rfl
    | cons e tail => simp [isAlpha_of_not_isLabelChar (h.whole e rfl)]
  have hname : (name ++ tail).takeWhile Char.isAlpha = name.takeWhile Char.isAlpha := by
    rw [List.takeWhile_append]
    split
    · next hall => simp [htail, (List.takeWhile_prefix Char.isAlpha).eq_of_length hall]
    · rfl
  simp [namedJump, callHead, hname]

theorem toList_message_conditionalJump (jump : List Char) :
    (Finding.conditionalJump jump).message.toList =
      "IF(...);".toList ++
        (jump ++ (" better written as ".toList ++ (jump ++ ",(...)".toList))) := by
  have hmessage : (Finding.conditionalJump jump).message =
      "IF(...);" ++ String.ofList jump ++ " better written as " ++ String.ofList jump ++ ",(...)" :=
    rfl
  simp only [hmessage, String.toList_append, String.toList_ofList, List.append_assoc]

/-- Warnings about different jumps read differently. -/
theorem message_conditionalJump_injective {jump other : List Char}
    (h : (Finding.conditionalJump jump).message = (Finding.conditionalJump other).message) :
    jump = other := by
  have hchars := congrArg String.toList h
  simp only [toList_message_conditionalJump, List.append_cancel_left_eq] at hchars
  have hlength := congrArg List.length hchars
  simp only [List.length_append] at hlength
  exact (List.append_inj hchars (by omega)).1

/-! ## Warnings about calls -/

/-- The warning of this number is about a jump that is found as a call on its line. -/
structure WarnsOfCall (limit : Nat) (content : String) (number : Nat) (diagnostic : Diagnostic)
    (call : Call) : Prop where
  warning : (ofKind "conditional_jump" (lint limit true content))[number]? = some diagnostic
  /-- The jump is the command behind the condition that the warning is about. -/
  found : ∃ place line start, (guardPlaces (minifiedPieces limit content))[number]? = some place ∧
    (commandStarts (cut '\n' (minify limit content).toList))[place + 1]? = some (line, start) ∧
      FindsAt line start call

/-- The warning is the one about a jump that is written as the call is, with its mnemonic and its
whole label. -/
def NamesCall (diagnostic : Diagnostic) (call : Call) : Prop :=
  diagnostic.finding.message = (Finding.conditionalJump (call.mnemonic ++ call.label)).message

/-- The finding is about the jump that stands behind its condition. -/
theorem finding_of_guardPlaces {limit number place : Nat} {content : String}
    {diagnostic : Diagnostic} {piece : Line}
    (hwarning : (ofKind "conditional_jump" (lint limit true content))[number]? = some diagnostic)
    (hplace : (guardPlaces (minifiedPieces limit content))[number]? = some place)
    (hpiece : (minifiedPieces limit content)[place + 1]? = some piece) :
    diagnostic.finding = .conditionalJump (namedJump piece) := by
  simp only [ofKind_conditional_lint, guardedJumps, List.getElem?_map, hplace, Option.map_some,
    List.getD_eq_getElem?_getD, hpiece, Option.getD_some, Option.some.injEq] at hwarning
  simp only [← hwarning]

/-- The piece at which a command begins goes on to the next semicolon. -/
theorem getElem?_minifiedPieces {limit place : Nat} {content : String}
    (hstart : (commandStarts (cut '\n' (minify limit content).toList))[place]? =
      some (line, start)) :
    (minifiedPieces limit content)[place]? = some (start.takeWhile (· ≠ ';')) := by
  simp only [minifiedPieces, programPieces_eq_map_commandStarts, List.getElem?_map, hstart,
    Option.map_some]

/-- A call is read in the piece that it begins as well. -/
theorem IsCallHead.takeWhile (h : IsCallHead mnemonic name tail) :
    IsCallHead mnemonic name (tail.takeWhile (· ≠ ';')) := by
  refine ⟨h.mnemonic_mem, h.name_ne_nil, h.length_name_le, h.name_all, ?_⟩
  intro c hc
  cases tail with
  | nil => cases hc
  | cons d tail =>
      by_cases hd : d = ';'
      · simp [hd] at hc
      · have hcd : d = c := by simpa [hd] using hc
        exact hcd ▸ h.whole d rfl

theorem takeWhile_callHead_append (h : IsCallHead mnemonic name tail) :
    (callHead mnemonic name ++ tail).takeWhile (· ≠ ';') =
      callHead mnemonic name ++ tail.takeWhile (· ≠ ';') := by
  apply List.takeWhile_append_of_pos
  intro c hc
  simpa using fun hsemicolon : c = ';' => h.semicolon_not_mem (hsemicolon ▸ hc)

/-- A warning about a jump that is a call names its mnemonic and the letters that its label begins
with, which is the whole label exactly when there are letters only. -/
theorem jump_warning_names_call_iff {limit number : Nat} {content : String}
    {diagnostic : Diagnostic} {call : Call} (h : WarnsOfCall limit content number diagnostic call) :
    diagnostic.finding =
        .conditionalJump (call.mnemonic ++ '#' :: call.label.tail.takeWhile Char.isAlpha) ∧
      (NamesCall diagnostic call ↔ ∀ c ∈ call.label.tail, c.isAlpha = true) := by
  rcases h.found with ⟨place, line, start, hplace, hstart, hfinds⟩
  rcases hfinds.exists_splitCall? with ⟨after, hcall⟩
  rcases splitCall?_eq_some_iff.1 hcall with ⟨mnemonic, name, tail, arguments, hhead, rfl, -, rfl⟩
  have hfinding : diagnostic.finding =
      .conditionalJump (mnemonic ++ '#' :: name.takeWhile Char.isAlpha) := by
    rw [finding_of_guardPlaces h.warning hplace (getElem?_minifiedPieces hstart),
      takeWhile_callHead_append hhead, namedJump_callHead hhead.takeWhile]
  refine ⟨hfinding, ?_⟩
  simp only [NamesCall, hfinding, List.tail_cons, ← List.takeWhile_eq_self_iff]
  constructor
  · intro hmessage
    simpa using message_conditionalJump_injective hmessage
  · intro hname
    simp only [hname]

/-- The warning about a jump with arguments names the call. -/
theorem jump_warning_names_call_with_arguments :
    WarnsOfCall defaultLineLimit "IF(a=1);JS#sub(x);ENDIF" 0 ⟨[], .conditionalJump "JS#sub".toList⟩
        ⟨"JS".toList, "#sub".toList, "(x)".toList⟩ ∧
      NamesCall ⟨[], .conditionalJump "JS#sub".toList⟩
        ⟨"JS".toList, "#sub".toList, "(x)".toList⟩ := by
  have hwarns : WarnsOfCall defaultLineLimit "IF(a=1);JS#sub(x);ENDIF" 0
      ⟨[], .conditionalJump "JS#sub".toList⟩ ⟨"JS".toList, "#sub".toList, "(x)".toList⟩ := by
    have hnext : nextBoundary? "IF(a=1);JS#sub(x);ENDIF".toList =
        some "JS#sub(x);ENDIF".toList := by decide +kernel
    have hcall : splitCall? "JS#sub(x);ENDIF".toList =
        some (⟨"JS".toList, "#sub".toList, "(x)".toList⟩, ";ENDIF".toList) := by decide +kernel
    exact ⟨by decide +kernel, 0, "IF(a=1);JS#sub(x);ENDIF".toList, "JS#sub(x);ENDIF".toList,
      by decide +kernel, by decide +kernel, .later hnext (.here hcall)⟩
  have hletters : "sub".toList.all Char.isAlpha = true := by decide
  exact ⟨hwarns, (jump_warning_names_call_iff hwarns).2.2 (List.all_eq_true.1 hletters)⟩

/-- A label that ends with a digit is named without it. -/
theorem jump_warning_cuts_label :
    ¬∀ (limit : Nat) (content : String) (number : Nat) (diagnostic : Diagnostic) (call : Call),
      WarnsOfCall limit content number diagnostic call → NamesCall diagnostic call := by
  intro h
  have hnames := h defaultLineLimit "IF(a=1);JS#sub1;ENDIF;#sub1;EN" 0
    ⟨[], .conditionalJump "JS#sub".toList⟩ ⟨"JS".toList, "#sub1".toList, []⟩ ?_
  · revert hnames
    unfold NamesCall
    decide +kernel
  · have hnext : nextBoundary? "IF(a=1);JS#sub1;ENDIF;#sub1;EN".toList =
        some "JS#sub1;ENDIF;#sub1;EN".toList := by decide +kernel
    have hcall : splitCall? "JS#sub1;ENDIF;#sub1;EN".toList =
        some (⟨"JS".toList, "#sub1".toList, []⟩, ";ENDIF;#sub1;EN".toList) := by decide +kernel
    exact ⟨by decide +kernel, 0, "IF(a=1);JS#sub1;ENDIF;#sub1;EN".toList,
      "JS#sub1;ENDIF;#sub1;EN".toList, by decide +kernel, by decide +kernel,
      .later hnext (.here hcall)⟩

end Program
end MotionController
