import Mathlib.Data.List.Forall2
import MotionController.Proofs.Program.DiagnosticKinds

/-!
# Numbers of arguments

The first call of a label that is not exempt sets the number of arguments of all its calls. The
linter reports every later one that has another number, in order and each once, and nothing else
(`lint_reports_arities`). Though a call is checked with the calls before it only, the answer is the
same as with all calls of the program (`checkArity_append`).
-/

namespace MotionController
namespace Program

variable {calls earlier later : List (Nat × Call)} {call first : Nat × Call} {label : Label}
  {diagnostic : Diagnostic}

/-! ## What there is to report -/

/-- The calls whose numbers of arguments count: all but the exempt ones. -/
def counted (calls : List (Nat × Call)) : List (Nat × Call) :=
  calls.filter fun call => !call.2.isExempt

/-- This is the first of the calls of the label. -/
def IsFirstCall (calls : List (Nat × Call)) (label : Label) (first : Nat × Call) : Prop :=
  ∃ before after, calls = before ++ first :: after ∧ first.2.label = label ∧
    ∀ call ∈ before, call.2.label ≠ label

/-- The call has another number of arguments than the first call of its label. -/
def IsMismatched (calls : List (Nat × Call)) (call : Nat × Call) : Prop :=
  ∃ first, IsFirstCall calls call.2.label first ∧ call.2.arity ≠ first.2.arity

/-- The diagnostic is on the line of the call and names its label and number of arguments, with the
number and the line of the first call of the label. -/
def ReportsMismatch (calls : List (Nat × Call)) (call : Nat × Call) (diagnostic : Diagnostic) :
    Prop :=
  ∃ first, IsFirstCall calls call.2.label first ∧
    diagnostic =
      .single call.1 (.inconsistentArity call.2.label first.2.arity first.1 call.2.arity)

/-! ## First calls -/

theorem find?_eq_some_iff_isFirstCall :
    (calls.find? fun call => call.2.label == label) = some first ↔
      IsFirstCall calls label first := by
  simp only [List.find?_eq_some_iff_append, IsFirstCall, beq_iff_eq, Bool.not_eq_true',
    beq_eq_false_iff_ne]
  constructor
  · rintro ⟨hlabel, before, after, heq, hbefore⟩
    exact ⟨before, after, heq, hlabel, hbefore⟩
  · rintro ⟨before, after, heq, hlabel, hbefore⟩
    exact ⟨hlabel, before, after, heq, hbefore⟩

theorem firstCall?_eq_some_iff :
    firstCall? calls label = some first ↔ IsFirstCall (counted calls) label first := by
  have hfind : firstCall? calls label =
      (counted calls).find? fun call => call.2.label == label := by
    simp only [firstCall?, counted, List.find?_filter]
    congr 1
    funext call
    by_cases hlabel : call.2.label = label <;> simp [hlabel]
  simp only [hfind, find?_eq_some_iff_isFirstCall]

theorem IsFirstCall.unique {other : Nat × Call} (h : IsFirstCall calls label first)
    (hother : IsFirstCall calls label other) : first = other := by
  have hfind := find?_eq_some_iff_isFirstCall.2 h
  simp only [find?_eq_some_iff_isFirstCall.2 hother, Option.some.injEq] at hfind
  exact hfind.symm

instance : DecidablePred (IsMismatched calls) := fun call =>
  decidable_of_iff
    ((calls.find? fun other => other.2.label == call.2.label).any
      fun first => call.2.arity != first.2.arity)
    (by simp only [Option.any_eq_true, IsMismatched, find?_eq_some_iff_isFirstCall, bne_iff_ne])

/-! ## The check of one call -/

/-- A call is checked with the calls before it as with all calls: if it is the first of its label it
agrees with itself. -/
theorem checkArity_append (earlier later : List (Nat × Call)) (number : Nat) (call : Call) :
    checkArity (earlier ++ (number, call) :: later) number call =
      checkArity earlier number call := by
  by_cases hexempt : call.isExempt = true
  · simp [checkArity, hexempt]
  · cases hfirst : firstCall? earlier call.label with
    | none =>
        have hself : firstCall? (earlier ++ (number, call) :: later) call.label =
            some (number, call) := by
          unfold firstCall? at hfirst ⊢
          simp [List.find?_append, hfirst, hexempt]
        simp [checkArity, hfirst, hself]
    | some first =>
        have hsame : firstCall? (earlier ++ (number, call) :: later) call.label = some first := by
          unfold firstCall? at hfirst ⊢
          simp [List.find?_append, hfirst]
        simp [checkArity, hfirst, hsame]

theorem checkArity_of_isExempt (hexempt : call.2.isExempt = true) :
    checkArity calls call.1 call.2 = [] := by
  simp [checkArity, hexempt]

theorem checkArity_of_mem (hmem : call ∈ counted calls) :
    (IsMismatched (counted calls) call ∧ ∃ diagnostic,
      checkArity calls call.1 call.2 = [diagnostic] ∧
        ReportsMismatch (counted calls) call diagnostic) ∨
      ¬IsMismatched (counted calls) call ∧ checkArity calls call.1 call.2 = [] := by
  rcases List.mem_filter.1 hmem with ⟨_, hcounts⟩
  have hexempt : ¬call.2.isExempt = true := by simpa using hcounts
  cases hfirst : firstCall? calls call.2.label with
  | none =>
      right
      have hnone : ¬IsMismatched (counted calls) call := by
        rintro ⟨first, hfirst', _⟩
        simp [firstCall?_eq_some_iff.2 hfirst'] at hfirst
      exact ⟨hnone, by simp [checkArity, hexempt, hfirst]⟩
  | some first =>
      have hisFirst := firstCall?_eq_some_iff.1 hfirst
      by_cases harity : call.2.arity = first.2.arity
      · right
        have hagrees : ¬IsMismatched (counted calls) call := by
          rintro ⟨other, hother, hne⟩
          simp only [hother.unique hisFirst, harity, ne_eq, not_true_eq_false] at hne
        exact ⟨hagrees, by simp [checkArity, hexempt, hfirst, harity]⟩
      · left
        refine ⟨⟨first, hisFirst, harity⟩, _, ?_, first, hisFirst, rfl⟩
        simp [checkArity, hexempt, hfirst, harity]

/-- The calls that disagree are reported one after another. -/
theorem forall₂_reportsMismatch (hpart : ∀ call ∈ earlier, call ∈ counted calls) :
    List.Forall₂ (ReportsMismatch (counted calls))
      (earlier.filter fun call => decide (IsMismatched (counted calls) call))
      (earlier.flatMap fun call => checkArity calls call.1 call.2) := by
  induction earlier with
  | nil => exact .nil
  | cons call rest ih =>
      rcases List.forall_mem_cons.1 hpart with ⟨hcall, hrest⟩
      rcases checkArity_of_mem hcall with ⟨hmismatch, diagnostic, heq, hreports⟩ | ⟨hagrees, heq⟩
      · simpa [hmismatch, heq] using List.Forall₂.cons hreports (ih hrest)
      · simpa [hagrees, heq] using ih hrest

theorem flatMap_checkArity_counted (calls part : List (Nat × Call)) :
    ((counted part).flatMap fun call => checkArity calls call.1 call.2) =
      part.flatMap fun call => checkArity calls call.1 call.2 := by
  induction part with
  | nil => rfl
  | cons call part ih =>
      by_cases hexempt : call.2.isExempt = true
      · simpa [counted, hexempt, checkArity_of_isExempt hexempt] using ih
      · simpa [counted, hexempt] using ih

/-! ## The checks of all calls -/

theorem ofKind_arity_checkCalls (text : Line) (earlier later beyond : List (Nat × Call)) :
    ofKind "inconsistent_arity" (checkCalls text earlier later) =
      later.flatMap fun call => checkArity (earlier ++ (later ++ beyond)) call.1 call.2 := by
  induction later generalizing earlier with
  | nil => rfl
  | cons call later ih =>
      rcases call with ⟨number, call⟩
      have hself : ofKind "inconsistent_arity" (checkArity earlier number call) =
          checkArity earlier number call :=
        ofKind_eq_self fun _ => kind_of_mem_checkArity
      have harguments : ofKind "inconsistent_arity" (checkArguments number text call) = [] :=
        ofKind_eq_nil (by simp) fun _ => kind_of_mem_checkArguments
      have hall := checkArity_append earlier (later ++ beyond) number call
      have hrest := ih (earlier ++ [(number, call)])
      simp only [List.append_assoc, List.singleton_append] at hrest
      simp only [checkCalls, ofKind_append, hself, harguments, hrest, List.cons_append,
        List.flatMap_cons, hall, List.append_nil]

theorem ofKind_arity_checkNumbered (limit : Nat) (before beyond : List (Nat × Line))
    (line : Nat × Line) :
    ofKind "inconsistent_arity" (checkNumbered limit before line) =
      (onLine findCalls line).flatMap fun call =>
        checkArity (callsOf (before ++ line :: beyond)) call.1 call.2 := by
  have hcalls : callsOf (before ++ line :: beyond) =
      callsOf before ++ (onLine findCalls line ++ callsOf beyond) := by
    simp [callsOf]
  simp [checkNumbered, ofKind_append, ofKind_checkLine, ofKind_checkDefinitions,
    ofKind_checkLiterals, hcalls,
    ofKind_arity_checkCalls line.2 (callsOf before) (onLine findCalls line) (callsOf beyond)]

theorem ofKind_arity_checkAll (limit : Nat) (before after : List (Nat × Line)) :
    ofKind "inconsistent_arity" (checkAll limit before after) =
      (callsOf after).flatMap fun call =>
        checkArity (callsOf (before ++ after)) call.1 call.2 := by
  induction after generalizing before with
  | nil => rfl
  | cons line after ih =>
      have hline := ofKind_arity_checkNumbered limit before after line
      have hrest := ih (before ++ [line])
      simp only [List.append_assoc, List.singleton_append] at hrest
      have hcalls : callsOf (line :: after) = onLine findCalls line ++ callsOf after := by
        simp [callsOf]
      simp only [checkAll, ofKind_append, hline, hrest, hcalls, List.flatMap_append]

/-- The calls of a minified program whose numbers of arguments count, with their lines. -/
def countedCalls (limit : Nat) (content : String) : List (Nat × Call) :=
  counted (callsOf (numbered (minified limit content)))

/-- Of the calls that are not exempt, the linter reports in order those that have another number of
arguments than the first call of their label, each on its line, and no other call. -/
theorem lint_reports_arities (limit : Nat) (warnings : Bool) (content : String) :
    List.Forall₂ (ReportsMismatch (countedCalls limit content))
      ((countedCalls limit content).filter fun call =>
        decide (IsMismatched (countedCalls limit content) call))
      (ofKind "inconsistent_arity" (lint limit warnings content)) := by
  have hkind : "inconsistent_arity" ∈ lineKinds := by simp [lineKinds]
  have hchecks : ofKind "inconsistent_arity" (lint limit warnings content) =
      (callsOf (numbered (minified limit content))).flatMap fun call =>
        checkArity (callsOf (numbered (minified limit content))) call.1 call.2 := by
    simp [lint, ofKind_lintLines_of_mem_lineKinds hkind, ofKind_arity_checkAll]
  have hcounted := hchecks.trans (flatMap_checkArity_counted _ _).symm
  simp only [hcounted]
  exact forall₂_reportsMismatch fun _ hmem => hmem

/-- The second call of `#foo` has another number of arguments; the `(-1)` of `#ok` is exempt. -/
example :
    ofKind "inconsistent_arity"
        (lint defaultLineLimit false "JS#foo(1,2)\nSB1\nJS#foo(1)\nJS#ok(a,b)\nJS#ok(-1)") =
      [.single 3 (.inconsistentArity "#foo".toList 2 1 1)] := by
  decide +kernel

end Program
end MotionController
