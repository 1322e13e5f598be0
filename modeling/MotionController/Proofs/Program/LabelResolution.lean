import Mathlib.Data.List.Forall2
import MotionController.Proofs.Program.DiagnosticKinds

/-!
# Labels and their calls

The linter reports a label that is called and not defined, a definition of a label that is already
defined, and, with warnings, a label that is defined and not called: each once and nothing else
(`lint_resolves_labels`). What it should report is said of the definitions and calls alone, in the
order of the lines (`ResolvesLabels`).
-/

namespace MotionController
namespace Program

variable {definitions calls : List (Nat × Label)} {label : Label} {line number : Nat}
  {diagnostic : Diagnostic}

/-! ## What there is to report -/

/-- The labels that satisfy `wanted`, each once, in the order of their first occurrences in
`all`. -/
structure ListsFirsts (all : List Label) (wanted : Label → Prop) (listed : List Label) : Prop where
  mem_iff : ∀ label, label ∈ listed ↔ label ∈ all ∧ wanted label
  once : listed.Nodup
  ordered : listed.Pairwise fun a b => all.idxOf a < all.idxOf b

/-- The lines of all entries for the label, in order. -/
def linesOf (entries : List (Nat × Label)) (label : Label) : List Nat :=
  (entries.filter fun entry => entry.2 == label).map (·.1)

/-- The first of the entries for the label is on this line. -/
def IsFirstLine (entries : List (Nat × Label)) (label : Label) (line : Nat) : Prop :=
  ∃ before after, entries = before ++ (line, label) :: after ∧ ∀ entry ∈ before, entry.2 ≠ label

/-- The definition at this position is of a label that is defined before it. -/
def IsRepeated (definitions : List (Nat × Label)) (position : Nat) : Prop :=
  ∃ entry, definitions[position]? = some entry ∧
    entry.2 ∈ (definitions.take position).map (·.2)

/-- The diagnostic is on the line of the definition at this position and names its label and the
line of the label's first definition. -/
def ReportsRepeat (definitions : List (Nat × Label)) (position : Nat) (diagnostic : Diagnostic) :
    Prop :=
  ∃ line label first, definitions[position]? = some (line, label) ∧
    IsFirstLine definitions label first ∧ diagnostic = .single line (.duplicateLabel label first)

/-- The report says of the labels what their definitions and calls say. -/
structure ResolvesLabels (definitions calls : List (Nat × Label)) (warnings : Bool)
    (report : List Diagnostic) : Prop where
  undefined : ∃ listed,
    ListsFirsts (calls.map (·.2)) (fun label => label ∉ definitions.map (·.2)) listed ∧
      ofKind "undefined_label" report =
        listed.map fun label => ⟨linesOf calls label, .undefinedLabel label⟩
  repeated : ∃ positions : List Nat, positions.Pairwise (· < ·) ∧
    (∀ position, position ∈ positions ↔ IsRepeated definitions position) ∧
      List.Forall₂ (ReportsRepeat definitions) positions (ofKind "duplicate_label" report)
  unused : warnings = true → ∃ listed,
    ListsFirsts (definitions.map (·.2))
        (fun label => label ∉ calls.map (·.2) ∧ label ∉ entryLabels) listed ∧
      List.Forall₂
        (fun label diagnostic => ∃ line, IsFirstLine definitions label line ∧
          diagnostic = .single line (.unusedLabel label))
        listed (ofKind "unused_label" report)
  silent : warnings = false → ofKind "unused_label" report = []

/-! ## First occurrences -/

theorem idxOf_lt_of_filter {all : List Label} {keep : Label → Bool} {a b : Label}
    (ha : keep a = true) (hb : keep b = true)
    (h : (all.filter keep).idxOf a < (all.filter keep).idxOf b) : all.idxOf a < all.idxOf b := by
  induction all with
  | nil => simp at h
  | cons first all ih =>
      -- A thing that is not kept moves all places up by one alike.
      by_cases hfirst : keep first = true
      · simp only [List.filter_cons_of_pos hfirst] at h
        by_cases hfa : first = a
        · subst hfa
          by_cases hfb : first = b
          · subst hfb
            exact absurd h (Nat.lt_irrefl _)
          · simp [List.idxOf_cons_ne all hfb]
        · by_cases hfb : first = b
          · subst hfb
            simp at h
          · simp only [List.idxOf_cons_ne _ hfa, List.idxOf_cons_ne _ hfb] at h
            simp only [List.idxOf_cons_ne _ hfa, List.idxOf_cons_ne _ hfb]
            exact Nat.succ_lt_succ (ih (Nat.lt_of_succ_lt_succ h))
      · have hne : ∀ c, keep c = true → first ≠ c := by
          rintro c hc rfl
          exact hfirst hc
        simp only [List.filter_cons_of_neg hfirst] at h
        simp only [List.idxOf_cons_ne _ (hne a ha), List.idxOf_cons_ne _ (hne b hb)]
        exact Nat.succ_lt_succ (ih h)

theorem ordered_eraseDups (all : List Label) :
    all.eraseDups.Pairwise fun a b => all.idxOf a < all.idxOf b := by
  induction hlength : all.length using Nat.strongRecOn generalizing all with
  | ind length ih =>
      cases all with
      | nil => exact List.Pairwise.nil
      | cons first all =>
          -- What follows the first thing is without it, so its places are among the others.
          simp only [List.eraseDups_cons]
          have hshorter : (all.filter fun b => !b == first).length < length := by
            have hle := List.length_filter_le (fun b => !b == first) all
            simp only [← hlength, List.length_cons]
            omega
          have hrest := ih _ hshorter _ rfl
          have hne : ∀ b ∈ (all.filter fun b => !b == first).eraseDups, first ≠ b := by
            rintro b hb rfl
            simp [List.mem_eraseDups] at hb
          refine List.Pairwise.cons ?_ ?_
          · intro b hb
            simp [List.idxOf_cons_ne all (hne b hb)]
          · refine hrest.imp_of_mem ?_
            intro a b ha hb hlt
            have hkeep : ∀ c, first ≠ c → (!c == first) = true := by
              intro c hc
              simpa using fun heq => hc heq.symm
            have hlt' := idxOf_lt_of_filter (hkeep a (hne a ha)) (hkeep b (hne b hb)) hlt
            simp only [List.idxOf_cons_ne _ (hne a ha), List.idxOf_cons_ne _ (hne b hb)]
            exact Nat.succ_lt_succ hlt'

theorem listsFirsts_filter_eraseDups {wanted : Label → Prop} {keep : Label → Bool}
    (all : List Label) (hkeep : ∀ label ∈ all, keep label = true ↔ wanted label) :
    ListsFirsts all wanted (all.eraseDups.filter keep) where
  mem_iff := by
    intro label
    simp only [List.mem_filter, List.mem_eraseDups]
    constructor
    · rintro ⟨hmem, hlabel⟩
      exact ⟨hmem, (hkeep label hmem).1 hlabel⟩
    · rintro ⟨hmem, hlabel⟩
      exact ⟨hmem, (hkeep label hmem).2 hlabel⟩
  once := by
    refine List.Pairwise.filter keep ((ordered_eraseDups all).imp ?_)
    rintro a b hlt rfl
    exact Nat.lt_irrefl _ hlt
  ordered := (ordered_eraseDups all).filter keep

/-! ## First definitions -/

theorem firstDefinition?_eq_some_iff :
    firstDefinition? definitions label = some line ↔ IsFirstLine definitions label line := by
  unfold firstDefinition? IsFirstLine
  constructor
  · intro h
    rcases Option.map_eq_some_iff.1 h with ⟨⟨found, other⟩, hfind, rfl⟩
    rcases List.find?_eq_some_iff_append.1 hfind with ⟨hlabel, before, after, heq, hbefore⟩
    have hsame : other = label := by simpa using hlabel
    subst hsame
    refine ⟨before, after, heq, ?_⟩
    intro entry hentry
    simpa using hbefore entry hentry
  · rintro ⟨before, after, heq, hbefore⟩
    have hfind : (definitions.find? fun definition => definition.2 == label) =
        some (line, label) := by
      apply List.find?_eq_some_iff_append.2
      refine ⟨by simp, before, after, heq, ?_⟩
      intro entry hentry
      simpa using hbefore entry hentry
    simp only [hfind]
    rfl

theorem firstDefinition?_eq_none_iff :
    firstDefinition? definitions label = none ↔ label ∉ definitions.map (·.2) := by
  have hfind : firstDefinition? definitions label = none ↔
      ∀ entry ∈ definitions, ¬ (entry.2 == label) = true :=
    Option.map_eq_none_iff.trans List.find?_eq_none
  simp only [hfind]
  constructor
  · intro h hmem
    rcases List.mem_map.1 hmem with ⟨entry, hentry, hlabel⟩
    exact h entry hentry (beq_iff_eq.2 hlabel)
  · intro h entry hentry hlabel
    exact h (List.mem_map.2 ⟨entry, hentry, beq_iff_eq.1 hlabel⟩)

theorem IsFirstLine.append (h : IsFirstLine definitions label line) (later : List (Nat × Label)) :
    IsFirstLine (definitions ++ later) label line := by
  rcases h with ⟨before, after, rfl, hbefore⟩
  exact ⟨before, after ++ later, by simp, hbefore⟩

/-! ## Repeated definitions -/

theorem isRepeated_length_iff {earlier later : List (Nat × Label)} :
    IsRepeated (earlier ++ (number, label) :: later) earlier.length ↔
      label ∈ earlier.map (·.2) := by
  have hget : (earlier ++ (number, label) :: later)[earlier.length]? = some (number, label) := by
    simp
  have htake : (earlier ++ (number, label) :: later).take earlier.length = earlier := by
    simp
  unfold IsRepeated
  simp only [hget, htake]
  constructor
  · rintro ⟨entry, hentry, hmem⟩
    cases hentry
    exact hmem
  · intro hmem
    exact ⟨(number, label), rfl, hmem⟩

theorem IsRepeated.lt_length {position : Nat} (h : IsRepeated definitions position) :
    position < definitions.length := by
  rcases h with ⟨entry, hentry, _⟩
  exact (List.getElem?_eq_some_iff.1 hentry).1

/-- Of the repeated definitions behind some, the one at the head is told by its label. -/
theorem isRepeated_from_iff {earlier later : List (Nat × Label)} {position : Nat} :
    earlier.length ≤ position ∧ IsRepeated (earlier ++ (number, label) :: later) position ↔
      (position = earlier.length ∧ label ∈ earlier.map (·.2)) ∨
        (earlier.length + 1 ≤ position ∧
          IsRepeated (earlier ++ (number, label) :: later) position) := by
  constructor
  · rintro ⟨hle, hrepeated⟩
    rcases Nat.eq_or_lt_of_le hle with rfl | hlt
    · exact .inl ⟨rfl, isRepeated_length_iff.1 hrepeated⟩
    · exact .inr ⟨hlt, hrepeated⟩
  · rintro (⟨rfl, hknown⟩ | ⟨hlt, hrepeated⟩)
    · exact ⟨Nat.le_refl _, isRepeated_length_iff.2 hknown⟩
    · exact ⟨Nat.le_of_succ_le hlt, hrepeated⟩

/-- The definitions behind some are reported, in order, if they are repeated. -/
theorem checkDefinitions_reports (earlier later : List (Nat × Label)) :
    ∃ positions : List Nat, positions.Pairwise (· < ·) ∧
      (∀ position, position ∈ positions ↔
        earlier.length ≤ position ∧ IsRepeated (earlier ++ later) position) ∧
        List.Forall₂ (ReportsRepeat (earlier ++ later)) positions
          (checkDefinitions earlier later) := by
  induction later generalizing earlier with
  | nil =>
      refine ⟨[], List.Pairwise.nil, ?_, .nil⟩
      intro position
      constructor
      · intro hmem
        cases hmem
      · rintro ⟨hle, hrepeated⟩
        have hlt := hrepeated.lt_length
        simp only [List.append_nil] at hlt
        omega
  | cons definition later ih =>
      rcases definition with ⟨number, label⟩
      rcases ih (earlier ++ [(number, label)]) with ⟨positions, hsorted, hmem, hreports⟩
      have hassoc : (earlier ++ [(number, label)]) ++ later =
          earlier ++ (number, label) :: later := by
        simp
      simp only [hassoc] at hreports
      simp only [hassoc, List.length_append, List.length_singleton] at hmem
      -- The definition at the head is reported if the label is defined among the earlier ones.
      cases hfirst : firstDefinition? earlier label with
      | none =>
          have hnew : label ∉ earlier.map (·.2) := firstDefinition?_eq_none_iff.1 hfirst
          refine ⟨positions, hsorted, ?_, ?_⟩
          · intro position
            simp only [hmem, isRepeated_from_iff, hnew, and_false, false_or]
          · simpa [checkDefinitions, hfirst] using hreports
      | some first =>
          have hknown : label ∈ earlier.map (·.2) := by
            by_contra hnew
            simp only [firstDefinition?_eq_none_iff.2 hnew] at hfirst
            cases hfirst
          refine ⟨earlier.length :: positions, ?_, ?_, ?_⟩
          · refine List.Pairwise.cons ?_ hsorted
            intro position hposition
            exact ((hmem position).1 hposition).1
          · intro position
            simp only [List.mem_cons, hmem, isRepeated_from_iff, hknown, and_true]
          · have hget : (earlier ++ (number, label) :: later)[earlier.length]? =
                some (number, label) := by
              simp
            have hline :=
              (firstDefinition?_eq_some_iff.1 hfirst).append ((number, label) :: later)
            have hhead : ReportsRepeat (earlier ++ (number, label) :: later) earlier.length
                (.single number (.duplicateLabel label first)) :=
              ⟨number, label, first, hget, hline, rfl⟩
            simpa [checkDefinitions, hfirst] using List.Forall₂.cons hhead hreports

theorem checkDefinitions_append (earlier a b : List (Nat × Label)) :
    checkDefinitions earlier (a ++ b) =
      checkDefinitions earlier a ++ checkDefinitions (earlier ++ a) b := by
  induction a generalizing earlier with
  | nil => simp [checkDefinitions]
  | cons definition a ih =>
      have hrest := ih (earlier ++ [definition])
      simp only [List.append_assoc, List.singleton_append] at hrest
      simp only [List.cons_append, checkDefinitions, hrest]
      split <;> rfl

/-! ## The checks and the labels -/

/-- Of the checks of a line, only that of its definitions reports repeated ones. -/
theorem ofKind_duplicate_checkNumbered (limit : Nat) (before : List (Nat × Line))
    (numberedLine : Nat × Line) :
    ofKind "duplicate_label" (checkNumbered limit before numberedLine) =
      checkDefinitions (definitionsOf before) (onLine definedLabels numberedLine) := by
  have hself : ofKind "duplicate_label"
      (checkDefinitions (definitionsOf before) (onLine definedLabels numberedLine)) =
        checkDefinitions (definitionsOf before) (onLine definedLabels numberedLine) :=
    ofKind_eq_self fun _ => kind_of_mem_checkDefinitions
  simp [checkNumbered, ofKind_append, ofKind_checkLine, ofKind_checkCalls, ofKind_checkLiterals,
    hself]

theorem ofKind_duplicate_checkAll (limit : Nat) (before after : List (Nat × Line)) :
    ofKind "duplicate_label" (checkAll limit before after) =
      checkDefinitions (definitionsOf before) (definitionsOf after) := by
  induction after generalizing before with
  | nil => rfl
  | cons numberedLine after ih =>
      -- The definitions of this line come between those before and those behind.
      have hbefore : definitionsOf (before ++ [numberedLine]) =
          definitionsOf before ++ onLine definedLabels numberedLine := by
        simp [definitionsOf]
      have hafter : definitionsOf (numberedLine :: after) =
          onLine definedLabels numberedLine ++ definitionsOf after := by
        simp [definitionsOf]
      simp only [checkAll, ofKind_append, ofKind_duplicate_checkNumbered, ih, hbefore, hafter,
        checkDefinitions_append]

/-- The labels that are called, each with the line of its call. -/
def callSites (lines : List (Nat × Line)) : List (Nat × Label) :=
  (callsOf lines).map fun call => (call.1, call.2.label)

theorem undefinedLabels_reports (lines : List (Nat × Line)) :
    ∃ listed,
      ListsFirsts ((callSites lines).map (·.2))
          (fun label => label ∉ (definitionsOf lines).map (·.2)) listed ∧
        undefinedLabels lines =
          listed.map fun label => ⟨linesOf (callSites lines) label, .undefinedLabel label⟩ := by
  have hcalled : (callsOf lines).map (·.2.label) = (callSites lines).map (·.2) := by
    simp [callSites]
  have hsites : ∀ label, ((callsOf lines).filter fun call => call.2.label == label).map (·.1) =
      linesOf (callSites lines) label := by
    intro label
    simp [linesOf, callSites, List.filter_map, Function.comp_def]
  have hlists : ListsFirsts ((callSites lines).map (·.2))
      (fun label => label ∉ (definitionsOf lines).map (·.2))
      (((callSites lines).map (·.2)).eraseDups.filter fun label =>
        (firstDefinition? (definitionsOf lines) label).isNone) := by
    apply listsFirsts_filter_eraseDups
    intro label _
    simp only [Option.isNone_iff_eq_none]
    exact firstDefinition?_eq_none_iff
  refine ⟨_, hlists, ?_⟩
  simp only [undefinedLabels, hcalled, hsites]

theorem unusedLabels_reports (lines : List (Nat × Line)) :
    ∃ listed,
      ListsFirsts ((definitionsOf lines).map (·.2))
          (fun label => label ∉ (callSites lines).map (·.2) ∧ label ∉ entryLabels) listed ∧
        List.Forall₂
          (fun label diagnostic => ∃ line, IsFirstLine (definitionsOf lines) label line ∧
            diagnostic = .single line (.unusedLabel label))
          listed (unusedLabels lines) := by
  have hcalled : (callsOf lines).map (·.2.label) = (callSites lines).map (·.2) := by
    simp [callSites]
  have hlists : ListsFirsts ((definitionsOf lines).map (·.2))
      (fun label => label ∉ (callSites lines).map (·.2) ∧ label ∉ entryLabels)
      (((definitionsOf lines).map (·.2)).eraseDups.filter fun label =>
        !((callSites lines).map (·.2)).contains label && !entryLabels.contains label) := by
    apply listsFirsts_filter_eraseDups
    intro label _
    simp
  refine ⟨_, hlists, ?_⟩
  simp only [unusedLabels, hcalled]
  simp only [List.forall₂_map_right_iff, List.forall₂_same]
  intro label hlabel
  have hdefined := ((hlists.mem_iff label).1 hlabel).1
  -- A listed label is defined, so there is a first line to report.
  cases hfirst : firstDefinition? (definitionsOf lines) label with
  | none => exact absurd hdefined (firstDefinition?_eq_none_iff.1 hfirst)
  | some line => exact ⟨line, firstDefinition?_eq_some_iff.1 hfirst, rfl⟩

theorem ofKind_undefined_lintLines (limit : Nat) (warnings : Bool) (lines : List Line) :
    ofKind "undefined_label" (lintLines limit warnings lines) =
      undefinedLabels (numbered lines) := by
  have hself : ofKind "undefined_label" (undefinedLabels (numbered lines)) =
      undefinedLabels (numbered lines) :=
    ofKind_eq_self fun _ => kind_of_mem_undefinedLabels
  simp [ofKind_lintLines, ofKind_conditionalJumps, ofKind_unusedLabels, ofKind_checkAll, lineKinds,
    hself]

theorem ofKind_duplicate_lintLines (limit : Nat) (warnings : Bool) (lines : List Line) :
    ofKind "duplicate_label" (lintLines limit warnings lines) =
      checkDefinitions [] (definitionsOf (numbered lines)) := by
  have hkind : "duplicate_label" ∈ lineKinds := by simp [lineKinds]
  simp only [ofKind_lintLines_of_mem_lineKinds hkind, ofKind_duplicate_checkAll]
  rfl

theorem ofKind_unused_lintLines (limit : Nat) (warnings : Bool) (lines : List Line) :
    ofKind "unused_label" (lintLines limit warnings lines) =
      if warnings then unusedLabels (numbered lines) else [] := by
  have hself : ofKind "unused_label" (unusedLabels (numbered lines)) =
      unusedLabels (numbered lines) :=
    ofKind_eq_self fun _ => kind_of_mem_unusedLabels
  simp [ofKind_lintLines, ofKind_conditionalJumps, ofKind_undefinedLabels, ofKind_checkAll,
    lineKinds, hself]

/-- The linter reports of each label, once, what its definitions and calls say. -/
theorem lint_resolves_labels (limit : Nat) (warnings : Bool) (content : String) :
    ResolvesLabels (definitionsOf (numbered (minified limit content)))
      (callSites (numbered (minified limit content))) warnings (lint limit warnings content) := by
  have hundefined := ofKind_undefined_lintLines limit warnings (minified limit content)
  have hrepeated := ofKind_duplicate_lintLines limit warnings (minified limit content)
  have hunused := ofKind_unused_lintLines limit warnings (minified limit content)
  constructor
  case undefined =>
    rcases undefinedLabels_reports (numbered (minified limit content)) with ⟨listed, hlists, heq⟩
    exact ⟨listed, hlists, hundefined.trans heq⟩
  case repeated =>
    rcases checkDefinitions_reports [] (definitionsOf (numbered (minified limit content))) with
      ⟨positions, hsorted, hmem, hreports⟩
    refine ⟨positions, hsorted, ?_, ?_⟩
    · simpa using hmem
    · simpa [lint, hrepeated] using hreports
  case unused =>
    rintro rfl
    rcases unusedLabels_reports (numbered (minified limit content)) with ⟨listed, hlists, hreports⟩
    refine ⟨listed, hlists, ?_⟩
    simpa only [lint, hunused, if_true] using hreports
  case silent =>
    rintro rfl
    simp [lint, hunused]

end Program
end MotionController
