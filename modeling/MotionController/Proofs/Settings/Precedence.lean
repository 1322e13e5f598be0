import MotionController.Proofs.Settings.Patterns
import MotionController.Settings.Parser

/-!
# Which rule reads a line

The first rule that fits a line reads it (`applyRules_eq_ok_iff`). Lines whose blanks or index are
written anew must not fit an earlier rule: `LinePattern.passesOver` checks that by the name alone,
and `FirstFit.rewritten` carries the rule over to the rewritten line.
-/

namespace MotionController
namespace Settings

open Text

variable {letters : List NameLetter} {names : List (List NameLetter)} {tail : Tail}
  {parts found : LineParts} {name after rest text line : List Char} {pattern : LinePattern}
  {hasAxis : Bool} {c : Char} {rules : List Rule} {rule : Rule}

/-! ## Settings -/

theorem LinePattern.parts?_setting (h : (setting names hasAxis tail).parts? line = some parts) :
    ∃ name after axis rest,
      (names.findSome? fun letters => splitName? letters (trimStart line)) = some (name, after) ∧
        splitAxis? hasAxis after = some (axis, rest) ∧
          tail.parts? { name := String.ofList name, axis } rest = some parts := by
  rcases Option.bind_eq_some_iff.1 h with ⟨⟨name, after⟩, hname, haxis⟩
  rcases Option.bind_eq_some_iff.1 haxis with ⟨⟨axis, rest⟩, haxis, htail⟩
  exact ⟨name, after, axis, rest, hname, haxis, htail⟩

theorem splitNames?_eq_some
    (h : (names.findSome? fun letters => splitName? letters text) = some (name, after)) :
    ∃ letters ∈ names, splitName? letters text = some (name, after) :=
  List.exists_of_findSome?_eq_some h

theorem LinePattern.parts?_withoutAxis (h : (setting names false tail).parts? line = some parts) :
    ∃ name after,
      (names.findSome? fun letters => splitName? letters (trimStart line)) = some (name, after) ∧
        tail.parts? { name := String.ofList name } after = some parts := by
  rcases LinePattern.parts?_setting h with ⟨name, after, axis, rest, hname, haxis, htail⟩
  simp only [splitAxis?, Option.some.injEq, Prod.mk.injEq] at haxis
  rcases haxis with ⟨rfl, rfl⟩
  exact ⟨name, after, hname, htail⟩

/-! ## Passing over lines -/

/-- The letters split nothing off a text of `name` and a character behind it that is no capital. -/
def rejects : List NameLetter → List Char → Bool
  | [], _ => false
  | letter :: _, [] => letter == .anyCapital
  | letter :: letters, c :: name => !letter.admits c || rejects letters name

/-- The pattern fits no line of `name` and a character behind it that is neither a capital nor an
equals sign. -/
def LinePattern.passesOver (name : List Char) : LinePattern → Bool
  | opening texts => texts.all fun t => !(t.toList.take name.length).isPrefixOf name
  | blank => true
  | setting names hasAxis tail =>
      names.all fun letters => rejects letters name ||
        letters.length == name.length && (hasAxis || tail == .nothing || tail == .assigned)

theorem splitName?_of_rejects (h : rejects letters name = true) (hc : c.isUpper = false) :
    splitName? letters (name ++ c :: rest) = none := by
  induction letters generalizing name with
  | nil => simp [rejects] at h
  | cons letter letters ih =>
      cases name with
      | nil =>
          have hletter : letter = .anyCapital := by simpa [rejects] using h
          have hadmits : letter.admits c = false := by rw [hletter]; exact hc
          simp [splitName?, hadmits]
      | cons first name =>
          simp only [List.cons_append, splitName?]
          split
          · next hadmits =>
              have hrest : rejects letters name = true := by
                simpa [rejects, hadmits] using h
              simp only [ih hrest]
              rfl
          · rfl

theorem LinePattern.parts?_of_passesOver (h : pattern.passesOver name = true)
    (htrim : trimStart (name ++ c :: rest) = name ++ c :: rest) (hupper : c.isUpper = false)
    (hequals : c ≠ '=') : pattern.parts? (name ++ c :: rest) = none := by
  cases pattern with
  | opening texts =>
      -- As much of an opening as is as long as the name would have to agree with it.
      have hnone : ¬ ∃ t ∈ texts, t.toList.isPrefixOf (name ++ c :: rest) = true := by
        rintro ⟨t, ht, hprefix⟩
        have hwhole : t.toList <+: name ++ c :: rest := List.isPrefixOf_iff_prefix.1 hprefix
        have hfront := (List.take_prefix name.length t.toList).trans hwhole
        have hshort := List.length_take_le name.length t.toList
        have hbegin : t.toList.take name.length <+: name := by
          simpa using List.prefix_take_iff.2 ⟨hfront, hshort⟩
        have hpass := List.all_eq_true.1 h t ht
        simp [List.isPrefixOf_iff_prefix.2 hbegin] at hpass
      have hany : (texts.any fun t => t.toList.isPrefixOf (name ++ c :: rest)) = false := by
        simpa using hnone
      simp only [LinePattern.parts?, htrim, hany]
      rfl
  | blank => simp [LinePattern.parts?, htrim]
  | setting names hasAxis tail =>
      cases hparts : (setting names hasAxis tail).parts? (name ++ c :: rest) with
      | none => rfl
      | some parts =>
          exfalso
          rcases LinePattern.parts?_setting hparts with
            ⟨split, after, axis, behind, hname, haxis, htail⟩
          simp only [htrim] at hname
          rcases splitNames?_eq_some hname with ⟨letters, hmem, hsplit⟩
          have hpass := List.all_eq_true.1 h letters hmem
          rcases Bool.or_eq_true_iff.1 hpass with hrejects | hsame
          · simp [splitName?_of_rejects hrejects hupper] at hsplit
          · -- The name is split off, and what follows it is no axis, nothing or a value.
            simp only [Bool.and_eq_true, beq_iff_eq, Bool.or_eq_true] at hsame
            rcases hsame with ⟨hlength, hkind⟩
            rcases splitName?_eq_some hsplit with ⟨heq, hsplitLength⟩
            have hafter : after = c :: rest :=
              (List.append_inj_right heq (hsplitLength.trans hlength).symm).symm
            subst hafter
            cases hasAxis with
            | true => simp [splitAxis?, hupper] at haxis
            | false =>
                have hbehind : behind = c :: rest := by
                  simpa [splitAxis?, eq_comm] using (Prod.mk.inj (Option.some.inj haxis)).2
                subst hbehind
                rcases hkind with (hkind | rfl) | rfl
                · cases hkind
                · cases (Tail.parts?_nothing htail).1
                · rcases Tail.parts?_assigned htail with ⟨value, hvalue, _⟩
                  exact hequals (List.cons.inj hvalue).1

/-! ## The first rule that fits -/

/-- `rule` is the first of the rules that fits the text, and takes it apart into `parts`. -/
def FirstFit (text : List Char) (rules : List Rule) (rule : Rule) (parts : LineParts) : Prop :=
  ∃ before after, rules = before ++ rule :: after ∧
    (∀ other ∈ before, other.pattern.parts? text = none) ∧ rule.pattern.parts? text = some parts

/-- What a rule makes of a line that it takes apart into `parts`. -/
def Rule.read (rule : Rule) (fields : LineFields) (parts : LineParts) :
    Except SettingsError Item :=
  match rule.builder with
  | none => .ok (.literal fields.text)
  | some build => (build { fields with parts }).map .parameter

theorem not_firstFit_nil : ¬FirstFit text [] rule parts := by
  rintro ⟨before, after, hrules, _⟩
  simp at hrules

/-- The first of the rules that fits is the one at the head, or else one behind it. -/
theorem firstFit_cons_iff {first : Rule} :
    FirstFit text (first :: rules) rule parts ↔
      (rule = first ∧ first.pattern.parts? text = some parts) ∨
        (first.pattern.parts? text = none ∧ FirstFit text rules rule parts) := by
  constructor
  · rintro ⟨before, after, hrules, hbefore, hparts⟩
    cases before with
    | nil =>
        cases hrules
        exact .inl ⟨rfl, hparts⟩
    | cons other before =>
        cases hrules
        refine .inr ⟨hbefore first List.mem_cons_self, before, after, rfl, ?_, hparts⟩
        exact fun other hother => hbefore other (List.mem_cons_of_mem _ hother)
  · rintro (⟨rfl, hparts⟩ | ⟨hnone, before, after, rfl, hbefore, hparts⟩)
    · exact ⟨[], rules, rfl, by simp, hparts⟩
    · exact ⟨first :: before, after, rfl, List.forall_mem_cons.2 ⟨hnone, hbefore⟩, hparts⟩

theorem applyRules_eq_ok_iff {fields : LineFields} {item : Item} :
    Parser.applyRules fields rules = .ok item ↔
      ∃ rule parts, FirstFit fields.text.toList rules rule parts ∧
        rule.read fields parts = .ok item := by
  -- The rules in front of the one that fits are passed one at a time.
  induction rules with
  | nil =>
      constructor
      · intro h
        cases h
      · rintro ⟨rule, parts, hfit, _⟩
        exact absurd hfit not_firstFit_nil
  | cons first rules ih =>
      simp only [firstFit_cons_iff]
      cases hfits : first.pattern.parts? fields.text.toList with
      | none =>
          have hskip : Parser.applyRules fields (first :: rules) =
              Parser.applyRules fields rules := by
            simp [Parser.applyRules, hfits]
          simp [hskip, ih]
      | some parts =>
          have hread : Parser.applyRules fields (first :: rules) = first.read fields parts := by
            simp only [Parser.applyRules, hfits]
            rfl
          simp [hread]

theorem FirstFit.mem (h : FirstFit text rules rule parts) : rule ∈ rules := by
  rcases h with ⟨before, after, rfl, _⟩
  simp

theorem FirstFit.parts?_eq (h : FirstFit text rules rule parts) :
    rule.pattern.parts? text = some parts := by
  rcases h with ⟨_, _, _, _, hparts⟩
  exact hparts

theorem LinePattern.parts?_trimStart (pattern : LinePattern) (line : List Char) :
    pattern.parts? (trimStart line) = pattern.parts? line := by
  simp only [LinePattern.parts?, trimStart_trimStart]

/-- Blanks in front of a line do not count. -/
theorem FirstFit.trimStart (h : FirstFit text rules rule parts) :
    FirstFit (trimStart text) rules rule parts := by
  rcases h with ⟨before, after, hrules, hbefore, hparts⟩
  refine ⟨before, after, hrules, ?_, ?_⟩
  · intro other hother
    simp only [LinePattern.parts?_trimStart]
    exact hbefore other hother
  · simp only [LinePattern.parts?_trimStart]
    exact hparts

/-! ## Rewritten lines -/

/-- A line with the tail is written as it was read. -/
def Tail.isVerbatim : Tail → Bool
  | nothing | assigned => true
  | _ => false

/-- The name that letters without a choice spell. -/
def spelling (letters : List NameLetter) : List Char :=
  letters.filterMap fun
    | .exactly letter => some letter
    | .anyCapital => none

/-- The lines that are written anew for the later pattern do not fit the earlier one. -/
def LinePattern.yieldsTo (earlier later : LinePattern) : Bool :=
  match later with
  | setting names _ tail =>
      tail.isVerbatim || names.all fun letters => earlier.passesOver (spelling letters)
  | _ => true

theorem spelling_named (n : String) : spelling (named n) = n.toList := by
  simp [spelling, named, List.filterMap_map]

theorem splitName?_spelled (spelled : List Char) :
    splitName? (spelled.map .exactly) spelled = some (spelled, []) := by
  induction spelled with
  | nil => rfl
  | cons c spelled ih => simp [splitName?, NameLetter.admits, ih]

/-- A line that begins with a name of a rule is read by that rule if what stands behind the name
fits the rule's tail: which of its names it begins with makes no difference. -/
theorem FirstFit.renamed {names : List String} {m : String}
    (hyields : rules.Pairwise fun earlier later => earlier.pattern.yieldsTo later.pattern = true)
    (hpattern : rule.pattern = .setting (names.map named) false tail)
    (hlength : ∀ n ∈ names, n.toList.length = 2) (htail : tail.isVerbatim = false)
    (hmem : rule ∈ rules) (hm : m ∈ names)
    (htrim : Text.trimStart (m.toList ++ c :: rest) = m.toList ++ c :: rest)
    (hupper : c.isUpper = false) (hequals : c ≠ '=')
    (hfound : tail.parts? { name := m } (c :: rest) = some found) :
    FirstFit (m.toList ++ c :: rest) rules rule found := by
  obtain ⟨before, others, rfl⟩ := List.append_of_mem hmem
  refine ⟨before, others, rfl, ?_, ?_⟩
  · intro other hother
    have hyield := (List.pairwise_append.1 hyields).2.2 other hother rule List.mem_cons_self
    have hpasses : ((names.map named).all fun letters =>
        other.pattern.passesOver (spelling letters)) = true := by
      simpa [hpattern, LinePattern.yieldsTo, htail] using hyield
    have hpass := List.all_eq_true.1 hpasses (named m) (List.mem_map_of_mem hm)
    simp only [spelling_named] at hpass
    exact LinePattern.parts?_of_passesOver hpass htrim hupper hequals
  · -- All names are equally long, so which of them is split off shows in the name alone.
    have hall : ∀ letters ∈ names.map named, letters.length = m.toList.length := by
      intro letters hletters
      rcases List.mem_map.1 hletters with ⟨other, hother, rfl⟩
      simp [named, hlength other hother, hlength m hm]
    have hsome : ((names.map named).findSome? fun letters =>
        splitName? letters m.toList).isSome = true := by
      apply List.findSome?_isSome_iff.2
      exact ⟨named m, List.mem_map_of_mem hm, by simp [named, splitName?_spelled]⟩
    have hagain : ((names.map named).findSome? fun letters =>
        splitName? letters (m.toList ++ c :: rest)) = some (m.toList, c :: rest) := by
      rcases Option.isSome_iff_exists.1 hsome with ⟨split, hsplit⟩
      simp only [splitNames?_append hall, hsplit]
      rfl
    simp only [hpattern]
    simp [LinePattern.parts?, htrim, hagain, splitAxis?, hfound]

/-- A line that begins with its name is read by the same rule when it is written anew behind the
name, if what stands there fits the rule's tail. -/
theorem FirstFit.rewritten {names : List String}
    (hyields : rules.Pairwise fun earlier later => earlier.pattern.yieldsTo later.pattern = true)
    (hpattern : rule.pattern = .setting (names.map named) false tail)
    (hlength : ∀ n ∈ names, n.toList.length = 2) (htail : tail.isVerbatim = false)
    (h : FirstFit text rules rule parts) :
    ∃ n ∈ names, ∃ after, Text.trimStart text = n.toList ++ after ∧
      tail.parts? { name := n } after = some parts ∧
        ∀ c rest found, c.isUpper = false → c ≠ '=' →
          tail.parts? { name := n } (c :: rest) = some found →
            FirstFit (n.toList ++ c :: rest) rules rule found := by
  have hfit := h.parts?_eq
  simp only [hpattern] at hfit
  rcases LinePattern.parts?_withoutAxis hfit with ⟨name, after, hname, hparts⟩
  rcases splitNames?_eq_some hname with ⟨letters, hletters, hsplit⟩
  rcases List.mem_map.1 hletters with ⟨n, hn, rfl⟩
  have hspelled : name = n.toList := splitName?_exactly hsplit
  subst hspelled
  have htext := (splitName?_eq_some hsplit).1
  simp only [String.ofList_toList] at hparts
  have hne : n.toList ≠ [] := by
    intro hnil
    simpa [hnil] using hlength n hn
  have htrim : ∀ rest, Text.trimStart (n.toList ++ rest) = n.toList ++ rest := by
    apply trimStart_append_congr hne (b := after)
    simp only [← htext, trimStart_trimStart]
  refine ⟨n, hn, after, htext, hparts, ?_⟩
  intro c rest found hupper hequals hfound
  exact .renamed hyields hpattern hlength htail h.mem hn (htrim _) hupper hequals hfound

end Settings
end MotionController
