import MotionController.Proofs.Parameter.Replies
import MotionController.Proofs.Settings.RoundTrip

/-!
# Lines with another value

A setting whose value stands behind an equals sign is read by the same rule when another value
stands there (`FirstFit.revalued`): no rule looks at a value behind the sign
(`LinePattern.parts?_revalued`).
-/

namespace MotionController
namespace Settings

open Text

variable {letters : List NameLetter} {names : List (List NameLetter)} {tail : Tail}
  {parts found : LineParts} {name after rest text line front value other : List Char}
  {pattern : LinePattern} {hasAxis : Bool} {c : Char} {rules : List Rule} {rule : Rule}

/-! ## Values behind equals signs -/

/-- No equals sign is looked for but the one in front of a value. -/
def LinePattern.ignoresValue : LinePattern → Bool
  | opening texts => texts.all fun t => !t.toList.contains '='
  | blank => true
  | setting names _ tail =>
      tail == .assigned && names.all fun letters => !letters.contains (.exactly '=')

theorem NameLetter.ne_equals_of_admits {letter : NameLetter} (hletter : letter ≠ .exactly '=')
    (h : letter.admits c = true) : c ≠ '=' := by
  rintro rfl
  cases letter with
  | exactly spelled =>
      apply hletter
      rw [beq_iff_eq.1 h]
  | anyCapital => cases h

theorem equals_not_mem_splitName (hletters : .exactly '=' ∉ letters)
    (h : splitName? letters text = some (name, after)) : '=' ∉ name := by
  induction letters generalizing text name with
  | nil =>
      cases h
      simp
  | cons letter letters ih =>
      cases text with
      | nil => cases h
      | cons c text =>
          simp only [splitName?] at h
          split at h
          · next hadmits =>
              obtain ⟨⟨first, back⟩, hsplit, heq⟩ := Option.map_eq_some_iff.1 h
              cases heq
              have hletter : letter ≠ .exactly '=' := by
                rintro rfl
                exact hletters List.mem_cons_self
              have hc := NameLetter.ne_equals_of_admits hletter hadmits
              have hfirst := ih (fun hmem => hletters (List.mem_cons_of_mem _ hmem)) hsplit
              simp [hc.symm, hfirst]
          · cases h

/-- A name ends in front of an equals sign. -/
theorem splitName?_append_equals (hletters : .exactly '=' ∉ letters) :
    splitName? letters (front ++ '=' :: value) =
      (splitName? letters front).map fun (name, after) => (name, after ++ '=' :: value) := by
  induction letters generalizing front with
  | nil => rfl
  | cons letter letters ih =>
      have hrest := fun hmem => hletters (List.mem_cons_of_mem letter hmem)
      cases front with
      | nil =>
          have hletter : letter ≠ .exactly '=' := by
            rintro rfl
            exact hletters List.mem_cons_self
          have hadmits : letter.admits '=' = false := by
            cases hequals : letter.admits '=' with
            | false => rfl
            | true => exact absurd rfl (NameLetter.ne_equals_of_admits hletter hequals)
          simp [splitName?, hadmits]
      | cons c front =>
          simp only [List.cons_append, splitName?, ih hrest]
          split
          · cases splitName? letters front <;> rfl
          · rfl

theorem splitNames?_append_equals (hnames : ∀ letters ∈ names, .exactly '=' ∉ letters) :
    (names.findSome? fun letters => splitName? letters (front ++ '=' :: value)) =
      (names.findSome? fun letters => splitName? letters front).map fun (name, after) =>
        (name, after ++ '=' :: value) := by
  induction names with
  | nil => rfl
  | cons letters names ih =>
      have hfirst : splitName? letters (front ++ '=' :: value) =
          (splitName? letters front).map fun (name, after) => (name, after ++ '=' :: value) :=
        splitName?_append_equals (hnames letters List.mem_cons_self)
      have hrest := ih fun other hother => hnames other (List.mem_cons_of_mem letters hother)
      simp only [List.findSome?_cons, hfirst, hrest]
      cases splitName? letters front <;> rfl

theorem splitAxis?_append_equals :
    splitAxis? hasAxis (front ++ '=' :: value) =
      (splitAxis? hasAxis front).map fun (axis, after) => (axis, after ++ '=' :: value) := by
  have hequals : Char.isUpper '=' = false := by decide
  cases hasAxis with
  | false => rfl
  | true =>
      cases front with
      | nil => simp [splitAxis?, hequals]
      | cons c front =>
          simp only [List.cons_append, splitAxis?]
          split <;> rfl

theorem trimStart_append_equals (h : trimStart front = front) :
    trimStart (front ++ '=' :: value) = front ++ '=' :: value := by
  cases front with
  | nil => exact trimStart_cons_of_not_blank (by decide)
  | cons c front =>
      have hc : isBlank c = false := isBlank_of_head?_trimStart (by rw [h]; rfl)
      exact trimStart_cons_of_not_blank hc

theorem splitAxis?_eq_some {axis : Option Char} (h : splitAxis? hasAxis text = some (axis, rest)) :
    text = axis.toList ++ rest ∧ '=' ∉ axis.toList := by
  have hequals : Char.isUpper '=' = false := by decide
  unfold splitAxis? at h
  split at h
  · cases h
    simp
  · split at h
    · next hupper =>
        cases h
        refine ⟨rfl, ?_⟩
        intro hmem
        rw [← List.mem_singleton.1 hmem, hequals] at hupper
        cases hupper
    · cases h
  · cases h

theorem Tail.parts?_assigned_of_ne (hc : c ≠ '=') :
    Tail.assigned.parts? parts (c :: rest) = none := by
  cases h : Tail.assigned.parts? parts (c :: rest) with
  | none => rfl
  | some found =>
      obtain ⟨value, hvalue, _⟩ := Tail.parts?_assigned h
      exact absurd (List.cons.inj hvalue).1 hc

/-- A setting whose value stands behind an equals sign is what stands in front of the sign, and the
value. -/
theorem LinePattern.parts?_append_equals (hnames : ∀ letters ∈ names, .exactly '=' ∉ letters)
    (hfront : '=' ∉ front) (hstart : trimStart front = front) (hnewline : '\n' ∉ value) :
    (setting names hasAxis .assigned).parts? (front ++ '=' :: value) =
      ((setting names hasAxis .nothing).parts? front).map fun parts =>
        { parts with value := some (String.ofList value) } := by
  have hvalue : value? value = some (String.ofList value) := value?_eq_some_iff.2 ⟨hnewline, rfl⟩
  simp only [LinePattern.parts?, trimStart_append_equals hstart, hstart,
    splitNames?_append_equals hnames]
  cases hname : names.findSome? fun letters => splitName? letters front with
  | none => rfl
  | some split =>
      obtain ⟨name, after⟩ := split
      simp only [Option.map_some, Option.bind_eq_bind, Option.bind_some, splitAxis?_append_equals]
      cases haxis : splitAxis? hasAxis after with
      | none => rfl
      | some split =>
          obtain ⟨axis, behind⟩ := split
          cases behind with
          | nil => simp [Tail.parts?, hvalue]
          | cons c behind =>
              -- Something is left in front of the sign, and it is no sign itself.
              obtain ⟨letters, _, hsplit⟩ := splitNames?_eq_some hname
              have hafter : c ∈ after := by
                rw [(splitAxis?_eq_some haxis).1]
                simp
              have hc : c ≠ '=' := by
                rintro rfl
                apply hfront
                rw [(splitName?_eq_some hsplit).1]
                exact List.mem_append_right name hafter
              simp only [Option.map_some, Option.bind_some, List.cons_append,
                Tail.parts?_assigned_of_ne hc]
              rfl

theorem isPrefixOf_append_equals {t : List Char} (ht : '=' ∉ t) :
    t.isPrefixOf (front ++ '=' :: value) = t.isPrefixOf front := by
  rw [Bool.eq_iff_iff, List.isPrefixOf_iff_prefix, List.isPrefixOf_iff_prefix]
  constructor
  · intro h
    rcases List.prefix_or_prefix_of_prefix h (List.prefix_append front ('=' :: value)) with
      hprefix | ⟨behind, rfl⟩
    · exact hprefix
    · rw [List.prefix_append_right_inj] at h
      cases behind with
      | nil => simp
      | cons c behind =>
          obtain ⟨rfl, _⟩ := List.cons_prefix_cons.1 h
          exact absurd (by simp) ht
  · intro h
    exact h.trans (List.prefix_append front _)

/-- Which of two values stands behind an equals sign makes no difference to what is in front. -/
theorem LinePattern.parts?_revalued (h : pattern.ignoresValue = true) (hfront : '=' ∉ front)
    (hstart : trimStart front = front) (hvalue : '\n' ∉ value) (hother : '\n' ∉ other) :
    pattern.parts? (front ++ '=' :: other) =
      (pattern.parts? (front ++ '=' :: value)).map fun parts =>
        { parts with value := parts.value.map fun _ => String.ofList other } := by
  cases pattern with
  | opening texts =>
      -- An opening without equals sign ends in front of the sign, if it is there at all.
      have hany : ∀ value, (texts.any fun t => t.toList.isPrefixOf (front ++ '=' :: value)) =
          texts.any fun t => t.toList.isPrefixOf front := by
        intro value
        have hequals : ∀ t ∈ texts, '=' ∉ t.toList := by
          simpa [ignoresValue] using h
        rw [Bool.eq_iff_iff, List.any_eq_true, List.any_eq_true]
        refine exists_congr fun t => and_congr_right fun ht => ?_
        rw [isPrefixOf_append_equals (hequals t ht)]
      simp only [LinePattern.parts?, trimStart_append_equals hstart, hany]
      split <;> rfl
  | blank => simp [LinePattern.parts?, trimStart_append_equals hstart]
  | setting names hasAxis tail =>
      obtain ⟨rfl, hnames⟩ : tail = .assigned ∧ ∀ letters ∈ names, .exactly '=' ∉ letters := by
        simpa [ignoresValue] using h
      simp only [parts?_append_equals hnames hfront hstart hvalue,
        parts?_append_equals hnames hfront hstart hother, Option.map_map]
      rfl

/-! ## The rule that reads a value -/

/-- The pattern is that of a setting with this tail. -/
def LinePattern.endsIn (tail : Tail) : LinePattern → Bool
  | setting _ _ other => other == tail
  | _ => false

/-- What a setting names: its name and its axis letter. -/
def LineParts.head (parts : LineParts) : List Char :=
  parts.name.toList ++ parts.axis.toList

theorem LinePattern.parts?_assigned (hnames : ∀ letters ∈ names, .exactly '=' ∉ letters)
    (h : (setting names hasAxis .assigned).parts? text = some parts) :
    '=' ∉ parts.head ∧ ∃ value, trimStart text = parts.head ++ '=' :: value ∧
      parts.value = some (String.ofList value) := by
  obtain ⟨name, after, axis, rest, hname, haxis, htail⟩ := LinePattern.parts?_setting h
  obtain ⟨letters, hletters, hsplit⟩ := splitNames?_eq_some hname
  obtain ⟨value, rfl, rfl⟩ := Tail.parts?_assigned htail
  obtain ⟨hafter, haxisEquals⟩ := splitAxis?_eq_some haxis
  have hnameEquals := equals_not_mem_splitName (hnames letters hletters) hsplit
  refine ⟨?_, value, ?_, rfl⟩
  · simp only [LineParts.head, String.toList_ofList, List.mem_append, not_or]
    exact ⟨hnameEquals, haxisEquals⟩
  · rw [(splitName?_eq_some hsplit).1, hafter]
    simp [LineParts.head]

/-- There is an axis letter if there has to be one. -/
theorem LinePattern.isSome_axis_of_parts?
    (h : (setting names hasAxis .assigned).parts? text = some parts) :
    parts.axis.isSome = hasAxis := by
  obtain ⟨name, after, axis, rest, _, haxis, htail⟩ := LinePattern.parts?_setting h
  obtain ⟨value, rfl, rfl⟩ := Tail.parts?_assigned htail
  unfold splitAxis? at haxis
  split at haxis
  · cases haxis
    rfl
  · split at haxis
    · cases haxis
      rfl
    · cases haxis
  · cases haxis

/-- The rule that reads a value behind an equals sign reads any other value there as well. -/
theorem FirstFit.revalued
    (hignores : ∀ rule ∈ rules,
      rule.pattern.endsIn .assigned = true → rule.pattern.ignoresValue = true)
    (hbefore : rules.Pairwise fun earlier later =>
      later.pattern.endsIn .assigned = true → earlier.pattern.ignoresValue = true)
    (hpattern : rule.pattern = .setting names hasAxis .assigned) (hnewline : '\n' ∉ text)
    (h : FirstFit text rules rule parts) (hother : '\n' ∉ other) :
    '\n' ∉ parts.head ∧
      FirstFit (parts.head ++ '=' :: other) rules rule
        { parts with value := some (String.ofList other) } := by
  have hassigned : rule.pattern.endsIn .assigned = true := by
    simp [hpattern, LinePattern.endsIn]
  have hignore := hignores rule h.mem hassigned
  have hnames : ∀ letters ∈ names, .exactly '=' ∉ letters := by
    simpa [hpattern, LinePattern.ignoresValue] using hignore
  have hparts := h.parts?_eq
  rw [hpattern] at hparts
  obtain ⟨hequals, value, htext, hvalue⟩ := LinePattern.parts?_assigned hnames hparts
  have hstart : Text.trimStart parts.head = parts.head := by
    rcases eq_or_ne parts.head [] with hnil | hne
    · rw [hnil]
      rfl
    · have hwhole : Text.trimStart (parts.head ++ '=' :: value) = parts.head ++ '=' :: value := by
        rw [← htext, trimStart_trimStart]
      simpa using trimStart_append_congr hne hwhole []
  have hline : '\n' ∉ parts.head ++ '=' :: value := by
    rw [← htext]
    exact fun hmem => hnewline ((List.dropWhile_sublist isBlank).subset hmem)
  simp only [List.mem_append, List.mem_cons, not_or] at hline
  obtain ⟨hheadLine, _, hvalueLine⟩ := hline
  refine ⟨hheadLine, ?_⟩
  -- The rules in front of this one pass over the line as they did before.
  obtain ⟨before, after, rfl, hpassed, hfits⟩ := h.trimStart
  rw [htext] at hpassed hfits
  refine ⟨before, after, rfl, ?_, ?_⟩
  · intro earlier hearlier
    have hearlierIgnores :=
      (List.pairwise_append.1 hbefore).2.2 earlier hearlier rule List.mem_cons_self hassigned
    rw [LinePattern.parts?_revalued hearlierIgnores hequals hstart hvalueLine hother,
      hpassed earlier hearlier]
    rfl
  · rw [LinePattern.parts?_revalued hignore hequals hstart hvalueLine hother, hfits]
    simp [hvalue]

end Settings
end MotionController
