import MotionController.Proofs.Settings.Precedence

/-!
# Lines written anew

The line that is written for an item says what the line it was read from says: the same rule reads
it as the same item, and but for leading zeros of an index both have the same characters that are
not blank. This holds for every table whose builders suit their patterns and in which no rule takes
a line written for a later one (`IsFaithful`), so of the standard table.
-/

namespace MotionController
namespace Settings

open Text

variable {line written rest name digits : List Char} {fields : LineFields} {parts : LineParts}
  {rules : List Rule} {rule : Rule} {item : Item} {p : Parameter} {kind : ParameterKind}
  {value : String}

/-! ## The same setting -/

/-- The characters of a line that are not blank. -/
def solid (line : List Char) : List Char :=
  line.filter fun c => !isBlank c

/-- The lines have the same characters, blanks aside, but for zeros in front of an index. -/
inductive SameSetting (line written : List Char) : Prop where
  | verbatim (h : solid written = solid line)
  | index (name : String) (zeros : List Char) (digit : Char) (rest : List Char)
      (hname : name ∈ ["SB", "CB", "AQ"]) (hzeros : ∀ c ∈ zeros, c = '0')
      (hdigit : digit.isDigit = true)
      (hline : solid line = name.toList ++ zeros ++ digit :: rest)
      (hwritten : solid written = name.toList ++ digit :: rest)

theorem solid_append (a b : List Char) : solid (a ++ b) = solid a ++ solid b := by
  simp [solid]

theorem solid_cons_of_blank {c : Char} (hc : isBlank c = true) :
    solid (c :: rest) = solid rest := by
  simp [solid, hc]

theorem solid_of_allBlank {w : List Char} (hw : AllBlank w) : solid w = [] := by
  apply List.filter_eq_nil_iff.2
  intro c hc
  simp [hw c hc]

theorem solid_trimStart (line : List Char) : solid (trimStart line) = solid line := by
  rcases exists_allBlank_append_trimStart line with ⟨w, hw, hline⟩
  calc
    solid (trimStart line) = solid w ++ solid (trimStart line) := by simp [solid_of_allBlank hw]
    _ = solid line := by rw [← solid_append, ← hline]

theorem solid_trimEnd (line : List Char) : solid (trimEnd line) = solid line := by
  rcases exists_trimEnd_append_allBlank line with ⟨w, hw, hline⟩
  calc
    solid (trimEnd line) = solid (trimEnd line) ++ solid w := by simp [solid_of_allBlank hw]
    _ = solid line := by rw [← solid_append, ← hline]

theorem solid_of_isDigits (h : ∀ c ∈ digits, c.isDigit = true) : solid digits = digits := by
  apply List.filter_eq_self.2
  intro c hc
  simp [isBlank_of_isDigit (h c hc)]

/-! ## Parameters of a line -/

theorem LineFields.parameter_of_value (hkind : kind ≠ .command)
    (hvalue : fields.parts.value = some value) :
    fields.parameter kind =
      { kind, name := fields.parts.name, value := some value, axes := some fields.axes,
        source := some ⟨fields.file, fields.line⟩ } := by
  simp [LineFields.parameter, hvalue, Parameter.withValue, Parameter.withAxes, Parameter.withSource,
    Parameter.ofKind, hkind]

theorem LineFields.parameter_of_none (hvalue : fields.parts.value = none) :
    fields.parameter kind =
      { kind, name := fields.parts.name,
        value := Parameter.initialValue kind fields.parts.name, axes := some fields.axes,
        source := some ⟨fields.file, fields.line⟩ } := by
  simp [LineFields.parameter, hvalue, Parameter.withAxes, Parameter.withSource, Parameter.ofKind]

/-- An output bit is written by the command that names it. -/
theorem toText_outputBit {name : String} {index : Nat} {axes : Option String}
    {source : Option Source} (hname : name ∈ ["CB", "SB"]) :
    Parameter.toText
      { kind := .outputBit index, name, value := Parameter.initialValue (.outputBit index) name,
        axes, source } = .ok (name ++ Parameter.numeral index) := by
  have hset : (Numeric.read? (trim ['1'])).map (fun level => level.hasWholePart) = some true := by
    decide +kernel
  have hclear : (Numeric.read? (trim ['0'])).map (fun level => level.hasWholePart) =
      some false := by
    decide +kernel
  rcases Option.map_eq_some_iff.1 hset with ⟨one, hone, honeWhole⟩
  rcases Option.map_eq_some_iff.1 hclear with ⟨zero, hzero, hzeroWhole⟩
  simp only [List.mem_cons, List.not_mem_nil, or_false] at hname
  -- The value on file is the state that the command names.
  rcases hname with rfl | rfl
  · simp only [Parameter.toText, Parameter.initialValue]
    simp [Parameter.writeCommand, hzero, hzeroWhole]
  · simp only [Parameter.toText, Parameter.initialValue]
    simp [Parameter.writeCommand, hone, honeWhole]

/-- The index of a line is the number its digits spell, behind zeros. -/
theorem LineFields.requireIndex_eq_ok {index : Nat} (hplus : digits.head? ≠ some '+')
    (hparts : fields.parts.index = some (String.ofList digits))
    (h : fields.requireIndex = .ok index) :
    ∃ zeros, (∀ c ∈ zeros, c = '0') ∧ digits = zeros ++ Numeric.decimal index ∧
      index < Nat.pow 2 32 := by
  have hread : Numeric.readUnsigned? 32 digits = some index := by
    simp only [LineFields.requireIndex, hparts, Option.bind_some, String.toList_ofList] at h
    cases hunsigned : Numeric.readUnsigned? 32 digits with
    | none => simp [hunsigned] at h
    | some found =>
        simp only [hunsigned] at h
        cases h
        rfl
  rcases (Numeric.readUnsigned?_eq_some_iff hplus).1 hread with ⟨hdigits, rfl, hlt⟩
  rcases hdigits.exists_zeros_append_decimal with ⟨zeros, hzeros, heq⟩
  exact ⟨zeros, hzeros, heq, hlt⟩

theorem LineFields.requireIndex_decimal {index : Nat} (hlt : index < Nat.pow 2 32)
    (hparts : fields.parts.index = some (String.ofList (Numeric.decimal index))) :
    fields.requireIndex = .ok index := by
  simp [LineFields.requireIndex, hparts, Numeric.readUnsigned?_decimal hlt]

/-! ## Rewritings -/

/-- The line `written` for an item says what the line it was read from says. -/
structure IsRewriting (rules : List Rule) (fields : LineFields) (item : Item)
    (written : List Char) : Prop where
  text : item.toText = .ok (String.ofList written)
  trimmed : trimEnd written = written
  reread : Parser.applyRules { fields with text := String.ofList written } rules = .ok item
  newline : '\n' ∉ fields.text.toList → '\n' ∉ written
  same : SameSetting fields.text.toList written

theorem reread_of_firstFit (h : FirstFit written rules rule parts)
    (hread : rule.read { fields with text := String.ofList written } parts = .ok item) :
    Parser.applyRules { fields with text := String.ofList written } rules = .ok item := by
  apply applyRules_eq_ok_iff.2
  exact ⟨rule, parts, by simpa using h, hread⟩

theorem isRewriting_literal (htrim : trimEnd fields.text.toList = fields.text.toList)
    (h : Parser.applyRules fields rules = .ok (.literal fields.text)) :
    IsRewriting rules fields (.literal fields.text) fields.text.toList where
  text := by simp [Item.toText]
  trimmed := htrim
  reread := by simpa using h
  newline := id
  same := .verbatim rfl

/-- The line without the blanks in front of it. -/
theorem isRewriting_trimStart (htrim : trimEnd fields.text.toList = fields.text.toList)
    (hfit : FirstFit fields.text.toList rules rule parts)
    (hread : ∀ text, rule.read { fields with text } parts = .ok (.parameter p))
    (htext : p.toText = .ok (String.ofList (trimStart fields.text.toList))) :
    IsRewriting rules fields (.parameter p) (trimStart fields.text.toList) where
  text := htext
  trimmed := trimEnd_trimStart htrim
  reread := reread_of_firstFit hfit.trimStart (hread _)
  newline := fun hnot hmem => hnot ((List.dropWhile_sublist isBlank).subset hmem)
  same := .verbatim (solid_trimStart _)

/-! ## Builders that suit patterns -/

/-- Parameters of the kind are written as a value behind a blank. -/
def writesSpaced : ParameterKind → Bool
  | .basic | .basicQuery | .axisMask | .vector _ | .network => true
  | _ => false

/-- The builder makes parameters that are written in the pattern's form. -/
inductive Suits : LinePattern → Option Builder → Prop where
  | literal (pattern : LinePattern) : Suits pattern none
  | command (names : List (List NameLetter)) :
      Suits (.setting names false .nothing) (some (buildKind .command))
  | assigned (names : List (List NameLetter)) :
      Suits (.setting names false .assigned) (some (buildKind .assigned))
  | axis (names : List (List NameLetter)) (kind : Char → ParameterKind)
      (hkind : kind = .axis ∨ kind = .axisQuery ∨ kind = .ssiQuery) :
      Suits (.setting names true .assigned) (some (buildAxis kind))
  | spaced (names : List String) (tail : Tail) (kind : ParameterKind)
      (hlength : ∀ n ∈ names, n.toList.length = 2) (htail : tail.IsSpaced)
      (hkind : writesSpaced kind = true) :
      Suits (.setting (names.map named) false tail) (some (buildKind kind))
  | outputBit :
      Suits (.setting (["CB", "SB"].map named) false .index) (some (buildIndex .outputBit))
  | indexed :
      Suits (.setting (["AQ"].map named) false .indexed) (some (buildIndex .indexed))

theorem toText_of_writesSpaced {axes : Option String} {source : Option Source} {name : String}
    (hkind : writesSpaced kind = true) :
    Parameter.toText { kind, name, value := some value, axes, source } =
      .ok (name ++ " " ++ value) := by
  cases kind <;> first | rfl | cases hkind

theorem read_of_buildKind (hbuilder : rule.builder = some (buildKind kind)) :
    rule.read fields parts =
      .ok (.parameter (LineFields.parameter { fields with parts } kind)) := by
  simp only [Rule.read, hbuilder]
  rfl

theorem read_of_buildAxis {kind : Char → ParameterKind} {axis : Char}
    (hbuilder : rule.builder = some (buildAxis kind)) (haxis : parts.axis = some axis) :
    rule.read fields parts =
      .ok (.parameter (LineFields.parameter { fields with parts } (kind axis))) := by
  simp only [Rule.read, hbuilder, buildAxis, LineFields.requireAxis, haxis]
  rfl

theorem read_of_buildIndex {kind : Nat → ParameterKind}
    (hbuilder : rule.builder = some (buildIndex kind)) {index : Nat}
    (hindex : LineFields.requireIndex { fields with parts } = .ok index) :
    rule.read fields parts =
      .ok (.parameter (LineFields.parameter { fields with parts } (kind index))) := by
  simp only [Rule.read, hbuilder, buildIndex, hindex]
  rfl

theorem requireIndex_of_read {kind : Nat → ParameterKind}
    (hbuilder : rule.builder = some (buildIndex kind)) (h : rule.read fields parts = .ok item) :
    ∃ index, LineFields.requireIndex { fields with parts } = .ok index := by
  cases hindex : LineFields.requireIndex { fields with parts } with
  | ok index => exact ⟨index, rfl⟩
  | error error =>
      simp only [Rule.read, hbuilder, buildIndex, hindex] at h
      cases h

/-! ## Lines that are kept -/

theorem exists_rewriting_command {names : List (List NameLetter)}
    (hpattern : rule.pattern = .setting names false .nothing)
    (hbuilder : rule.builder = some (buildKind .command))
    (htrim : trimEnd fields.text.toList = fields.text.toList)
    (hfit : FirstFit fields.text.toList rules rule parts)
    (hread : rule.read fields parts = .ok item) :
    ∃ written, IsRewriting rules fields item written := by
  have hparts := hfit.parts?_eq
  simp only [hpattern] at hparts
  rcases LinePattern.parts?_withoutAxis hparts with ⟨name, after, hname, htail⟩
  -- The line is its name and nothing else.
  rcases splitNames?_eq_some hname with ⟨letters, _, hsplit⟩
  rcases Tail.parts?_nothing htail with ⟨rfl, rfl⟩
  have hline := (splitName?_eq_some hsplit).1
  simp only [read_of_buildKind hbuilder] at hread
  cases hread
  refine ⟨_, isRewriting_trimStart htrim hfit (fun _ => read_of_buildKind hbuilder) ?_⟩
  rw [LineFields.parameter_of_none rfl, hline]
  simp [Parameter.toText, Parameter.initialValue, Parameter.writeCommand, Parameter.mnemonic]

theorem exists_rewriting_assigned {names : List (List NameLetter)}
    (hpattern : rule.pattern = .setting names false .assigned)
    (hbuilder : rule.builder = some (buildKind .assigned))
    (htrim : trimEnd fields.text.toList = fields.text.toList)
    (hfit : FirstFit fields.text.toList rules rule parts)
    (hread : rule.read fields parts = .ok item) :
    ∃ written, IsRewriting rules fields item written := by
  have hparts := hfit.parts?_eq
  simp only [hpattern] at hparts
  rcases LinePattern.parts?_withoutAxis hparts with ⟨name, after, hname, htail⟩
  rcases splitNames?_eq_some hname with ⟨letters, _, hsplit⟩
  rcases Tail.parts?_assigned htail with ⟨value, rfl, rfl⟩
  have hline := (splitName?_eq_some hsplit).1
  simp only [read_of_buildKind hbuilder] at hread
  cases hread
  refine ⟨_, isRewriting_trimStart htrim hfit (fun _ => read_of_buildKind hbuilder) ?_⟩
  rw [LineFields.parameter_of_value (by simp) rfl, hline]
  simp [Parameter.toText, Parameter.writeCommand, Parameter.mnemonic, String.append_assoc]

theorem exists_rewriting_axis {names : List (List NameLetter)} {kind : Char → ParameterKind}
    (hpattern : rule.pattern = .setting names true .assigned)
    (hbuilder : rule.builder = some (buildAxis kind))
    (hkind : kind = .axis ∨ kind = .axisQuery ∨ kind = .ssiQuery)
    (htrim : trimEnd fields.text.toList = fields.text.toList)
    (hfit : FirstFit fields.text.toList rules rule parts)
    (hread : rule.read fields parts = .ok item) :
    ∃ written, IsRewriting rules fields item written := by
  have hparts := hfit.parts?_eq
  simp only [hpattern] at hparts
  rcases LinePattern.parts?_setting hparts with ⟨name, after, axis, rest, hname, haxis, htail⟩
  rcases splitNames?_eq_some hname with ⟨letters, _, hsplit⟩
  rcases Tail.parts?_assigned htail with ⟨value, rfl, rfl⟩
  have hline := (splitName?_eq_some hsplit).1
  cases after with
  | nil => cases haxis
  | cons letter behind =>
      simp only [splitAxis?] at haxis
      split at haxis
      · cases haxis
        rw [read_of_buildAxis hbuilder rfl] at hread
        cases hread
        refine ⟨_, isRewriting_trimStart htrim hfit (fun _ => read_of_buildAxis hbuilder rfl) ?_⟩
        have hcommand : kind letter ≠ .command := by
          rcases hkind with rfl | rfl | rfl <;> simp
        rw [LineFields.parameter_of_value hcommand rfl, hline]
        rcases hkind with rfl | rfl | rfl <;>
          simp [Parameter.toText, Parameter.writeCommand, Parameter.mnemonic, String.append_assoc,
            ← String.append_singleton]
      · cases haxis

end Settings
end MotionController
