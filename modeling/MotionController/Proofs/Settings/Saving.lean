import MotionController.Proofs.Settings.Revaluing

/-!
# Settings saved with new values

What is written for a setting whose value was replaced is read as the same setting, with the new
value (`IsSaved`). There is one lemma for each form of setting (`exists_saved_command` and so on). A
new value has to be one that the controller can give (`IsGivable`): in particular the rule for `CW`
takes no number with a sign.
-/

namespace MotionController
namespace Settings

open Text

variable {tail : Tail} {parts found : LineParts} {written digits : List Char} {c : Char}
  {rules : List Rule} {rule : Rule} {fields : LineFields} {kind : ParameterKind} {p : Parameter}
  {n value : String}

/-! ## Parameters read again -/

/-- The state of an output bit that its value stands for. -/
def outputState? (value : Option String) : Option Bool :=
  value.bind fun text => (Numeric.read? (trim text.toList)).map fun level => level.hasWholePart

/-- What the value of a parameter of a kind is read as again: a command's is always one, an output
bit's stands for the same state, and every other is the same. -/
def ReloadsValue (kind : ParameterKind) (saved loaded : Option String) : Prop :=
  match kind with
  | .command => loaded = some "1"
  | .outputBit _ =>
      ∃ state, outputState? saved = some state ∧ outputState? loaded = some state
  | _ => loaded = saved

/-- The parameter `loaded` is what `saved` is read as again. An output bit is named by its state. -/
structure ReloadsParameter (saved loaded : Parameter) : Prop where
  kind : loaded.kind = saved.kind
  name : (∀ index, saved.kind ≠ .outputBit index) → loaded.name = saved.name
  value : ReloadsValue saved.kind saved.value loaded.value

/-- The item on the right is what the one on the left is read as again. -/
inductive Reloads : Item → Item → Prop where
  | literal (text : String) : Reloads (.literal text) (.literal text)
  | parameter {saved loaded : Parameter} (h : ReloadsParameter saved loaded) :
      Reloads (.parameter saved) (.parameter loaded)

/-- The line `written` for an item is read as the item again, wherever it stands. -/
structure IsSaved (rules : List Rule) (item : Item) (written : List Char) : Prop where
  text : item.toText = .ok (String.ofList written)
  trimmed : trimEnd written = written
  newline : '\n' ∉ written
  reread : ∀ fields : LineFields, ∃ loaded,
    Parser.applyRules { fields with text := String.ofList written } rules = .ok loaded ∧
      Reloads item loaded

/-- The controller can give this value of the parameter. The value of `CW` has no sign. -/
structure IsGivable (p : Parameter) (value : String) : Prop where
  token : IsToken value.toList
  state : ∀ index, p.kind = .outputBit index → ∃ state, outputState? (some value) = some state
  unsigned : p.kind = .basic → p.name = "CW" → ∀ c ∈ value.toList, c.isDigit = true ∨ c = '.'

/-! ## Parameters of a line -/

@[simp] theorem LineFields.kind_parameter (fields : LineFields) (kind : ParameterKind) :
    (fields.parameter kind).kind = kind := by
  unfold parameter
  dsimp only
  split
  · unfold Parameter.withValue
    split <;> rfl
  · rfl

@[simp] theorem LineFields.name_parameter (fields : LineFields) (kind : ParameterKind) :
    (fields.parameter kind).name = fields.parts.name := by
  unfold parameter
  dsimp only
  split
  · unfold Parameter.withValue
    split <;> rfl
  · rfl

@[simp] theorem LineFields.axes_parameter (fields : LineFields) (kind : ParameterKind) :
    (fields.parameter kind).axes = some fields.axes := by
  unfold parameter
  dsimp only
  split
  · unfold Parameter.withValue
    split <;> rfl
  · rfl

@[simp] theorem kind_cached (p : Parameter) (value : String) : (p.cached value).kind = p.kind :=
  rfl

@[simp] theorem name_cached (p : Parameter) (value : String) : (p.cached value).name = p.name :=
  rfl

/-- A line that the rule of a setting reads with another value gives the setting that value. -/
theorem reloadsParameter_of_value {other : LineFields} (hkind : kind ≠ .command)
    (hbit : ∀ index, kind ≠ .outputBit index) (hname : other.parts.name = fields.parts.name)
    (hvalue : other.parts.value = some value) :
    ReloadsParameter ((fields.parameter kind).cached value) (other.parameter kind) where
  kind := by simp
  name := by simp [hname]
  value := by
    rw [LineFields.parameter_of_value hkind hvalue, kind_cached, LineFields.kind_parameter]
    cases kind with
    | command => exact absurd rfl hkind
    | outputBit index => exact absurd rfl (hbit index)
    | _ => rfl

theorem isSaved_of_firstFit {item : Item} (hfit : FirstFit written rules rule found)
    (htext : item.toText = .ok (String.ofList written)) (htrim : trimEnd written = written)
    (hnewline : '\n' ∉ written)
    (hread : ∀ fields : LineFields, ∃ loaded,
      rule.read fields found = .ok loaded ∧ Reloads item loaded) :
    IsSaved rules item written where
  text := htext
  trimmed := htrim
  newline := hnewline
  reread := by
    intro fields
    obtain ⟨loaded, hloaded, hreloads⟩ := hread { fields with text := String.ofList written }
    exact ⟨loaded, reread_of_firstFit hfit hloaded, hreloads⟩

theorem isSaved_literal (htrim : trimEnd fields.text.toList = fields.text.toList)
    (hnewline : '\n' ∉ fields.text.toList) (hfit : FirstFit fields.text.toList rules rule parts)
    (hbuilder : rule.builder = none) :
    IsSaved rules (.literal fields.text) fields.text.toList where
  text := by simp [Item.toText]
  trimmed := htrim
  newline := hnewline
  reread := by
    intro other
    refine ⟨.literal fields.text, ?_, .literal _⟩
    apply reread_of_firstFit hfit
    simp [Rule.read, hbuilder]

/-! ## Forms of settings -/

theorem exists_saved_command {names : List (List NameLetter)}
    (hpattern : rule.pattern = .setting names false .nothing)
    (hbuilder : rule.builder = some (buildKind .command))
    (htrim : trimEnd fields.text.toList = fields.text.toList)
    (hnewline : '\n' ∉ fields.text.toList) (hfit : FirstFit fields.text.toList rules rule parts)
    (hread : rule.read fields parts = .ok (.parameter p)) :
    ∃ written, IsSaved rules (.parameter (p.cached value)) written := by
  have hparts := hfit.parts?_eq
  rw [hpattern] at hparts
  obtain ⟨name, after, hname, htail⟩ := LinePattern.parts?_withoutAxis hparts
  -- The line is its name and nothing else.
  obtain ⟨letters, _, hsplit⟩ := splitNames?_eq_some hname
  obtain ⟨rfl, rfl⟩ := Tail.parts?_nothing htail
  have hline := (splitName?_eq_some hsplit).1
  rw [read_of_buildKind hbuilder] at hread
  cases hread
  refine ⟨trimStart fields.text.toList, isSaved_of_firstFit hfit.trimStart ?_
    (trimEnd_trimStart htrim) (fun hmem => hnewline ((List.dropWhile_sublist isBlank).subset hmem))
    ?_⟩
  · simp [Item.toText, Parameter.toText, Parameter.cached, Parameter.writeCommand,
      Parameter.mnemonic, hline]
  · intro other
    exact ⟨_, read_of_buildKind hbuilder, .parameter ⟨by simp, by simp, rfl⟩⟩

/-- A value behind an equals sign. -/
theorem exists_saved_assigned {names : List (List NameLetter)} {hasAxis : Bool}
    (hignores : ∀ rule ∈ rules,
      rule.pattern.endsIn .assigned = true → rule.pattern.ignoresValue = true)
    (hbefore : rules.Pairwise fun earlier later =>
      later.pattern.endsIn .assigned = true → earlier.pattern.ignoresValue = true)
    (hpattern : rule.pattern = .setting names hasAxis .assigned)
    (hnewline : '\n' ∉ fields.text.toList) (hfit : FirstFit fields.text.toList rules rule parts)
    (hvalue : IsToken value.toList)
    (htext : (p.cached value).toText = .ok (String.ofList parts.head ++ "=" ++ value))
    (hread : ∀ fields : LineFields, ∃ loaded,
      rule.read fields { parts with value := some value } = .ok (.parameter loaded) ∧
        ReloadsParameter (p.cached value) loaded) :
    ∃ written, IsSaved rules (.parameter (p.cached value)) written := by
  obtain ⟨hhead, hagain⟩ :=
    hfit.revalued hignores hbefore hpattern hnewline hvalue.newline_not_mem
  rw [String.ofList_toList] at hagain
  refine ⟨parts.head ++ '=' :: value.toList, isSaved_of_firstFit hagain ?_ ?_ ?_ ?_⟩
  · simp [Item.toText, htext, String.append_assoc]
  · exact trimEnd_append_cons_of_ne_nil hvalue.ne_nil hvalue.trimEnd_eq
  · simp [hhead, hvalue.newline_not_mem]
  · intro fields
    obtain ⟨loaded, hloaded, hreloads⟩ := hread fields
    exact ⟨.parameter loaded, hloaded, .parameter hreloads⟩

theorem toText_cached_of_writesSpaced (h : writesSpaced p.kind = true) :
    (p.cached value).toText = .ok (p.name ++ " " ++ value) := by
  cases p
  exact toText_of_writesSpaced h

theorem Tail.parts?_token (htail : tail.IsSpaced) (hvalue : IsToken value.toList)
    (hnumeral : tail = .spacedNumeral → ∀ c ∈ value.toList, c.isDigit = true ∨ c = '.') :
    tail.parts? parts (' ' :: value.toList) = some { parts with value := some value } := by
  have hspace : isBlank ' ' = true := by decide
  rcases htail with rfl | rfl
  · simp [Tail.parts?, hspace, hvalue.trimStart_eq, value?, hvalue.newline_not_mem]
  · have hall : ∀ c ∈ value.toList, isDecimalDigit c = false → c = '.' := by
      intro c hc hother
      rcases hnumeral rfl c hc with hdigit | hpoint
      · simp [isDecimalDigit_of_isDigit hdigit] at hother
      · exact hpoint
    have hne : value ≠ "" := by
      simpa using hvalue.ne_nil
    simpa [Tail.parts?, hspace, hvalue.trimStart_eq] using ⟨hne, hall⟩

/-- A value behind blanks. -/
theorem exists_saved_spaced {names : List String}
    (hyields : rules.Pairwise fun earlier later => earlier.pattern.yieldsTo later.pattern = true)
    (hpattern : rule.pattern = .setting (names.map named) false tail)
    (hbuilder : rule.builder = some (buildKind kind))
    (hlength : ∀ n ∈ names, n.toList.length = 2) (htail : tail.IsSpaced)
    (hkind : writesSpaced kind = true)
    (hnumeral : tail = .spacedNumeral → names = ["CW"] ∧ kind = .basic)
    (hnewline : '\n' ∉ fields.text.toList) (hfit : FirstFit fields.text.toList rules rule parts)
    (hread : rule.read fields parts = .ok (.parameter p)) (hvalue : IsGivable p value) :
    ∃ written, IsSaved rules (.parameter (p.cached value)) written := by
  have hverbatim : tail.isVerbatim = false := by
    rcases htail with rfl | rfl <;> rfl
  obtain ⟨n, hn, after, hline, hparts, hagain⟩ :=
    hfit.rewritten hyields hpattern hlength hverbatim
  have hname : '\n' ∉ n.toList := newline_not_mem_name hline hnewline
  obtain ⟨hcommand, hbit⟩ : kind ≠ .command ∧ ∀ index, kind ≠ .outputBit index := by
    cases kind <;> simp_all [writesSpaced]
  obtain rfl : parts.name = n := by
    obtain ⟨_, _, _, _, rfl, _, _⟩ := Tail.parts?_respaced htail hparts
    rfl
  rw [read_of_buildKind hbuilder] at hread
  cases hread
  -- A tail that takes digits and points only belongs to `CW`, whose value has no sign.
  have hunsigned : tail = .spacedNumeral → ∀ c ∈ value.toList, c.isDigit = true ∨ c = '.' := by
    intro htail
    obtain ⟨rfl, rfl⟩ := hnumeral htail
    exact hvalue.unsigned (by simp) (by simpa using hn)
  have htoken := hvalue.token
  have hfitAgain := hagain ' ' value.toList _ (by decide) (by decide)
    (Tail.parts?_token htail htoken hunsigned)
  refine ⟨parts.name.toList ++ ' ' :: value.toList, isSaved_of_firstFit hfitAgain ?_ ?_ ?_ ?_⟩
  · rw [Item.toText, toText_cached_of_writesSpaced (by simpa using hkind)]
    simp [String.append_assoc]
  · exact trimEnd_append_cons_of_ne_nil htoken.ne_nil htoken.trimEnd_eq
  · simp [hname, htoken.newline_not_mem]
  · intro other
    refine ⟨_, read_of_buildKind hbuilder, .parameter ?_⟩
    exact reloadsParameter_of_value hcommand hbit rfl rfl

/-- A value behind an index. -/
theorem exists_saved_indexed
    (hyields : rules.Pairwise fun earlier later => earlier.pattern.yieldsTo later.pattern = true)
    (hpattern : rule.pattern = .setting (["AQ"].map named) false .indexed)
    (hbuilder : rule.builder = some (buildIndex .indexed))
    (hfit : FirstFit fields.text.toList rules rule parts)
    (hread : rule.read fields parts = .ok (.parameter p)) (hvalue : IsToken value.toList) :
    ∃ written, IsSaved rules (.parameter (p.cached value)) written := by
  obtain ⟨n, hn, after, hline, hparts, hagain⟩ :=
    hfit.rewritten hyields hpattern (by decide) rfl
  have hname : '\n' ∉ n.toList := by
    obtain rfl : n = "AQ" := by simpa using hn
    decide
  obtain ⟨digits, old, hafter, hplus, _, rfl⟩ := Tail.parts?_indexed hparts
  obtain ⟨index, hindex⟩ := requireIndex_of_read hbuilder hread
  obtain ⟨_, _, _, hlt⟩ := LineFields.requireIndex_eq_ok hplus rfl hindex
  have hdecimal := Numeric.isDigits_decimal index
  have hfitAgain := hagain ' ' _ _ (by decide) (by decide)
    (Tail.parts?_plain_indexed { name := n } hdecimal hvalue.newline_not_mem)
  rw [read_of_buildIndex hbuilder hindex] at hread
  cases hread
  refine ⟨n.toList ++ ' ' :: (Numeric.decimal index ++ ',' :: value.toList),
    isSaved_of_firstFit hfitAgain ?_ ?_ ?_ ?_⟩
  · simp [Item.toText, Parameter.toText, Parameter.cached, Parameter.writeCommand,
      Parameter.numeral, String.append_assoc]
  · apply trimEnd_append_cons_of_ne_nil (by simp)
    exact trimEnd_append_cons_of_ne_nil hvalue.ne_nil hvalue.trimEnd_eq
  · simp [hname, newline_not_mem_digits hdecimal, hvalue.newline_not_mem]
  · intro other
    refine ⟨_, read_of_buildIndex hbuilder (LineFields.requireIndex_decimal hlt rfl),
      .parameter ?_⟩
    exact reloadsParameter_of_value (by simp) (by simp) rfl (by simp)

/-- The command that brings an output bit into a state. -/
def outputName (state : Bool) : String :=
  if state then "SB" else "CB"

theorem outputName_mem (state : Bool) : outputName state ∈ ["CB", "SB"] := by
  cases state <;> decide

theorem newline_not_mem_outputName (state : Bool) : '\n' ∉ (outputName state).toList := by
  cases state <;> decide

/-- The state of an output bit is the one that its command names. -/
theorem outputState?_initialValue (state : Bool) (index : Nat) :
    outputState? (Parameter.initialValue (.outputBit index) (outputName state)) = some state := by
  have hset : outputState? (some "1") = some true := by decide +kernel
  have hclear : outputState? (some "0") = some false := by decide +kernel
  cases state with
  | false => simpa [Parameter.initialValue, outputName] using hclear
  | true => simpa [Parameter.initialValue, outputName] using hset

theorem toText_cached_outputBit {index : Nat} {state : Bool} (hkind : p.kind = .outputBit index)
    (hstate : outputState? (some value) = some state) :
    (p.cached value).toText = .ok (outputName state ++ Parameter.numeral index) := by
  obtain ⟨level, hlevel, hwhole⟩ : ∃ level,
      Numeric.read? (trim value.toList) = some level ∧ level.hasWholePart = state := by
    simpa [outputState?] using hstate
  simp [Parameter.toText, Parameter.cached, Parameter.writeCommand, hkind, hlevel, hwhole,
    outputName]

/-- An output bit is written by the command for the state that its value stands for. -/
theorem exists_saved_outputBit
    (hyields : rules.Pairwise fun earlier later => earlier.pattern.yieldsTo later.pattern = true)
    (hpattern : rule.pattern = .setting (["CB", "SB"].map named) false .index)
    (hbuilder : rule.builder = some (buildIndex .outputBit))
    (hfit : FirstFit fields.text.toList rules rule parts)
    (hread : rule.read fields parts = .ok (.parameter p)) (hvalue : IsGivable p value) :
    ∃ written, IsSaved rules (.parameter (p.cached value)) written := by
  have hlength : ∀ n ∈ ["CB", "SB"], n.toList.length = 2 := by decide
  obtain ⟨n, _, after, _, hparts, _⟩ := hfit.rewritten hyields hpattern hlength rfl
  obtain ⟨hplus, rfl⟩ := Tail.parts?_index hparts
  obtain ⟨index, hindex⟩ := requireIndex_of_read hbuilder hread
  obtain ⟨_, _, _, hlt⟩ := LineFields.requireIndex_eq_ok hplus rfl hindex
  rw [read_of_buildIndex hbuilder hindex] at hread
  cases hread
  obtain ⟨state, hstate⟩ := hvalue.state index (by simp)
  have hdecimal := Numeric.isDigits_decimal index
  -- The state may have changed, and with it the name: it is another one of the same rule.
  have hfitAgain := firstFit_outputBit hyields hpattern hfit.mem (outputName_mem state) index
  refine ⟨(outputName state).toList ++ Numeric.decimal index,
    isSaved_of_firstFit hfitAgain ?_ ?_ ?_ ?_⟩
  · rw [Item.toText, toText_cached_outputBit (LineFields.kind_parameter _ _) hstate]
    simp [Parameter.numeral]
  · exact trimEnd_append_of_ne_nil hdecimal.ne_nil (trimEnd_of_isDigits hdecimal)
  · simp [newline_not_mem_outputName, newline_not_mem_digits hdecimal]
  · intro other
    refine ⟨_, read_of_buildIndex hbuilder (LineFields.requireIndex_decimal hlt rfl),
      .parameter ⟨by simp, by simp, state, hstate, ?_⟩⟩
    simpa [LineFields.parameter_of_none] using outputState?_initialValue state index

end Settings
end MotionController
