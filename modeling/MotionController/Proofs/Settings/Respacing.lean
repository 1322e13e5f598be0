import MotionController.Proofs.Settings.Rewriting

/-!
# Lines with other blanks or another index

A value behind blanks is written behind one blank, and an index in decimal. Both are read back: the
name in front of them is enough to keep every other rule away.
-/

namespace MotionController
namespace Settings

open Text

variable {line rest value digits : List Char} {fields : LineFields} {parts : LineParts}
  {rules : List Rule} {rule : Rule} {item : Item} {kind : ParameterKind} {n : String}

/-! ## Names and digits -/

theorem length_of_mem_names (h : n ∈ ["SB", "CB", "AQ"]) : n.toList.length = 2 := by
  have hall : ∀ n ∈ ["SB", "CB", "AQ"], n.toList.length = 2 := by decide
  exact hall n h

theorem solid_of_mem_names (h : n ∈ ["SB", "CB", "AQ"]) : solid n.toList = n.toList := by
  have hall : ∀ n ∈ ["SB", "CB", "AQ"], solid n.toList = n.toList := by decide
  exact hall n h

theorem trimStart_name_append (h : n ∈ ["SB", "CB", "AQ"]) (rest : List Char) :
    trimStart (n.toList ++ rest) = n.toList ++ rest := by
  simp only [List.mem_cons, List.not_mem_nil, or_false] at h
  rcases h with rfl | rfl | rfl <;> exact trimStart_cons_of_not_blank (by decide)

theorem newline_not_mem_name {after : List Char} (hline : trimStart line = n.toList ++ after)
    (h : '\n' ∉ line) : '\n' ∉ n.toList := by
  intro hmem
  have hstart : '\n' ∈ trimStart line := by simp [hline, hmem]
  exact h ((List.dropWhile_sublist isBlank).subset hstart)

theorem solid_zeros_append {zeros : List Char} (hzeros : ∀ c ∈ zeros, c = '0')
    (h : Numeric.IsDigits digits) : solid (zeros ++ digits) = zeros ++ digits := by
  apply solid_of_isDigits
  intro c hc
  rcases List.mem_append.1 hc with hc | hc
  · simp only [hzeros c hc]
    decide
  · exact h.isDigit c hc

theorem newline_not_mem_digits (h : Numeric.IsDigits digits) : '\n' ∉ digits := by
  intro hmem
  exact absurd (h.isDigit '\n' hmem) (by decide)

theorem trimEnd_of_isDigits (h : Numeric.IsDigits digits) : trimEnd digits = digits := by
  refine trimEnd_eq_self_iff.2 fun c hc => ?_
  exact isBlank_of_isDigit (h.isDigit c (List.mem_of_getLast? hc))

/-- The first digit of a number may stand behind a name. -/
theorem exists_digit_cons (h : Numeric.IsDigits digits) :
    ∃ c rest, digits = c :: rest ∧ c.isDigit = true ∧ c.isUpper = false ∧ c ≠ '=' := by
  cases digits with
  | nil => exact absurd rfl h.ne_nil
  | cons c rest =>
      have hc := h.isDigit c List.mem_cons_self
      have hrange := Numeric.toNat_of_isDigit hc
      refine ⟨c, rest, rfl, hc, ?_, ?_⟩
      · apply decide_eq_false
        rintro ⟨hcapital, _⟩
        have hlow : 65 ≤ c.toNat := UInt32.le_iff_toNat_le.1 hcapital
        omega
      · rintro rfl
        exact absurd hc (by decide)

/-! ## Values behind blanks -/

theorem exists_rewriting_spaced {names : List String} {tail : Tail}
    (hyields : rules.Pairwise fun earlier later => earlier.pattern.yieldsTo later.pattern = true)
    (hpattern : rule.pattern = .setting (names.map named) false tail)
    (hbuilder : rule.builder = some (buildKind kind))
    (hlength : ∀ n ∈ names, n.toList.length = 2) (htail : tail.IsSpaced)
    (hkind : writesSpaced kind = true) (htrim : trimEnd fields.text.toList = fields.text.toList)
    (hfit : FirstFit fields.text.toList rules rule parts)
    (hread : rule.read fields parts = .ok item) :
    ∃ written, IsRewriting rules fields item written := by
  have hverbatim : tail.isVerbatim = false := by
    rcases htail with rfl | rfl <;> rfl
  rcases hfit.rewritten hyields hpattern hlength hverbatim with
    ⟨n, hn, after, hline, hparts, hagain⟩
  rcases Tail.parts?_respaced htail hparts with ⟨blank, rest, rfl, hblank, rfl, hnewline, hfound⟩
  have hfitAgain := hagain ' ' (trimStart rest) _ (by decide) (by decide) hfound
  simp only [read_of_buildKind hbuilder] at hread
  cases hread
  -- A line that ends in its name and blanks would have been trimmed to the name.
  have hbehind : trimEnd (blank :: rest) = blank :: rest := by
    apply trimEnd_of_append (a := n.toList)
    simp only [← hline]
    exact trimEnd_trimStart htrim
  have hvalue : trimStart rest ≠ [] := by
    intro hnil
    have hall : AllBlank (blank :: rest) := by
      intro c hc
      rcases List.mem_cons.1 hc with rfl | hc
      · exact hblank
      · exact trimStart_eq_nil_iff.1 hnil c hc
    simp only [trimEnd_eq_nil_iff.2 hall] at hbehind
    cases hbehind
  have hend : trimEnd (trimStart rest) = trimStart rest :=
    trimEnd_trimStart (trimEnd_of_append (a := [blank]) hbehind)
  have hspace : isBlank ' ' = true := by decide
  refine ⟨n.toList ++ ' ' :: trimStart rest, ?_⟩
  constructor
  case text =>
    rw [LineFields.parameter_of_value (by rintro rfl; cases hkind) rfl]
    simp [Item.toText, toText_of_writesSpaced hkind, String.append_assoc]
  case trimmed => exact trimEnd_append_cons_of_ne_nil hvalue hend
  case reread => exact reread_of_firstFit hfitAgain (read_of_buildKind hbuilder)
  case newline =>
    intro hnot
    have hname := newline_not_mem_name hline hnot
    simp [hname, hnewline]
  case same =>
    apply SameSetting.verbatim
    simp only [← solid_trimStart fields.text.toList, hline]
    simp [solid_append, solid_cons_of_blank hspace, solid_cons_of_blank hblank, solid_trimStart]

/-! ## Indices -/

/-- The command of an output bit with its index in decimal is read by the rule of output bits. -/
theorem firstFit_outputBit
    (hyields : rules.Pairwise fun earlier later => earlier.pattern.yieldsTo later.pattern = true)
    (hpattern : rule.pattern = .setting (["CB", "SB"].map named) false .index)
    (hmem : rule ∈ rules) (hn : n ∈ ["CB", "SB"]) (index : Nat) :
    FirstFit (n.toList ++ Numeric.decimal index) rules rule
      { name := n, index := some (String.ofList (Numeric.decimal index)) } := by
  have hnames : ∀ n ∈ ["CB", "SB"], n ∈ ["SB", "CB", "AQ"] := by decide
  have hdecimal := Numeric.isDigits_decimal index
  have hfound := Tail.parts?_plain_index { name := n } hdecimal
  rcases exists_digit_cons hdecimal with ⟨c, rest, hcons, _, hupper, hequals⟩
  have htrim := trimStart_name_append (hnames n hn) (c :: rest)
  rw [hcons] at hfound ⊢
  exact .renamed hyields hpattern (fun n hn => length_of_mem_names (hnames n hn)) rfl hmem hn htrim
    hupper hequals hfound

theorem exists_rewriting_outputBit
    (hyields : rules.Pairwise fun earlier later => earlier.pattern.yieldsTo later.pattern = true)
    (hpattern : rule.pattern = .setting (["CB", "SB"].map named) false .index)
    (hbuilder : rule.builder = some (buildIndex .outputBit))
    (hfit : FirstFit fields.text.toList rules rule parts)
    (hread : rule.read fields parts = .ok item) :
    ∃ written, IsRewriting rules fields item written := by
  have hnames : ∀ n ∈ ["CB", "SB"], n ∈ ["SB", "CB", "AQ"] := by decide
  have hlength : ∀ n ∈ ["CB", "SB"], n.toList.length = 2 :=
    fun n hn => length_of_mem_names (hnames n hn)
  rcases hfit.rewritten hyields hpattern hlength rfl with ⟨n, hn, after, hline, hparts, _⟩
  rcases Tail.parts?_index hparts with ⟨hplus, rfl⟩
  rcases requireIndex_of_read hbuilder hread with ⟨index, hindex⟩
  rcases LineFields.requireIndex_eq_ok hplus rfl hindex with ⟨zeros, hzeros, hdigits, hlt⟩
  have hdecimal := Numeric.isDigits_decimal index
  simp only [read_of_buildIndex hbuilder hindex] at hread
  cases hread
  refine ⟨n.toList ++ Numeric.decimal index, ?_⟩
  constructor
  case text =>
    rw [LineFields.parameter_of_none rfl]
    simp [Item.toText, toText_outputBit hn, Parameter.numeral]
  case trimmed => exact trimEnd_append_of_ne_nil hdecimal.ne_nil (trimEnd_of_isDigits hdecimal)
  case reread =>
    apply reread_of_firstFit (firstFit_outputBit hyields hpattern hfit.mem hn index)
    exact read_of_buildIndex hbuilder (LineFields.requireIndex_decimal hlt rfl)
  case newline =>
    intro hnot
    have hname := newline_not_mem_name hline hnot
    simp [hname, newline_not_mem_digits hdecimal]
  case same =>
    have hname := solid_of_mem_names (hnames n hn)
    have hsolid := solid_zeros_append hzeros hdecimal
    rcases exists_digit_cons hdecimal with ⟨c, rest, hcons, hc, _, _⟩
    -- The zeros that the decimal index lacks are all that the lines differ in.
    refine SameSetting.index n zeros c rest (hnames n hn) hzeros hc ?_ ?_
    · calc
        solid fields.text.toList = solid n.toList ++ solid (trimStart after) := by
          simp only [← solid_trimStart fields.text.toList, hline, solid_append, solid_trimStart]
        _ = n.toList ++ (zeros ++ Numeric.decimal index) := by
          simp only [hname, hdigits, hsolid]
        _ = n.toList ++ zeros ++ c :: rest := by simp [hcons]
    · rw [solid_append, hname, solid_of_isDigits hdecimal.isDigit, hcons]

theorem exists_rewriting_indexed
    (hyields : rules.Pairwise fun earlier later => earlier.pattern.yieldsTo later.pattern = true)
    (hpattern : rule.pattern = .setting (["AQ"].map named) false .indexed)
    (hbuilder : rule.builder = some (buildIndex .indexed))
    (htrim : trimEnd fields.text.toList = fields.text.toList)
    (hfit : FirstFit fields.text.toList rules rule parts)
    (hread : rule.read fields parts = .ok item) :
    ∃ written, IsRewriting rules fields item written := by
  have hnames : ∀ n ∈ ["AQ"], n ∈ ["SB", "CB", "AQ"] := by decide
  have hlength : ∀ n ∈ ["AQ"], n.toList.length = 2 :=
    fun n hn => length_of_mem_names (hnames n hn)
  rcases hfit.rewritten hyields hpattern hlength rfl with ⟨n, hn, after, hline, hparts, hagain⟩
  rcases Tail.parts?_indexed hparts with ⟨digits, value, hafter, hplus, hnewline, rfl⟩
  rcases requireIndex_of_read hbuilder hread with ⟨index, hindex⟩
  rcases LineFields.requireIndex_eq_ok hplus rfl hindex with ⟨zeros, hzeros, rfl, hlt⟩
  have hdecimal := Numeric.isDigits_decimal index
  have hfound := Tail.parts?_plain_indexed { name := n } hdecimal hnewline
  have hfitAgain := hagain ' ' _ _ (by decide) (by decide) hfound
  simp only [read_of_buildIndex hbuilder hindex] at hread
  cases hread
  -- The value ends where the line ends, so it was trimmed with it.
  have hend : trimEnd (',' :: value) = ',' :: value := by
    have hstart := trimEnd_trimStart htrim
    rcases exists_allBlank_append_trimStart after with ⟨w, _, hw⟩
    have hsplit : trimStart fields.text.toList =
        (n.toList ++ w ++ (zeros ++ Numeric.decimal index)) ++ ',' :: value := by
      rw [hline, hw, hafter]
      simp
    simp only [hsplit] at hstart
    exact trimEnd_of_append hstart
  refine ⟨n.toList ++ ' ' :: (Numeric.decimal index ++ ',' :: value), ?_⟩
  constructor
  case text =>
    rw [LineFields.parameter_of_value (by simp) rfl]
    simp [Item.toText, Parameter.toText, Parameter.writeCommand, Parameter.numeral,
      String.append_assoc]
  case trimmed =>
    have hassoc : n.toList ++ ' ' :: (Numeric.decimal index ++ ',' :: value) =
        (n.toList ++ ' ' :: Numeric.decimal index) ++ ',' :: value := by simp
    simp only [hassoc]
    exact trimEnd_append_of_ne_nil (by simp) hend
  case reread =>
    apply reread_of_firstFit hfitAgain
    apply read_of_buildIndex hbuilder
    exact LineFields.requireIndex_decimal hlt rfl
  case newline =>
    intro hnot
    have hname := newline_not_mem_name hline hnot
    simp [hname, newline_not_mem_digits hdecimal, hnewline]
  case same =>
    have hname := solid_of_mem_names (hnames n hn)
    have hsolid := solid_zeros_append hzeros hdecimal
    have hspace : isBlank ' ' = true := by decide
    rcases exists_digit_cons hdecimal with ⟨c, rest, hcons, hc, _, _⟩
    refine SameSetting.index n zeros c (rest ++ solid (',' :: value)) (hnames n hn) hzeros hc ?_ ?_
    · calc
        solid fields.text.toList = solid n.toList ++ solid (trimStart after) := by
          simp only [← solid_trimStart fields.text.toList, hline, solid_append, solid_trimStart]
        _ = n.toList ++ ((zeros ++ Numeric.decimal index) ++ solid (',' :: value)) := by
          simp only [hname, hafter, solid_append, hsolid]
        _ = n.toList ++ zeros ++ c :: (rest ++ solid (',' :: value)) := by simp [hcons]
    · rw [solid_append, hname, solid_cons_of_blank hspace, solid_append,
        solid_of_isDigits hdecimal.isDigit, hcons, List.cons_append]

end Settings
end MotionController
