import MotionController.Proofs.Settings.Respacing
import MotionController.Proofs.Text.Cutting
import MotionController.Settings.Document

/-!
# Settings are read back as they were written

Rendering a settings file that was read gives a text from which the same document is read, with one
line for each line of the file (`settings_read_back`).
-/

namespace MotionController
namespace Settings

open Text

variable {fields : LineFields} {rules : List Rule} {item : Item} {items : List Item}
  {line written : List Char} {pieces : List (List Char)} {parser : Parser} {file : String}
  {number : Nat} {axes : String}

/-! ## Faithful tables -/

/-- The builders suit their patterns, and no rule takes a line written for a later one. -/
structure IsFaithful (rules : List Rule) : Prop where
  suits : ∀ rule ∈ rules, Suits rule.pattern rule.builder
  yields : rules.Pairwise fun earlier later => earlier.pattern.yieldsTo later.pattern = true

theorem IsFaithful.exists_rewriting (h : IsFaithful rules)
    (htrim : trimEnd fields.text.toList = fields.text.toList)
    (hread : Parser.applyRules fields rules = .ok item) :
    ∃ written, IsRewriting rules fields item written := by
  rcases applyRules_eq_ok_iff.1 hread with ⟨rule, parts, hfit, hrule⟩
  have hsuits := h.suits rule hfit.mem
  -- One lemma for each form in which a builder writes its parameters.
  rcases rule with ⟨pattern, builder⟩
  cases hsuits with
  | literal pattern =>
      cases hrule
      exact ⟨_, isRewriting_literal htrim hread⟩
  | command names => exact exists_rewriting_command rfl rfl htrim hfit hrule
  | assigned names => exact exists_rewriting_assigned rfl rfl htrim hfit hrule
  | axis names kind hkind => exact exists_rewriting_axis rfl rfl hkind htrim hfit hrule
  | spaced names tail kind hlength htail hkind =>
      exact exists_rewriting_spaced h.yields rfl rfl hlength htail hkind htrim hfit hrule
  | outputBit => exact exists_rewriting_outputBit h.yields rfl rfl hfit hrule
  | indexed => exact exists_rewriting_indexed h.yields rfl rfl htrim hfit hrule

theorem isFaithful_standard : IsFaithful (Parser.standard.withAxes axes).rules where
  suits := by
    have hspaced : Tail.spaced.IsSpaced := .inl rfl
    intro rule hrule
    simp only [Parser.withAxes, Parser.standard, standardRules, List.map_cons, List.map_nil,
      List.mem_cons, List.not_mem_nil, or_false] at hrule
    -- The sixteen rows, in order.
    rcases hrule with rfl | rfl | rfl | rfl | rfl | rfl | rfl | rfl | rfl | rfl | rfl | rfl | rfl |
      rfl | rfl | rfl
    · exact .literal _
    · exact .literal _
    · exact .literal _
    · exact .axis _ .ssiQuery (by simp)
    · exact .axis _ .axisQuery (by simp)
    · exact .assigned _
    · exact .command _
    · exact .command _
    · exact .spaced ["LZ", "CO", "LB", "LU"] _ .basic (by decide) hspaced rfl
    · exact .spaced ["RC", "DH", "VF", "PF", "IK", "TM", "MW", "EI"] _ .basicQuery (by decide)
        hspaced rfl
    · exact .outputBit
    · exact .spaced ["CW"] _ .basic (by decide) (.inr rfl) rfl
    · exact .indexed
    · exact .spaced ["BA"] _ .axisMask (by decide) hspaced rfl
    · exact .spaced ["SM", "IA"] _ .network (by decide) hspaced rfl
    · exact .spaced ["CN"] _ (.vector 5) (by decide) hspaced rfl
  yields := by
    have htable : standardRules.Pairwise fun earlier later =>
        earlier.1.yieldsTo later.1 = true := by decide
    exact List.pairwise_map.2 htable

/-! ## Lines -/

theorem SameSetting.of_solid_eq {other : List Char} (hsolid : solid line = solid other)
    (h : SameSetting line written) : SameSetting other written := by
  cases h with
  | verbatim h => exact .verbatim (h.trans hsolid)
  | index name zeros digit rest hname hzeros hdigit hline hwritten =>
      exact .index name zeros digit rest hname hzeros hdigit (hsolid.symm.trans hline) hwritten

theorem IsFaithful.parseLine_written (h : IsFaithful parser.rules) (hnewline : '\n' ∉ line)
    (hread : parser.parseLine (String.ofList line) file number = .ok item) :
    ∃ written, item.toText = .ok (String.ofList written) ∧
      parser.parseLine (String.ofList written) file number = .ok item ∧ '\n' ∉ written ∧
        SameSetting line written := by
  simp only [Parser.parseLine, String.toList_ofList] at hread ⊢
  rcases h.exists_rewriting (by simp) hread with ⟨written, hwritten⟩
  have hsame := hwritten.same
  have hbreak := hwritten.newline
  have hagain := hwritten.reread
  simp only [String.toList_ofList] at hsame hbreak
  refine ⟨written, hwritten.text, ?_, hbreak ?_, hsame.of_solid_eq (solid_trimEnd line)⟩
  · simp only [hwritten.trimmed]
    exact hagain
  · intro hmem
    rcases exists_trimEnd_append_allBlank line with ⟨w, _, hline⟩
    rw [hline] at hnewline
    exact hnewline (List.mem_append_left _ hmem)

/-! ## Documents -/

theorem renderItems_cons (hitem : item.toText = .ok (String.ofList written))
    (hitems : Document.renderItems items =
      .ok (String.ofList (pieces.flatMap fun line => line ++ ['\n']))) :
    Document.renderItems (item :: items) =
      .ok (String.ofList ((written :: pieces).flatMap fun line => line ++ ['\n'])) := by
  have hjoin : String.ofList written ++ "\n" ++
      String.ofList (pieces.flatMap fun line => line ++ ['\n']) =
        String.ofList ((written :: pieces).flatMap fun line => line ++ ['\n']) := by
    simp [String.append_assoc]
  simp only [Document.renderItems, hitem, hitems]
  exact congrArg Except.ok hjoin

theorem parseLines_cons {lines : List (List Char)}
    (h : parser.parseLine (String.ofList line) file number = .ok item)
    (hlines : Document.parseLines parser file (number + 1) lines = .ok items) :
    Document.parseLines parser file number (line :: lines) = .ok (item :: items) := by
  simp only [Document.parseLines, h, hlines]
  rfl

theorem parseLines_cons_eq_ok {lines : List (List Char)}
    (h : Document.parseLines parser file number (line :: lines) = .ok items) :
    ∃ item rest, items = item :: rest ∧
      parser.parseLine (String.ofList line) file number = .ok item ∧
        Document.parseLines parser file (number + 1) lines = .ok rest := by
  simp only [Document.parseLines] at h
  cases hline : parser.parseLine (String.ofList line) file number with
  | error error =>
      simp only [hline] at h
      cases h
  | ok item =>
      cases hlines : Document.parseLines parser file (number + 1) lines with
      | error error =>
          simp only [hline, hlines] at h
          cases h
      | ok rest =>
          simp only [hline, hlines] at h
          cases h
          exact ⟨item, rest, rfl, rfl, rfl⟩

theorem IsFaithful.parseLines_written (h : IsFaithful parser.rules) {lines : List (List Char)}
    (hnewline : ∀ line ∈ lines, '\n' ∉ line)
    (hread : Document.parseLines parser file number lines = .ok items) :
    ∃ pieces,
      Document.renderItems items =
          .ok (String.ofList (pieces.flatMap fun line => line ++ ['\n'])) ∧
        Document.parseLines parser file number pieces = .ok items ∧
          (∀ line ∈ pieces, '\n' ∉ line) ∧ List.Forall₂ SameSetting lines pieces := by
  induction lines generalizing number items with
  | nil =>
      cases hread
      exact ⟨[], rfl, rfl, by simp, .nil⟩
  | cons line lines ih =>
      rcases parseLines_cons_eq_ok hread with ⟨item, rest, rfl, hline, hlines⟩
      have hhead := hnewline line List.mem_cons_self
      have htail : ∀ other ∈ lines, '\n' ∉ other :=
        fun other hother => hnewline other (List.mem_cons_of_mem line hother)
      rcases h.parseLine_written hhead hline with ⟨written, htext, hagain, hbreak, hsame⟩
      rcases ih htail hlines with ⟨pieces, hrender, hreread, hbreaks, hall⟩
      refine ⟨written :: pieces, renderItems_cons htext hrender, parseLines_cons hagain hreread, ?_,
        .cons hsame hall⟩
      intro other hother
      rcases List.mem_cons.1 hother with rfl | hother
      · exact hbreak
      · exact hbreaks other hother

/-- A settings file that was read is rendered, line for line, as a text from which the same document
is read. -/
theorem settings_read_back (axes content file : String) (document : Document)
    (h : Document.parse (Parser.standard.withAxes axes) content file = .ok document) :
    ∃ text, document.toText = .ok text ∧
      Document.parse (Parser.standard.withAxes axes) text file = .ok document ∧
        List.Forall₂ SameSetting (lines content.toList) (lines text.toList) := by
  have hnewline : ∀ line ∈ lines content.toList, '\n' ∉ line :=
    fun _ => newline_not_mem_of_mem_lines
  unfold Document.parse at h
  cases hread :
      Document.parseLines (Parser.standard.withAxes axes) file 1 (lines content.toList) with
  | error error =>
      simp only [hread] at h
      cases h
  | ok items =>
      simp only [hread] at h
      cases h
      rcases isFaithful_standard.parseLines_written hnewline hread with
        ⟨pieces, hrender, hreread, hbreaks, hsame⟩
      have hlines := lines_flatMap_newline hbreaks
      refine ⟨_, hrender, ?_, ?_⟩
      · simp only [Document.parse, String.toList_ofList, hlines, hreread]
        rfl
      · simpa only [String.toList_ofList, hlines] using hsame

theorem settings_read_back_outputs :
    ∃ document,
      Document.parse (Parser.standard.withAxes "AB") " SB 007\r\n# on\nAQ03,4 5 \nKPA= 6" "io" =
          .ok document ∧
        ∃ text, document.toText = .ok text ∧
          Document.parse (Parser.standard.withAxes "AB") text "io" = .ok document ∧
            List.Forall₂ SameSetting (lines " SB 007\r\n# on\nAQ03,4 5 \nKPA= 6".toList)
              (lines text.toList) := by
  have hread : Document.parse (Parser.standard.withAxes "AB")
      " SB 007\r\n# on\nAQ03,4 5 \nKPA= 6" "io" =
        .ok
          ⟨[.parameter
              { kind := .outputBit 7, name := "SB", value := some "1", axes := some "AB",
                source := some ⟨"io", 1⟩ },
            .literal "# on",
            .parameter
              { kind := .indexed 3, name := "AQ", value := some "4 5", axes := some "AB",
                source := some ⟨"io", 3⟩ },
            .parameter
              { kind := .axisQuery 'A', name := "KP", value := some " 6", axes := some "AB",
                source := some ⟨"io", 4⟩ }]⟩ := by
    decide +kernel
  exact ⟨_, hread, settings_read_back "AB" _ "io" _ hread⟩

end Settings
end MotionController
