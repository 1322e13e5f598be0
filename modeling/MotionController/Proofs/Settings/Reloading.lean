import MotionController.Proofs.Settings.Refreshing
import MotionController.Proofs.Settings.Saving

/-!
# Refreshed settings files are loaded again

When the controller replies with plain decimal numbers, a settings file that was read and refreshed
is written as a text from which the same settings are read, with the values of the controller
(`refreshed_settings_reload`). There is one exception: the rule for `CW` takes no number with a sign
(`signed_reply_not_reloaded`).
-/

namespace MotionController
namespace Settings

open Text

variable {rules : List Rule} {rule : Rule} {fields : LineFields} {parts : LineParts}
  {item : Item} {p : Parameter} {kind : ParameterKind} {value : String}

/-! ## What builders make -/

theorem eq_of_buildKind (h : buildKind kind fields = .ok p) : p = fields.parameter kind := by
  cases h
  rfl

theorem eq_of_buildAxis {kind : Char → ParameterKind} (h : buildAxis kind fields = .ok p) :
    ∃ axis, p = fields.parameter (kind axis) := by
  unfold buildAxis at h
  cases haxis : fields.requireAxis with
  | error error =>
      rw [haxis] at h
      cases h
  | ok axis =>
      rw [haxis] at h
      cases h
      exact ⟨axis, rfl⟩

theorem eq_of_buildIndex {kind : Nat → ParameterKind} (h : buildIndex kind fields = .ok p) :
    ∃ index, p = fields.parameter (kind index) := by
  unfold buildIndex at h
  cases hindex : fields.requireIndex with
  | error error =>
      rw [hindex] at h
      cases h
  | ok index =>
      rw [hindex] at h
      cases h
      exact ⟨index, rfl⟩

/-- The standard builders make the line's parameter of some kind, and no list of no numbers: that
would be written as a bare command. -/
theorem exists_kind_of_standard {entry : String × Builder}
    (hentry : entry ∈ Registry.standard.entries) (h : entry.2 fields = .ok p) :
    ∃ kind, kind ≠ .vector 0 ∧ p = fields.parameter kind := by
  simp only [Registry.standard, List.mem_cons, List.not_mem_nil, or_false] at hentry
  rcases hentry with rfl | rfl | rfl | rfl | rfl | rfl | rfl | rfl | rfl | rfl | rfl | rfl
  · exact ⟨_, by simp, eq_of_buildKind h⟩
  · exact ⟨_, by simp, eq_of_buildKind h⟩
  · exact ⟨_, by simp, eq_of_buildKind h⟩
  · exact ⟨_, by simp, eq_of_buildKind h⟩
  · obtain ⟨axis, rfl⟩ := eq_of_buildAxis h
    exact ⟨_, by simp, rfl⟩
  · obtain ⟨axis, rfl⟩ := eq_of_buildAxis h
    exact ⟨_, by simp, rfl⟩
  · obtain ⟨axis, rfl⟩ := eq_of_buildAxis h
    exact ⟨_, by simp, rfl⟩
  · exact ⟨_, by simp, eq_of_buildKind h⟩
  · exact ⟨_, by simp, eq_of_buildKind h⟩
  · exact ⟨_, by simp, eq_of_buildKind h⟩
  · obtain ⟨index, rfl⟩ := eq_of_buildIndex h
    exact ⟨_, by simp, rfl⟩
  · obtain ⟨index, rfl⟩ := eq_of_buildIndex h
    exact ⟨_, by simp, rfl⟩

/-! ## Tables whose settings can be saved with new values -/

/-- Values behind an equals sign are left to the rule that reads them, only the rule for `CW` is
particular about its value, and no list of numbers is empty. -/
structure IsRevaluable (rules : List Rule) : Prop extends IsFaithful rules where
  ignores : ∀ rule ∈ rules, rule.pattern.endsIn .assigned = true → rule.pattern.ignoresValue = true
  before : rules.Pairwise fun earlier later =>
    later.pattern.endsIn .assigned = true → earlier.pattern.ignoresValue = true
  numeral : ∀ rule ∈ rules, rule.pattern.endsIn .spacedNumeral = true →
    rule = ⟨.setting [named "CW"] false .spacedNumeral, some (buildKind .basic)⟩
  builds : ∀ rule ∈ rules, ∀ fields parts p, rule.read fields parts = .ok (.parameter p) →
    ∃ kind, kind ≠ .vector 0 ∧ p = LineFields.parameter { fields with parts } kind

theorem toText_cached_of_axis {kind : Char → ParameterKind} {axis : Char}
    (hkind : kind = .axis ∨ kind = .axisQuery ∨ kind = .ssiQuery) (hp : p.kind = kind axis) :
    (p.cached value).toText = .ok (p.name.push axis ++ "=" ++ value) := by
  rcases hkind with rfl | rfl | rfl <;>
    simp [Parameter.toText, Parameter.cached, Parameter.writeCommand, Parameter.mnemonic, hp]

theorem buildKind_injective {other : ParameterKind} (h : buildKind kind = buildKind other) :
    kind = other := by
  let fields : LineFields := ⟨{}, "", "", 0, ""⟩
  have hread : buildKind kind fields = buildKind other fields := congrFun h fields
  exact (by simpa using congrArg Parameter.kind (Except.ok.inj hread))

theorem named_injective {m n : String} (h : named m = named n) : m = n := by
  have hspelled := congrArg spelling h
  rw [spelling_named, spelling_named] at hspelled
  exact String.toList_inj.1 hspelled

/-- What is read off a line is saved with any value that the controller can give. -/
theorem IsRevaluable.exists_saved (h : IsRevaluable rules)
    (htrim : trimEnd fields.text.toList = fields.text.toList) (hnewline : '\n' ∉ fields.text.toList)
    (hread : Parser.applyRules fields rules = .ok (.parameter p)) (hvalue : IsGivable p value) :
    ∃ written, IsSaved rules (.parameter (p.cached value)) written := by
  obtain ⟨rule, parts, hfit, hrule⟩ := applyRules_eq_ok_iff.1 hread
  have hsuits := h.suits rule hfit.mem
  have hnumeral := h.numeral rule hfit.mem
  have hparts := hfit.parts?_eq
  obtain ⟨pattern, builder⟩ := rule
  cases hsuits with
  | literal pattern => cases hrule
  | command names => exact exists_saved_command rfl rfl htrim hnewline hfit hrule
  | assigned names =>
      -- What stands in front of the sign is the name alone, as it is written.
      have haxis := LinePattern.isSome_axis_of_parts? hparts
      rw [read_of_buildKind rfl] at hrule
      cases hrule
      refine exists_saved_assigned h.ignores h.before rfl hnewline hfit hvalue.token ?_ ?_
      · cases hnone : parts.axis with
        | some axis => simp [hnone] at haxis
        | none =>
            simp [LineParts.head, hnone, Parameter.toText, Parameter.cached,
              Parameter.writeCommand, Parameter.mnemonic]
      · intro other
        exact ⟨_, read_of_buildKind rfl, reloadsParameter_of_value (by simp) (by simp) rfl rfl⟩
  | axis names kind hkind =>
      obtain ⟨axis, haxis⟩ :=
        Option.isSome_iff_exists.1 (LinePattern.isSome_axis_of_parts? hparts)
      obtain ⟨hcommand, hbit⟩ : kind axis ≠ .command ∧ ∀ index, kind axis ≠ .outputBit index := by
        rcases hkind with rfl | rfl | rfl <;> simp
      rw [read_of_buildAxis rfl haxis] at hrule
      cases hrule
      refine exists_saved_assigned h.ignores h.before rfl hnewline hfit hvalue.token ?_ ?_
      · rw [toText_cached_of_axis hkind (LineFields.kind_parameter _ _)]
        simp [LineParts.head, haxis, ← String.append_singleton]
      · intro other
        exact ⟨_, read_of_buildAxis rfl haxis, reloadsParameter_of_value hcommand hbit rfl rfl⟩
  | spaced names tail kind hlength htail hkind =>
      refine exists_saved_spaced h.yields rfl rfl hlength htail hkind ?_ hnewline hfit hrule hvalue
      -- The only rule that is particular about the value is the one for `CW`.
      rintro rfl
      obtain ⟨hnames, hbuilder⟩ : names.map named = [named "CW"] ∧
          buildKind kind = buildKind .basic := by
        simpa using hnumeral rfl
      obtain ⟨n, rfl, hn⟩ := List.map_eq_singleton_iff.1 hnames
      exact ⟨by rw [named_injective hn], buildKind_injective hbuilder⟩
  | outputBit => exact exists_saved_outputBit h.yields rfl rfl hfit hrule hvalue
  | indexed => exact exists_saved_indexed h.yields rfl rfl hfit hrule hvalue.token

theorem isRevaluable_standard : IsRevaluable Parser.standard.rules where
  toIsFaithful := isFaithful_standard
  ignores := by
    have htable : ∀ row ∈ standardRules,
        row.1.endsIn .assigned = true → row.1.ignoresValue = true := by decide
    intro rule hrule
    obtain ⟨row, hrow, rfl⟩ := List.mem_map.1 hrule
    exact htable row hrow
  before := by
    have htable : standardRules.Pairwise fun earlier later =>
        later.1.endsIn .assigned = true → earlier.1.ignoresValue = true := by decide
    exact List.pairwise_map.2 htable
  numeral := by
    have htable : ∀ row ∈ standardRules, row.1.endsIn .spacedNumeral = true →
        row = (.setting [named "CW"] false .spacedNumeral, some "Basic") := by decide
    intro rule hrule hends
    obtain ⟨row, hrow, rfl⟩ := List.mem_map.1 hrule
    rw [htable row hrow hends]
    rfl
  builds := by
    intro rule hrule fields parts p hread
    -- A rule with a builder got it from the registry, under the name in its row.
    obtain ⟨⟨pattern, builder⟩, _, rfl⟩ := List.mem_map.1 hrule
    cases hlookup : builder.bind Registry.standard.lookup with
    | none =>
        simp only [Rule.read, hlookup] at hread
        cases hread
    | some build =>
        simp only [Rule.read, hlookup] at hread
        obtain ⟨name, _, hfound⟩ := Option.bind_eq_some_iff.1 hlookup
        obtain ⟨entry, hentry, rfl⟩ := Option.map_eq_some_iff.1 hfound
        cases hbuild : entry.2 { fields with parts } with
        | error error =>
            rw [hbuild] at hread
            cases hread
        | ok q =>
            rw [hbuild] at hread
            cases hread
            exact exists_kind_of_standard (List.mem_of_find?_eq_some hentry) hbuild

/-! ## Refreshed items -/

variable {σ : Type} [CommandChannel σ] {channel after later : σ} {parser : Parser} {file : String}
  {lines : List (List Char)} {items : List Item}

theorem newline_not_mem_trimEnd {line : List Char} (h : '\n' ∉ line) : '\n' ∉ trimEnd line := by
  obtain ⟨w, _, hline⟩ := exists_trimEnd_append_allBlank line
  rw [hline] at h
  exact fun hmem => h (List.mem_append_left w hmem)

/-- What an item of a settings file was read off. -/
theorem exists_fields_of_parseLines {number : Nat} (hnewline : ∀ line ∈ lines, '\n' ∉ line)
    (hread : Document.parseLines parser file number lines = .ok items) (hitem : item ∈ items) :
    ∃ fields : LineFields, fields.axes = parser.axes ∧
      trimEnd fields.text.toList = fields.text.toList ∧ '\n' ∉ fields.text.toList ∧
        Parser.applyRules fields parser.rules = .ok item := by
  induction lines generalizing number items with
  | nil =>
      cases hread
      cases hitem
  | cons line lines ih =>
      obtain ⟨first, rest, rfl, hfirst, hrest⟩ := parseLines_cons_eq_ok hread
      rcases List.mem_cons.1 hitem with rfl | hitem
      · refine ⟨_, rfl, ?_, ?_, hfirst⟩
        · simp
        · simpa using newline_not_mem_trimEnd (hnewline line List.mem_cons_self)
      · exact ih (fun other hother => hnewline other (List.mem_cons_of_mem line hother)) hrest hitem

/-- The parameter is a `CW` setting whose value has a sign. -/
def isSignedCw (p : Parameter) : Bool :=
  p.kind == .basic && p.name == "CW" && p.value.any fun value => Numeric.hasSign value.toList

theorem isGivable_of_read (hplain : Parameter.RepliesPlainly channel) (hvector : p.kind ≠ .vector 0)
    (haxes : p.axes = some defaultAxes) (hread : (p.read.on channel).1 = .ok value)
    (hunsigned : isSignedCw (p.cached value) = false) : IsGivable p value := by
  have htoken : IsToken value.toList := by
    have hsolid : IsToken defaultAxes.toList := by decide
    apply Parameter.isToken_read hplain hvector _ hread
    simpa [haxes] using hsolid.solid
  have hnumber : Parameter.isReply p.kind = true → Numeric.isPlainDecimal value.toList = true :=
    fun hreply => Parameter.isPlainDecimal_read hreply hplain hread
  constructor
  · exact htoken
  · intro index hkind
    have hdecimal := hnumber (congrArg Parameter.isReply hkind)
    obtain ⟨level, hlevel⟩ := Numeric.exists_read?_of_isPlainDecimal hdecimal
    exact ⟨level.hasWholePart, by simp [outputState?, htoken.trim_eq, hlevel]⟩
  · intro hkind hname c hc
    have hdecimal := hnumber (congrArg Parameter.isReply hkind)
    rcases Numeric.mem_of_isPlainDecimal hdecimal hc with hchar | ⟨hsign, _⟩
    · exact hchar
    · simp [isSignedCw, Parameter.cached, hkind, hname, hsign] at hunsigned

/-- A refreshed item of a settings file is saved. -/
theorem IsRevaluable.exists_saved_of_isRefreshed {number : Nat} (h : IsRevaluable parser.rules)
    (haxes : parser.axes = defaultAxes) (hnewline : ∀ line ∈ lines, '\n' ∉ line)
    (hparse : Document.parseLines parser file number lines = .ok items)
    (hplain : Parameter.RepliesPlainly channel)
    (hrefreshed : Document.IsRefreshed items channel item)
    (hunsigned : ∀ p, Document.parameterOf? item = some p → isSignedCw p = false) :
    ∃ written, IsSaved parser.rules item written := by
  cases hrefreshed with
  | literal hitem =>
      obtain ⟨fields, _, htrim, hline, hread⟩ := exists_fields_of_parseLines hnewline hparse hitem
      obtain ⟨rule, parts, hfit, hrule⟩ := applyRules_eq_ok_iff.1 hread
      cases hbuilder : rule.builder with
      | none =>
          simp only [Rule.read, hbuilder] at hrule
          cases hrule
          exact ⟨_, isSaved_literal htrim hline hfit hbuilder⟩
      | some build =>
          -- No builder makes a literal.
          simp only [Rule.read, hbuilder] at hrule
          cases hbuild : build { fields with parts } <;> simp [hbuild, Except.map] at hrule
  | @parameter p value later hitem hlater hread =>
      obtain ⟨fields, hfields, htrim, hline, happly⟩ :=
        exists_fields_of_parseLines hnewline hparse hitem
      obtain ⟨rule, parts, hfit, hrule⟩ := applyRules_eq_ok_iff.1 happly
      obtain ⟨kind, hkind, rfl⟩ := h.builds rule hfit.mem fields parts p hrule
      apply h.exists_saved htrim hline happly
      apply isGivable_of_read (hplain.of_reaches hlater) (by simpa using hkind) _ hread
      · exact hunsigned _ rfl
      · simp [hfields, haxes]

/-! ## Refreshed settings files -/

/-- Items that are saved, each on a line of its own, are read again in order. -/
theorem exists_lines_of_isSaved
    (hsaved : ∀ item ∈ items, ∃ written, IsSaved parser.rules item written) :
    ∃ pieces,
      Document.renderItems items =
          .ok (String.ofList (pieces.flatMap fun line => line ++ ['\n'])) ∧
        (∀ line ∈ pieces, '\n' ∉ line) ∧
          ∀ file number, ∃ loaded,
            Document.parseLines parser file number pieces = .ok loaded ∧
              List.Forall₂ Reloads items loaded := by
  induction items with
  | nil => exact ⟨[], rfl, by simp, fun _ _ => ⟨[], rfl, .nil⟩⟩
  | cons item items ih =>
      obtain ⟨written, hwritten⟩ := hsaved item List.mem_cons_self
      obtain ⟨pieces, hrender, hnewline, hread⟩ :=
        ih fun other hother => hsaved other (List.mem_cons_of_mem item hother)
      refine ⟨written :: pieces, renderItems_cons hwritten.text hrender, ?_, ?_⟩
      · exact List.forall_mem_cons.2 ⟨hwritten.newline, hnewline⟩
      · -- Where the lines stand, and in which file, makes no difference to what is read.
        intro file number
        obtain ⟨rest, hrest, hreloads⟩ := hread file (number + 1)
        obtain ⟨loaded, hloaded, hreload⟩ :=
          hwritten.reread ⟨{}, parser.axes, file, number, ""⟩
        refine ⟨loaded :: rest, parseLines_cons ?_ hrest, .cons hreload hreloads⟩
        simpa [Parser.parseLine, hwritten.trimmed] using hloaded

theorem parse_eq_ok_iff {content : String} {document : Document} :
    Document.parse parser content file = .ok document ↔
      Document.parseLines parser file 1 (Text.lines content.toList) = .ok document.items := by
  unfold Document.parse
  cases Document.parseLines parser file 1 (Text.lines content.toList) with
  | error error => simp [Except.map]
  | ok items =>
      constructor
      · intro h
        cases h
        rfl
      · intro h
        cases h
        rfl

/-- When the controller replies with plain decimal numbers, a settings file that was read and
refreshed is written as a text from which the same settings are read, with the refreshed values,
unless a `CW` setting has got a value with a sign. -/
theorem refreshed_settings_reload (content file label : String) {document refreshed : Document}
    (hparse : Document.parse Parser.standard content file = .ok document)
    (hplain : Parameter.RepliesPlainly channel)
    (hrefresh : document.refresh channel = (.ok (), refreshed, after))
    (hunsigned : ∀ p ∈ refreshed.parameters, isSignedCw p = false) :
    ∃ text reloaded, refreshed.toText = .ok text ∧
      Document.parse Parser.standard text label = .ok reloaded ∧
        List.Forall₂ Reloads refreshed.items reloaded.items := by
  have hresult : (Document.refreshItems document.items channel).1 = .ok () :=
    congrArg (·.1) hrefresh
  have hitems : (Document.refreshItems document.items channel).2.1 = refreshed.items :=
    congrArg (·.2.1.items) hrefresh
  -- Each item is saved on its own, with the value that was read for it at its time.
  have hsaved : ∀ item ∈ refreshed.items,
      ∃ written, IsSaved Parser.standard.rules item written := by
    intro item hitem
    rw [← hitems] at hitem
    refine isRevaluable_standard.exists_saved_of_isRefreshed rfl
      (fun _ => newline_not_mem_of_mem_lines) (parse_eq_ok_iff.1 hparse) hplain
      (Document.isRefreshed_of_mem hresult hitem) ?_
    intro p hp
    rw [hitems] at hitem
    exact hunsigned p (List.mem_filterMap.2 ⟨item, hitem, hp⟩)
  obtain ⟨pieces, hrender, hnewline, hread⟩ := exists_lines_of_isSaved hsaved
  obtain ⟨loaded, hloaded, hreloads⟩ := hread label 1
  refine ⟨_, ⟨loaded⟩, hrender, ?_, hreloads⟩
  rw [parse_eq_ok_iff, String.toList_ofList, lines_flatMap_newline hnewline]
  exact hloaded

theorem refreshed_settings_reload_switched :
    ∃ document refreshed after text reloaded,
      Document.parse Parser.standard "SB 007\n' on\nMO\nKPA=6\nCW 2\nBA AB\n" "io" =
          .ok document ∧
        document.refresh
            (Channel.mk
              [("MG@OUT[7]", .ok "0.0000"), ("MG1", .ok "1.0000"), ("KPA=?", .ok " -7.5"),
               ("MG_CW", .ok "1.0000"), ("MG_BAC", .ok "+1")] [] []) =
          (.ok (), refreshed, after) ∧
        refreshed.toText = .ok text ∧ Document.parse Parser.standard text "again" = .ok reloaded ∧
          List.Forall₂ Reloads refreshed.items reloaded.items := by
  have hparse : Document.parse Parser.standard
      "SB 007\n' on\nMO\nKPA=6\nCW 2\nBA AB\n" "io" = .ok
        ⟨[.parameter
            { kind := .outputBit 7, name := "SB", value := some "1", axes := some "ABCDEFGH",
              source := some ⟨"io", 1⟩ },
          .literal "' on",
          .parameter
            { kind := .command, name := "MO", value := some "1", axes := some "ABCDEFGH",
              source := some ⟨"io", 3⟩ },
          .parameter
            { kind := .axisQuery 'A', name := "KP", value := some "6", axes := some "ABCDEFGH",
              source := some ⟨"io", 4⟩ },
          .parameter
            { kind := .basic, name := "CW", value := some "2", axes := some "ABCDEFGH",
              source := some ⟨"io", 5⟩ },
          .parameter
            { kind := .axisMask, name := "BA", value := some "AB", axes := some "ABCDEFGH",
              source := some ⟨"io", 6⟩ }]⟩ := by
    decide +kernel
  have hplain : Parameter.RepliesPlainly
      (Channel.mk
        [("MG@OUT[7]", .ok "0.0000"), ("MG1", .ok "1.0000"), ("KPA=?", .ok " -7.5"),
         ("MG_CW", .ok "1.0000"), ("MG_BAC", .ok "+1")] [] []) := by
    apply Channel.repliesAre_of_rows
    · intro row hrow reply hreply
      simp only [List.mem_cons, List.not_mem_nil, or_false] at hrow
      rcases hrow with rfl | rfl | rfl | rfl | rfl
      all_goals
        cases hreply
        decide
    · simp
  have hrefresh :
      Document.refresh
          ⟨[.parameter
              { kind := .outputBit 7, name := "SB", value := some "1", axes := some "ABCDEFGH",
                source := some ⟨"io", 1⟩ },
            .literal "' on",
            .parameter
              { kind := .command, name := "MO", value := some "1", axes := some "ABCDEFGH",
                source := some ⟨"io", 3⟩ },
            .parameter
              { kind := .axisQuery 'A', name := "KP", value := some "6", axes := some "ABCDEFGH",
                source := some ⟨"io", 4⟩ },
            .parameter
              { kind := .basic, name := "CW", value := some "2", axes := some "ABCDEFGH",
                source := some ⟨"io", 5⟩ },
            .parameter
              { kind := .axisMask, name := "BA", value := some "AB", axes := some "ABCDEFGH",
                source := some ⟨"io", 6⟩ }]⟩
          (Channel.mk
            [("MG@OUT[7]", .ok "0.0000"), ("MG1", .ok "1.0000"), ("KPA=?", .ok " -7.5"),
             ("MG_CW", .ok "1.0000"), ("MG_BAC", .ok "+1")] [] []) =
        (.ok (),
          ⟨[.parameter
              { kind := .outputBit 7, name := "SB", value := some "0.0000",
                axes := some "ABCDEFGH", source := some ⟨"io", 1⟩ },
            .literal "' on",
            .parameter
              { kind := .command, name := "MO", value := some "1.0000", axes := some "ABCDEFGH",
                source := some ⟨"io", 3⟩ },
            .parameter
              { kind := .axisQuery 'A', name := "KP", value := some "-7.5",
                axes := some "ABCDEFGH", source := some ⟨"io", 4⟩ },
            .parameter
              { kind := .basic, name := "CW", value := some "1.0000", axes := some "ABCDEFGH",
                source := some ⟨"io", 5⟩ },
            .parameter
              { kind := .axisMask, name := "BA", value := some "C", axes := some "ABCDEFGH",
                source := some ⟨"io", 6⟩ }]⟩,
          Channel.mk
            [("MG@OUT[7]", .ok "0.0000"), ("MG1", .ok "1.0000"), ("KPA=?", .ok " -7.5"),
             ("MG_CW", .ok "1.0000"), ("MG_BAC", .ok "+1")] []
            ["MG@OUT[7]", "MG1", "KPA=?", "MG_CW", "MG_BAA", "MG_BAB", "MG_BAC", "MG_BAD",
             "MG_BAE", "MG_BAF", "MG_BAG", "MG_BAH"]) := by
    decide +kernel
  obtain ⟨text, reloaded, htext, hreloaded, hall⟩ :=
    refreshed_settings_reload _ _ "again" hparse hplain hrefresh (by decide +kernel)
  exact ⟨_, _, _, text, reloaded, hparse, hrefresh, htext, hreloaded, hall⟩

/-- A reply with a sign to `MG_CW`, and the settings file that is then saved. -/
theorem signed_reply_not_reloaded :
    Document.parse Parser.standard "CW 2\n" "io" =
        .ok ⟨[.parameter
          { kind := .basic, name := "CW", value := some "2", axes := some "ABCDEFGH",
            source := some ⟨"io", 1⟩ }]⟩ ∧
      Parameter.RepliesPlainly (Channel.mk [("MG_CW", .ok "-1.0000")] [] []) ∧
      Document.refresh
          ⟨[.parameter
            { kind := .basic, name := "CW", value := some "2", axes := some "ABCDEFGH",
              source := some ⟨"io", 1⟩ }]⟩
          (Channel.mk [("MG_CW", .ok "-1.0000")] [] []) =
        (.ok (),
          ⟨[.parameter
            { kind := .basic, name := "CW", value := some "-1.0000", axes := some "ABCDEFGH",
              source := some ⟨"io", 1⟩ }]⟩,
          Channel.mk [("MG_CW", .ok "-1.0000")] [] ["MG_CW"]) ∧
      Document.toText
          ⟨[.parameter
            { kind := .basic, name := "CW", value := some "-1.0000", axes := some "ABCDEFGH",
              source := some ⟨"io", 1⟩ }]⟩ = .ok "CW -1.0000\n" ∧
      Document.parse Parser.standard "CW -1.0000\n" "io" =
        .error (.malformed "io" 1 "CW -1.0000") := by
  refine ⟨by decide +kernel, ?_, by decide +kernel, by decide +kernel, by decide +kernel⟩
  apply Channel.repliesAre_of_rows
  · intro row hrow reply hreply
    obtain rfl := List.mem_singleton.1 hrow
    cases hreply
    decide
  · simp

end Settings
end MotionController
