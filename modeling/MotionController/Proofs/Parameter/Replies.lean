import MotionController.Proofs.Numeric.NumberText
import MotionController.Proofs.Parameter.Probes
import MotionController.Proofs.Settings.Patterns
import MotionController.Proofs.Text.Tokens

/-!
# Values read from plain replies

What a parameter is read as when the controller replies with plain decimal numbers: always a text
without blanks (`isToken_read`), and the number itself for a kind whose value is the reply
(`isPlainDecimal_read`).
-/

namespace MotionController

/-! ## Written numbers -/

namespace Numeric

open Text

variable {text : List Char}

/-- Numbers are written without blanks. -/
theorem IsNumberText.isToken (h : IsNumberText text) : IsToken text where
  ne_nil := h.ne_nil
  solid := by
    intro c hc
    have hchar := h.chars c hc
    simp only [isNumberChar, Bool.or_eq_true, List.contains_iff_mem] at hchar
    rcases hchar with hdigit | hletter
    · exact Settings.isBlank_of_isDigit hdigit
    · have hletters : ("-.NaNinf".toList.all fun c => !isBlank c) = true := by decide
      simpa using List.all_eq_true.1 hletters c hletter

end Numeric

theorem DeviceNumber.isToken_text (x : DeviceNumber) : Text.IsToken x.text.toList :=
  x.isNumberText_text.isToken

theorem NetworkWord.isToken_dotted (word : NetworkWord) : Text.IsToken word.dotted.toList := by
  have hpieces : ∀ piece ∈ word.octets.map Numeric.decimal, Text.IsToken piece := by
    intro piece hpiece
    obtain ⟨octet, _, rfl⟩ := List.mem_map.1 hpiece
    exact (Numeric.isNumberText_decimal octet).isToken
  simpa [NetworkWord.dotted] using Text.isToken_join (by decide) hpieces (by simp [octets])

/-! ## Plain decimal numbers -/

namespace Numeric

open Text

variable {text : List Char}

/-- An optional sign, digits, and an optional point, which may have digits behind it. -/
def isPlainDecimal (text : List Char) : Bool :=
  let (whole, afterWhole) := splitDigits (splitSign text).2
  !whole.isEmpty && (splitFraction afterWhole).2.isEmpty

/-- The text begins with a sign. -/
def hasSign (text : List Char) : Bool :=
  text.head?.any fun c => c == '-' || c == '+'

theorem isPlainDecimal_iff :
    isPlainDecimal text = true ↔ (splitDigits (splitSign text).2).1 ≠ [] ∧
      (splitFraction (splitDigits (splitSign text).2).2).2 = [] := by
  simp [isPlainDecimal]

theorem exists_read?_of_isPlainDecimal (h : isPlainDecimal text = true) :
    ∃ value, read? text = some value := by
  obtain ⟨hwhole, hafter⟩ := isPlainDecimal_iff.1 h
  -- There are digits, and nothing behind the fraction that would have to be a power of ten.
  have hdecimal : ∃ number, readDecimal? (splitSign text).2 = some number := by
    simp [readDecimal?, hwhole, hafter, readExponent?]
  obtain ⟨number, hnumber⟩ := hdecimal
  exact ⟨number.toBinary64 (splitSign text).1, by simp [read?, hnumber]⟩

theorem splitSign_eq (text : List Char) :
    (splitSign text).2 = text ∨
      hasSign text = true ∧
        ∃ sign, (sign = '-' ∨ sign = '+') ∧ text = sign :: (splitSign text).2 := by
  unfold splitSign
  split
  · exact .inr ⟨rfl, '-', .inl rfl, rfl⟩
  · exact .inr ⟨rfl, '+', .inr rfl, rfl⟩
  · exact .inl rfl

/-- Digits with a fraction behind them are digits and points. -/
theorem isDigit_or_point_of_splitFraction (hafter : (splitFraction (splitDigits text).2).2 = []) :
    ∀ c ∈ text, c.isDigit = true ∨ c = '.' := by
  intro c hc
  -- What stands behind the leading digits is nothing, or a point and the fraction's digits.
  rw [← List.takeWhile_append_dropWhile (p := Char.isDigit) (l := text)] at hc
  rcases List.mem_append.1 hc with hc | hc
  · exact .inl (List.mem_takeWhile_imp hc)
  · change (splitFraction (text.dropWhile Char.isDigit)).2 = [] at hafter
    generalize text.dropWhile Char.isDigit = behind at hafter hc
    unfold splitFraction at hafter
    split at hafter
    · next digits =>
        have hdigits : ∀ c ∈ digits, c.isDigit = true := List.dropWhile_eq_nil_iff.1 hafter
        rcases List.mem_cons.1 hc with hc | hc
        · exact .inr hc
        · exact .inl (hdigits c hc)
    · next =>
        obtain rfl : behind = [] := hafter
        cases hc

theorem mem_of_isPlainDecimal {c : Char} (h : isPlainDecimal text = true) (hc : c ∈ text) :
    (c.isDigit = true ∨ c = '.') ∨ hasSign text = true ∧ (c = '-' ∨ c = '+') := by
  have hmagnitude := isDigit_or_point_of_splitFraction (isPlainDecimal_iff.1 h).2
  rcases splitSign_eq text with hnone | ⟨hsign, sign, hchar, htext⟩
  · exact .inl (hmagnitude c (by rwa [hnone]))
  · rw [htext] at hc
    rcases List.mem_cons.1 hc with rfl | hc
    · exact .inr ⟨hsign, hchar⟩
    · exact .inl (hmagnitude c hc)

theorem isToken_of_isPlainDecimal (h : isPlainDecimal text = true) : IsToken text where
  ne_nil := by
    rintro rfl
    cases h
  solid := by
    intro c hc
    rcases mem_of_isPlainDecimal h hc with (hdigit | rfl) | ⟨_, rfl | rfl⟩
    · exact Settings.isBlank_of_isDigit hdigit
    · decide
    · decide
    · decide

end Numeric

/-! ## Values -/

namespace Parameter

variable {σ : Type} [CommandChannel σ] {channel after : σ} {p : Parameter} {value : String}

/-- Every reply is a plain decimal number, which may stand between blanks. -/
abbrev RepliesPlainly (channel : σ) : Prop :=
  RepliesAre (fun reply => Numeric.isPlainDecimal (Text.trim reply.toList) = true) channel

/-- The value of such a parameter is the reply to one command. -/
def isReply : ParameterKind → Bool
  | .ssiQuery _ | .axisMask | .vector _ | .network => false
  | _ => true

theorem on_readSingle_reply {kind : ParameterKind} {command : String}
    (hkind : isReply kind = true) :
    (readSingle kind command).on channel =
      ((CommandChannel.command command channel).1.map fun reply =>
          String.ofList (Text.trim reply.toList),
        (CommandChannel.command command channel).2) := by
  have hreply : (readSingle kind command : Session σ String) =
      (fun reply => String.ofList (Text.trim reply.toList)) <$> Channel.send command := by
    cases kind <;> first | rfl | cases hkind
  simp only [hreply, Session.on_map, Channel.on_send]

theorem readPlan_of_isReply (hkind : isReply p.kind = true) :
    ∃ command, p.readPlan = .single command := by
  unfold readPlan
  generalize p.kind = kind at hkind ⊢
  cases kind <;> first | exact ⟨_, rfl⟩ | cases hkind

/-- The value of a parameter that is a reply is the number that the controller replied. -/
theorem isPlainDecimal_read (hkind : isReply p.kind = true) (hplain : RepliesPlainly channel)
    (hread : (p.read.on channel).1 = .ok value) : Numeric.isPlainDecimal value.toList = true := by
  obtain ⟨command, hcommand⟩ := readPlan_of_isReply hkind
  have hsingle : (p.read : Session σ String) = readSingle p.kind command := by
    simp [read, hcommand]
  rw [hsingle, on_readSingle_reply hkind] at hread
  cases hreply : (CommandChannel.command command channel).1 with
  | error error =>
      rw [hreply] at hread
      cases hread
  | ok reply =>
      rw [hreply] at hread
      cases hread
      simpa using hplain channel .refl command reply hreply

theorem isToken_vectorText {values : List Binary64} (h : values ≠ []) :
    Text.IsToken (vectorText values).toList := by
  have hpieces : ∀ piece ∈ values.map fun x => (DeviceNumber.round x).text.toList,
      Text.IsToken piece := by
    intro piece hpiece
    obtain ⟨x, _, rfl⟩ := List.mem_map.1 hpiece
    exact DeviceNumber.isToken_text _
  simpa [vectorText] using Text.isToken_join (by decide) hpieces (by simpa using h)

theorem isToken_axisSetText {labels : List String}
    (h : ∀ label ∈ labels, ∀ c ∈ label.toList, Text.isBlank c = false) :
    Text.IsToken (axisSetText labels).toList := by
  unfold axisSetText
  dsimp only
  split
  · decide
  · next hne =>
      refine ⟨fun hnil => hne (String.toList_eq_nil_iff.1 hnil), ?_⟩
      intro c hc
      obtain ⟨label, hlabel, hc⟩ : ∃ label ∈ labels, c ∈ label.toList := by
        simpa using hc
      exact h label hlabel c hc

/-- A plain decimal number is no encoder setup, which has six fields. -/
theorem ssiSetup_of_isPlainDecimal {reply : String}
    (h : Numeric.isPlainDecimal (Text.trim reply.toList) = true) : ssiSetup reply = "0" := by
  have hcomma : ',' ∉ reply.toList := by
    intro hmem
    have htrim := Text.mem_trim_of_not_blank (by decide) hmem
    rcases Numeric.mem_of_isPlainDecimal h htrim with (hdigit | hpoint) | ⟨_, hsign | hsign⟩
    · exact absurd hdigit (by decide)
    · exact absurd hpoint (by decide)
    · exact absurd hsign (by decide)
    · exact absurd hsign (by decide)
  simp [ssiSetup, Text.cut_of_not_mem hcomma]

theorem isToken_readSsi (axis : Char) {command : String} (hplain : RepliesPlainly channel)
    (h : ((readSingle (.ssiQuery axis) command).on channel).1 = .ok value) :
    Text.IsToken value.toList := by
  have hzero : Text.IsToken "0".toList := by decide
  obtain ⟨answer, next, hanswer, h⟩ := Session.on_bind_eq_ok h
  cases answer with
  | error error =>
      cases h
      exact hzero
  | ok reply =>
      cases h
      have hreply := hplain channel .refl command reply (Except.ok.inj hanswer)
      rw [ssiSetup_of_isPlainDecimal hreply]
      exact hzero

theorem isToken_readNetwork {command : String}
    (h : ((readSingle .network command).on channel).1 = .ok value) :
    Text.IsToken value.toList := by
  obtain ⟨packed, next, _, h⟩ := Session.on_bind_eq_ok h
  cases h
  exact NetworkWord.isToken_dotted _

/-- A value that was read is a text without blanks. -/
theorem isToken_read (hplain : RepliesPlainly channel) (hvector : p.kind ≠ .vector 0)
    (haxes : ∀ axis ∈ (p.axes.getD "").toList, Text.isBlank axis = false)
    (hread : (p.read.on channel).1 = .ok value) : Text.IsToken value.toList := by
  cases hreply : isReply p.kind with
  | true => exact Numeric.isToken_of_isPlainDecimal (isPlainDecimal_read hreply hplain hread)
  | false =>
      rcases p with ⟨kind, name, cached, axes, source⟩
      cases kind with
      | ssiQuery axis => exact isToken_readSsi axis hplain hread
      | network => exact isToken_readNetwork hread
      | axisMask =>
          obtain ⟨labels, next, hlabels, h⟩ := Session.on_bind_eq_ok hread
          cases h
          apply isToken_axisSetText
          intro label hlabel c hc
          -- The labels are letters of the axes that were asked for.
          obtain ⟨axis, haxis, rfl⟩ :
              ∃ axis ∈ (axes.getD "").toList, String.singleton axis = label := by
            simpa [probe] using subset_askFlags hlabels hlabel
          obtain rfl : c = axis := by simpa using hc
          exact haxes c haxis
      | vector length =>
          obtain ⟨values, next, hvalues, h⟩ := Session.on_bind_eq_ok hread
          cases h
          apply isToken_vectorText
          -- A list of no numbers would be written as the empty text.
          have hlength : values.length = length := by
            simpa using length_askAll hvalues
          rintro rfl
          exact hvector (by rw [← hlength]; rfl)
      | _ => cases hreply

end Parameter
end MotionController
