import MotionController.Proofs.Settings.Reloading

/-!
# Values of commands

The value of a command is one when it is made (`IsMade.value_eq`), and writing it leaves it there.
Reading it back does not: the reply is kept as it is. So over any run of operations on a document
the value of a command is one, or a reply that an operation kept (`command_value_after_run`).
-/

namespace MotionController
namespace Settings

variable {σ : Type} [CommandChannel σ] {start channel : σ} {p q : Parameter} {value : String}
  {document : Document} {position : Nat} {mayKeep : Prop}

/-! ## Making parameters -/

/-- The builders of the parser are standard ones. -/
def Parser.UsesStandardBuilders (parser : Parser) : Prop :=
  ∀ rule ∈ parser.rules, ∀ build, rule.builder = some build →
    ∃ entry ∈ Registry.standard.entries, entry.2 = build

/-- A parameter that is made of its kind and name and what is said about it afterwards, or that a
parser reads. -/
inductive IsMade : Parameter → Prop where
  | ofKind (kind : ParameterKind) (name : String) : IsMade (.ofKind kind name)
  | withValue {p : Parameter} (value : String) (h : IsMade p) : IsMade (p.withValue value)
  | withAxes {p : Parameter} (axes : String) (h : IsMade p) : IsMade (p.withAxes axes)
  | withSource {p : Parameter} (file : String) (line : Nat) (h : IsMade p) :
      IsMade (p.withSource file line)
  | parsed {p : Parameter} {parser : Parser} {text file : String} {line : Nat}
      (hparser : parser.UsesStandardBuilders)
      (h : parser.parseLine text file line = .ok (.parameter p)) : IsMade p

theorem mem_entries_of_lookup {registry : Registry} {name : String} {build : Builder}
    (h : registry.lookup name = some build) : ∃ entry ∈ registry.entries, entry.2 = build := by
  rcases Option.map_eq_some_iff.1 h with ⟨entry, hfind, hbuild⟩
  exact ⟨entry, List.mem_of_find?_eq_some hfind, hbuild⟩

theorem usesStandardBuilders_standard (axes : String) :
    (Parser.standard.withAxes axes).UsesStandardBuilders := by
  intro rule hrule build hbuild
  rcases List.mem_map.1 hrule with ⟨⟨pattern, name⟩, _, rfl⟩
  rcases Option.bind_eq_some_iff.1 hbuild with ⟨name, _, hlookup⟩
  exact mem_entries_of_lookup hlookup

theorem withValue_of_command (hkind : p.kind = .command) : p.withValue value = p :=
  if_pos hkind

theorem kind_withValue (p : Parameter) (value : String) : (p.withValue value).kind = p.kind := by
  unfold Parameter.withValue
  split <;> rfl

/-- The value that a line gives a command does not count. -/
theorem value_parameter_command (fields : LineFields) :
    (fields.parameter .command).value = some "1" := by
  unfold LineFields.parameter
  cases fields.parts.value <;> rfl

theorem exists_kind_of_read {rule : Rule} {fields : LineFields} {parts : LineParts}
    (hbuilds : ∀ build, rule.builder = some build →
      ∃ entry ∈ Registry.standard.entries, entry.2 = build)
    (h : rule.read fields parts = .ok (.parameter p)) :
    ∃ kind, p = LineFields.parameter { fields with parts } kind := by
  unfold Rule.read at h
  cases hbuilder : rule.builder with
  | none => simp [hbuilder] at h
  | some build =>
      rcases hbuilds build hbuilder with ⟨entry, hentry, rfl⟩
      simp only [hbuilder] at h
      cases hbuild : entry.2 { fields with parts } with
      | error error => simp [hbuild, Except.map] at h
      | ok built =>
          simp only [hbuild, Except.map, Except.ok.injEq, Item.parameter.injEq] at h
          subst h
          rcases exists_kind_of_standard hentry hbuild with ⟨kind, _, hkind⟩
          exact ⟨kind, hkind⟩

/-- A command is made with the value one. -/
theorem IsMade.value_eq (h : IsMade p) (hkind : p.kind = .command) : p.value = some "1" := by
  induction h with
  | ofKind kind name =>
      have hcommand : kind = .command := hkind
      subst hcommand
      rfl
  | @withValue p value _ ih =>
      have hcommand : p.kind = .command := (kind_withValue p value).symm.trans hkind
      simpa only [withValue_of_command hcommand] using ih hcommand
  | withAxes axes _ ih => exact ih hkind
  | withSource file line _ ih => exact ih hkind
  | parsed hparser h =>
      rcases applyRules_eq_ok_iff.1 h with ⟨rule, parts, hfit, hread⟩
      rcases exists_kind_of_read (hparser rule hfit.mem) hread with ⟨kind, rfl⟩
      simp only [LineFields.kind_parameter] at hkind
      simp only [hkind, value_parameter_command]

/-! ## What happens to a parameter -/

/-- One operation leaves a parameter as it is, keeps a value that it read at some time, or sets
one. -/
inductive Updates (start : σ) (mayKeep : Prop) : Parameter → Parameter → Prop where
  | same (p : Parameter) : Updates start mayKeep p p
  | kept {p : Parameter} {value : String} {later : σ} (hkeeps : mayKeep)
      (hlater : Reaches start later) (hread : (p.read.on later).1 = .ok value) :
      Updates start mayKeep p (p.cached value)
  | set (p : Parameter) (value : String) : Updates start mayKeep p (p.withValue value)

/-- A value that a command may have: one, or a reply that was kept. -/
inductive CommandValue (start : σ) (mayKeep : Prop) : String → Prop where
  | one : CommandValue start mayKeep "1"
  | reply {later : σ} {reply : String} (hkeeps : mayKeep) (hlater : Reaches start later)
      (hreply : (CommandChannel.command "MG1" later).1 = .ok reply) :
      CommandValue start mayKeep (String.ofList (Text.trim reply.toList))

theorem on_read_of_command (hkind : p.kind = .command) (channel : σ) :
    (p.read.on channel).1 =
      (CommandChannel.command "MG1" channel).1.map fun reply =>
        String.ofList (Text.trim reply.toList) := by
  rcases p with ⟨kind, name, value, axes, source⟩
  have hcommand : kind = .command := hkind
  subst hcommand
  change (Session.on (Channel.send "MG1" >>= fun reply =>
    pure (String.ofList (Text.trim reply.toList))) channel).1 = _
  simp only [Session.on_bind, Channel.on_send]
  rcases CommandChannel.command "MG1" channel with ⟨error | reply, after⟩ <;> rfl

theorem Updates.commandValue (h : Updates start mayKeep (p.cached value) q)
    (hkind : p.kind = .command) (hvalue : CommandValue start mayKeep value) :
    ∃ other, q = p.cached other ∧ CommandValue start mayKeep other := by
  generalize hcached : p.cached value = before at h
  cases h with
  | same => exact ⟨value, hcached.symm, hvalue⟩
  | @kept other later hkeeps hlater hread =>
      subst hcached
      have hcommand : (p.cached value).kind = .command := hkind
      simp only [on_read_of_command hcommand] at hread
      cases hreply : (CommandChannel.command "MG1" later).1 with
      | error error => simp [hreply, Except.map] at hread
      | ok reply =>
          simp only [hreply, Except.map, Except.ok.injEq] at hread
          exact ⟨other, rfl, hread ▸ .reply hkeeps hlater hreply⟩
  | set other =>
      subst hcached
      have hcommand : (p.cached value).kind = .command := hkind
      exact ⟨_, withValue_of_command hcommand, hvalue⟩

/-! ## Operations on a document -/

/-- One use of the parameters of a document. A parameter is meant by its position. -/
inductive Operation where
  | get (position : Nat) (refresh : Bool)
  | set (position : Nat) (value : String) (refresh : Bool)
  | read (position : Nat)
  | check (position : Nat)
  | refreshAll
  | checkAll

namespace Operation

/-- The operation keeps values that it reads. -/
def keepsReading : Operation → Bool
  | get _ refresh => refresh
  | refreshAll => true
  | set .. | read _ | check _ | checkAll => false

/-- What an operation that exchanges the parameter at a position leaves. -/
def runAt (exchange : Parameter → σ → Parameter × σ) (position : Nat) (state : Document × σ) :
    Document × σ :=
  match state.1.parameters[position]? with
  | some p =>
      let after := exchange p state.2
      (state.1.replaceParameter position after.1, after.2)
  | none => state

/-- The document and its channel after an operation, whether or not it succeeds. -/
def run (state : Document × σ) : Operation → Document × σ
  | get position refresh => runAt (fun p channel => (p.get refresh channel).2) position state
  | set position value refresh =>
      runAt (fun p channel => (p.set value refresh channel).2) position state
  | read position => runAt (fun p channel => (p, (p.read.on channel).2)) position state
  | check position => runAt (fun p channel => (p, (p.check.on channel).2)) position state
  | refreshAll => (state.1.refresh state.2).2
  | checkAll => (state.1, (state.1.check.on state.2).2)

/-- The document and its channel after operations one after another. -/
def runAll (operations : List Operation) (state : Document × σ) : Document × σ :=
  operations.foldl run state

end Operation

/-! ## What an operation does -/

/-- The channel goes on, and each parameter is updated where it is. -/
structure Steps (start : σ) (mayKeep : Prop) (before after : Document × σ) : Prop where
  reaches : Reaches before.2 after.2
  updates : ∀ (position : Nat) p, before.1.parameters[position]? = some p →
    ∃ q, after.1.parameters[position]? = some q ∧ Updates start mayKeep p q

theorem parameters_replaceParameter (document : Document) (position : Nat) (q : Parameter) :
    (document.replaceParameter position q).parameters = document.parameters.set position q := by
  rcases document with ⟨items⟩
  change (Document.replaceIn q position items).filterMap Document.parameterOf? =
    (items.filterMap Document.parameterOf?).set position q
  induction items generalizing position with
  | nil => rfl
  | cons item items ih =>
      cases item with
      | literal text => exact ih position
      | parameter p =>
          cases position with
          | zero => rfl
          | succ position =>
              simpa [Document.replaceIn, Document.parameterOf?] using ih position

theorem steps_runAt (exchange : Parameter → σ → Parameter × σ) (position : Nat)
    (state : Document × σ)
    (hexchange : ∀ p, Reaches state.2 (exchange p state.2).2 ∧
      Updates start mayKeep p (exchange p state.2).1) :
    Steps start mayKeep state (Operation.runAt exchange position state) := by
  unfold Operation.runAt
  split
  · next p hp =>
      refine ⟨(hexchange p).1, ?_⟩
      intro other q hq
      simp only [parameters_replaceParameter, List.getElem?_set]
      by_cases hother : position = other
      · subst hother
        have hpq : p = q := Option.some.inj (hp.symm.trans hq)
        subst hpq
        have hlt : position < state.1.parameters.length := (List.getElem?_eq_some_iff.1 hp).1
        exact ⟨_, by simp [hlt], (hexchange p).2⟩
      · exact ⟨q, by simp [hother, hq], .same q⟩
  · exact ⟨.refl, fun _ q hq => ⟨q, hq, .same q⟩⟩

theorem updates_get {refresh : Bool} (hstart : Reaches start channel)
    (hkeeps : refresh = true → mayKeep) (p : Parameter) :
    Reaches channel (p.get refresh channel).2.2 ∧
      Updates start mayKeep p (p.get refresh channel).2.1 := by
  have hreaches := (Parameter.bySending_read p).reaches channel
  unfold Parameter.get
  cases hread : p.read.on channel with
  | mk result after =>
      simp only [hread] at hreaches
      cases result with
      | error error => exact ⟨hreaches, .same p⟩
      | ok value =>
          cases refresh with
          | false => exact ⟨hreaches, .same p⟩
          | true => exact ⟨hreaches, .kept (hkeeps rfl) hstart (congrArg (·.1) hread)⟩

theorem updates_set (value : String) (refresh : Bool) (p : Parameter) (channel : σ) :
    Reaches channel (p.set value refresh channel).2.2 ∧
      Updates start mayKeep p (p.set value refresh channel).2.1 := by
  unfold Parameter.set
  cases p.writeCommand value with
  | error error => exact ⟨.refl, .same p⟩
  | ok command =>
      have hreaches : Reaches channel (CommandChannel.command command channel).2 :=
        .single (.command command channel)
      simp only [Channel.on_send]
      generalize CommandChannel.command command channel = outcome at hreaches ⊢
      rcases outcome with ⟨error | reply, after⟩
      · exact ⟨hreaches, .same p⟩
      · cases refresh with
        | false => exact ⟨hreaches, .same p⟩
        | true => exact ⟨hreaches, .set p value⟩

theorem updates_refreshItems (items : List Item) (hstart : Reaches start channel)
    (hkeeps : mayKeep) (hp : (items.filterMap Document.parameterOf?)[position]? = some p) :
    ∃ q, ((Document.refreshItems items channel).2.1.filterMap
        Document.parameterOf?)[position]? = some q ∧ Updates start mayKeep p q := by
  induction items generalizing channel position with
  | nil => simp at hp
  | cons item items ih =>
      cases item with
      | literal text => exact ih hstart hp
      | parameter first =>
          have hnext := hstart.trans ((Parameter.bySending_read first).reaches channel)
          simp only [Document.refreshItems_parameter]
          cases hread : first.read.on channel with
          | mk result after =>
              simp only [hread] at hnext
              cases result with
              -- The items from a failure on stay as they are.
              | error error => exact ⟨p, hp, .same p⟩
              | ok value =>
                  cases position with
                  | zero =>
                      have hfirst : first = p := by simpa [Document.parameterOf?] using hp
                      subst hfirst
                      exact ⟨_, rfl, .kept hkeeps hstart (congrArg (·.1) hread)⟩
                  | succ position => exact ih hnext hp

theorem reaches_refresh (document : Document) (channel : σ) :
    Reaches channel (document.refresh channel).2.2 := by
  have hsent := (Document.bySending_checkItems document.items).reaches channel
  simp only [(Document.checkItems_predicts_refreshItems document.items channel).1] at hsent
  exact hsent

/-- Each operation updates each parameter, and only those that keep readings may keep one. -/
theorem steps_run {state : Document × σ} (operation : Operation) (hstart : Reaches start state.2)
    (hkeeps : operation.keepsReading = true → mayKeep) :
    Steps start mayKeep state (operation.run state) := by
  cases operation with
  | get position refresh =>
      exact steps_runAt (fun p channel => (p.get refresh channel).2) position state
        fun p => updates_get hstart hkeeps p
  | set position value refresh =>
      exact steps_runAt (fun p channel => (p.set value refresh channel).2) position state
        fun p => updates_set value refresh p state.2
  | read position =>
      exact steps_runAt (fun p channel => (p, (p.read.on channel).2)) position state
        fun p => ⟨(Parameter.bySending_read p).reaches state.2, .same p⟩
  | check position =>
      exact steps_runAt (fun p channel => (p, (p.check.on channel).2)) position state
        fun p => ⟨((Parameter.bySending_drift p).map Option.isNone).reaches state.2, .same p⟩
  | refreshAll =>
      exact ⟨reaches_refresh state.1 state.2, fun _ _ hp =>
        updates_refreshItems state.1.items hstart (hkeeps rfl) hp⟩
  | checkAll =>
      exact ⟨(Document.bySending_checkItems state.1.items).reaches state.2, fun _ p hp =>
        ⟨p, hp, .same p⟩⟩

/-! ## Runs -/

theorem commandValue_runAll {state : Document × σ} {operations : List Operation}
    (hstart : Reaches start state.2)
    (hkeeps : ∀ operation ∈ operations, operation.keepsReading = true → mayKeep)
    (hp : state.1.parameters[position]? = some (p.cached value)) (hkind : p.kind = .command)
    (hvalue : CommandValue start mayKeep value) :
    ∃ other, (Operation.runAll operations state).1.parameters[position]? = some (p.cached other) ∧
      CommandValue start mayKeep other := by
  induction operations generalizing state value with
  | nil => exact ⟨value, hp, hvalue⟩
  | cons operation operations ih =>
      simp only [List.forall_mem_cons] at hkeeps
      have hstep := steps_run operation hstart hkeeps.1
      rcases hstep.updates position _ hp with ⟨q, hq, hupdates⟩
      rcases hupdates.commandValue hkind hvalue with ⟨other, rfl, hother⟩
      exact ih (hstart.trans hstep.reaches) hkeeps.2 hq hother

/-- However the parameters of a document are used, a command stays as it was made, but for its
value: that is one, or a reply to its reading, trimmed, that some operation kept. -/
theorem command_value_after_run (document : Document) (channel : σ) (operations : List Operation)
    (position : Nat) (p : Parameter) (hp : document.parameters[position]? = some p)
    (hmade : IsMade p) (hkind : p.kind = .command) :
    ∃ value,
      (Operation.runAll operations (document, channel)).1.parameters[position]? =
        some (p.cached value) ∧
      CommandValue channel (∃ operation ∈ operations, operation.keepsReading = true) value := by
  have hone : document.parameters[position]? = some (p.cached "1") := by
    simpa only [Parameter.cached_of_value (hmade.value_eq hkind)] using hp
  exact commandValue_runAll .refl (fun operation hmem hkeeps => ⟨operation, hmem, hkeeps⟩) hone
    hkind .one

/-- Where every answer is one, the value stays one. -/
theorem command_value_after_run_answered :
    ∃ p, (Parser.standard.withAxes defaultAxes).parseLine "SHA" "a.cfg" 1 = .ok (.parameter p) ∧
      (Operation.runAll [.set 0 "0" true, .refreshAll, .get 0 true]
        (⟨[.parameter p]⟩, Channel.mk [("MG1", .ok " 1")] [] [])).1.parameters[0]? =
          some (p.cached "1") := by
  have hparse : (Parser.standard.withAxes defaultAxes).parseLine "SHA" "a.cfg" 1 =
      .ok (.parameter ⟨.command, "SHA", some "1", some defaultAxes, some ⟨"a.cfg", 1⟩⟩) := by
    rfl
  have hreplies : RepliesAre (fun reply => String.ofList (Text.trim reply.toList) = "1")
      (Channel.mk [("MG1", .ok " 1")] [] []) := by
    apply Channel.repliesAre_of_rows
    · intro row hrow reply hreply
      have hrow : row = ("MG1", .ok " 1") := by simpa using hrow
      subst hrow
      cases hreply
      decide +kernel
    · simp
  refine ⟨_, hparse, ?_⟩
  rcases command_value_after_run ⟨[.parameter _]⟩ (Channel.mk [("MG1", .ok " 1")] [] [])
    [.set 0 "0" true, .refreshAll, .get 0 true] 0 _ rfl
    (.parsed (usesStandardBuilders_standard defaultAxes) hparse) rfl with ⟨value, hvalue, hone⟩
  have hvalueOne : value = "1" := by
    cases hone with
    | one => rfl
    | reply _ hlater hreply => exact hreplies _ hlater _ _ hreply
  simpa only [hvalueOne] using hvalue

/-- A reply that writes one in another way takes its place, in a read of the parameter as well as in
a refresh of the document. -/
theorem command_value_replaced :
    (Operation.run (⟨[.parameter (.ofKind .command "MO")]⟩,
        Channel.mk [("MG1", .ok "1.0000")] [] []) (.get 0 true)).1.parameters.map (·.value) =
      [some "1.0000"] ∧
    (Operation.run (⟨[.parameter (.ofKind .command "MO")]⟩,
        Channel.mk [("MG1", .ok "1.0000")] [] []) .refreshAll).1.parameters.map (·.value) =
      [some "1.0000"] := by
  decide +kernel

end Settings
end MotionController
