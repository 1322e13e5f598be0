import MotionController.Proofs.Channel.Planned

/-!
# Histories of scripts

Rows may be added to a script at any time, also between the commands that are sent over it. What has
happened to a script is its history, the latest event first (`scriptAfter`). Of the replies queued
for a command each sending takes one, the oldest first, as long as there is one (`taken`). So the
history of a command says what it is answered (`IsDue`, `script_answers_in_turn`).
-/

namespace MotionController
namespace Channel

/-! ## Histories -/

/-- What happens to a script: a row is added to it, or a command is sent over it, for its reply or
for a number. -/
inductive Event where
  | reply (command reply : String)
  | fail (command : String) (error : DeviceError)
  | queue (command reply : String)
  | call (command : String)
  | callForValue (command : String)
  deriving DecidableEq, Repr

namespace Event

/-- The command that the event is about. -/
def about : Event → String
  | reply command _ | fail command _ | queue command _ | call command | callForValue command =>
      command

/-- The command that is sent. -/
def called? : Event → Option String
  | call command | callForValue command => some command
  | _ => none

/-- The reply that is queued for a command. -/
def queued? (command : String) : Event → Option String
  | queue other text => if other = command then some text else none
  | _ => none

/-- The answer that is fixed for a command. -/
def fixed? (command : String) : Event → Option (Except DeviceError String)
  | reply other text => if other = command then some (.ok text) else none
  | fail other error => if other = command then some (.error error) else none
  | _ => none

end Event

/-- The script after an event. -/
def after (script : Channel) : Event → Channel
  | .reply command reply => script.reply command reply
  | .fail command error => script.fail command error
  | .queue command reply => script.queue command reply
  | .call command => (CommandChannel.command command script).2
  | .callForValue command => (CommandChannel.commandValue command script).2

/-- The script that an empty one has become, the latest event first. -/
def scriptAfter : (past : List Event) → Channel
  | [] => {}
  | event :: past => (scriptAfter past).after event

/-! ## The view -/

/-- The commands sent, in order. -/
def calls (past : List Event) : List String :=
  (past.filterMap Event.called?).reverse

/-- The replies queued for a command, the oldest first. -/
def queuedFor (command : String) (past : List Event) : List String :=
  (past.filterMap (Event.queued? command)).reverse

/-- The number of replies queued for a command that are used up: each sending of the command takes
one more, if there is one. -/
def taken (command : String) : (past : List Event) → Nat
  | [] => 0
  | event :: past =>
      if event.called? = some command then
        min (taken command past + 1) (queuedFor command past).length
      else
        taken command past

/-- What a command is to be answered. -/
inductive IsDue (past : List Event) (command : String) : Except DeviceError String → Prop where
  /-- The oldest queued reply that is not used up. -/
  | queued {reply : String} (h : (queuedFor command past)[taken command past]? = some reply) :
      IsDue past command (.ok reply)
  /-- The answer that was fixed last, if all queued replies are used up. -/
  | fixed {answer : Except DeviceError String}
      (hqueued : (queuedFor command past)[taken command past]? = none)
      (h : past.findSome? (Event.fixed? command) = some answer) : IsDue past command answer
  /-- A rejection, if no answer was fixed either. -/
  | unrecognized (hqueued : (queuedFor command past)[taken command past]? = none)
      (h : past.findSome? (Event.fixed? command) = none) :
      IsDue past command (.error (.rejected command "unrecognized command"))

/-- The events of a history that are about a command. -/
def pastOf (command : String) (past : List Event) : List Event :=
  past.filter fun event => event.about == command

/-- The replies in the rows for a command, in order. -/
def repliesFor (command : String) (rows : List (String × String)) : List String :=
  (rows.filter fun row => row.1 == command).map (·.2)

/-- What a script does after its history. -/
structure AnswersInTurn (past : List Event) (script : Channel) : Prop where
  answer : ∀ command, IsDue past command (CommandChannel.command command script).1
  /-- A number is read off that answer. Whether it is one or not, the script goes on alike. -/
  value : ∀ command, CommandChannel.commandValue command script =
    ((CommandChannel.command command script).1.bind (numberIn command),
      (CommandChannel.command command script).2)
  /-- No queued reply is lost and none is used twice. -/
  left : ∀ command,
    repliesFor command script.queued = (queuedFor command past).drop (taken command past)
  /-- What happens about other commands makes no difference. -/
  alone : ∀ command, (CommandChannel.command command script).1 =
    (CommandChannel.command command (scriptAfter (pastOf command past))).1
  sent : script.sent = calls past

/-! ## Answers of a script -/

theorem repliesFor_append (command : String) (rows more : List (String × String)) :
    repliesFor command (rows ++ more) = repliesFor command rows ++ repliesFor command more := by
  simp [repliesFor]

/-- A row that is taken away is the first one for its command. -/
theorem repliesFor_eraseP (command other : String) (rows : List (String × String)) :
    repliesFor other (rows.eraseP fun row => row.1 == command) =
      if command = other then (repliesFor other rows).tail else repliesFor other rows := by
  induction rows with
  | nil => simp [repliesFor]
  | cons row rows ih =>
      by_cases hrow : row.1 = command
      · by_cases hother : command = other <;> simp [repliesFor, hrow, hother]
      · by_cases hother : command = other
        · subst hother
          simpa [repliesFor, hrow] using ih
        · have hskip : (row :: rows).eraseP (fun row => row.1 == command) =
              row :: rows.eraseP fun row => row.1 == command := by
            simp [hrow]
          simp only [hother, if_false, hskip] at ih ⊢
          simp only [repliesFor, List.filter_cons] at ih ⊢
          split <;> simp [ih]

/-- Sending a command takes the first reply that is queued for it. -/
theorem repliesFor_answer (script : Channel) (command other : String) :
    repliesFor other (script.answer command).2.queued =
      if command = other then (repliesFor other script.queued).tail
      else repliesFor other script.queued := by
  simp only [answer]
  split
  · exact repliesFor_eraseP command other script.queued
  · next hnone =>
      -- There is none, so nothing is taken.
      by_cases hother : command = other
      · subst hother
        have hnil : repliesFor command script.queued = [] := by
          simpa [repliesFor] using hnone
        simp [hnil]
      · simp [hother]

theorem fst_answer (script : Channel) (command : String) :
    (script.answer command).1 =
      ((repliesFor command script.queued).head?.map .ok).getD (script.fixedAnswer command) := by
  have hhead : (repliesFor command script.queued).head? =
      (script.queued.find? fun row => row.1 == command).map (·.2) := by
    simp [repliesFor]
  simp only [answer, hhead]
  split <;> simp [*]

theorem fixed_answer (script : Channel) (command : String) :
    (script.answer command).2.fixed = script.fixed := by
  simp only [answer]
  split <;> rfl

/-! ## What a history leads to -/

variable {past : List Event} {event : Event} {command : String}

@[simp] theorem scriptAfter_call (command : String) (past : List Event) :
    scriptAfter (.call command :: past) = ((scriptAfter past).answer command).2 :=
  rfl

@[simp] theorem scriptAfter_callForValue (command : String) (past : List Event) :
    scriptAfter (.callForValue command :: past) = ((scriptAfter past).answer command).2 :=
  rfl

theorem sent_scriptAfter (past : List Event) : (scriptAfter past).sent = calls past := by
  induction past with
  | nil => rfl
  | cons event past ih =>
      cases event with
      | reply other text | fail other error | queue other text => exact ih
      | call other | callForValue other => simp [sent_answer, ih, calls, Event.called?]

/-- The answer that stays for a command is the one that was fixed last. -/
theorem find?_fixed_scriptAfter (command : String) (past : List Event) :
    ((scriptAfter past).fixed.find? fun row => row.1 == command).map (·.2) =
      past.findSome? (Event.fixed? command) := by
  induction past with
  | nil => rfl
  | cons event past ih =>
      simp only [List.findSome?_cons]
      cases event with
      | reply other text =>
          by_cases h : other = command <;>
            simp [scriptAfter, Channel.after, Channel.reply, Event.fixed?, h, ih]
      | fail other error =>
          by_cases h : other = command <;>
            simp [scriptAfter, Channel.after, Channel.fail, Event.fixed?, h, ih]
      | queue other text => exact ih
      | call other | callForValue other => simpa [fixed_answer, Event.fixed?] using ih

theorem queuedFor_cons (command : String) (event : Event) (past : List Event) :
    queuedFor command (event :: past) =
      queuedFor command past ++ (event.queued? command).toList := by
  cases h : event.queued? command <;> simp [queuedFor, h]

theorem taken_le_length (command : String) (past : List Event) :
    taken command past ≤ (queuedFor command past).length := by
  induction past with
  | nil => exact Nat.le_refl _
  | cons event past ih =>
      simp only [taken, queuedFor_cons, List.length_append]
      split <;> omega

/-- The replies left for a command are those queued for it, without the ones that are used up. -/
theorem repliesFor_scriptAfter (command : String) (past : List Event) :
    repliesFor command (scriptAfter past).queued =
      (queuedFor command past).drop (taken command past) := by
  induction past with
  | nil => rfl
  | cons event past ih =>
      have hle := taken_le_length command past
      cases event with
      | reply other text | fail other error =>
          simp only [queuedFor_cons, taken, Event.called?, Event.queued?, Option.toList_none,
            List.append_nil]
          exact ih
      | queue other text =>
          -- The new reply stands behind those left, and as many are used up as before.
          have hrow : repliesFor command [(other, text)] =
              ((Event.queue other text).queued? command).toList := by
            by_cases h : other = command <;> simp [repliesFor, Event.queued?, h]
          simp [scriptAfter, Channel.after, Channel.queue, taken, Event.called?, queuedFor_cons,
            repliesFor_append, ih, hrow, List.drop_append_of_le_length hle]
      | call other | callForValue other =>
          -- One more is used up, unless none is left.
          have hlast : ∀ n, (queuedFor command past).drop (min n (queuedFor command past).length) =
              (queuedFor command past).drop n := by
            intro n
            rcases Nat.le_total n (queuedFor command past).length with h | h
            · rw [Nat.min_eq_left h]
            · rw [Nat.min_eq_right h, List.drop_length, List.drop_of_length_le h]
          simp only [scriptAfter_call, scriptAfter_callForValue, repliesFor_answer, ih, taken,
            Event.called?, queuedFor_cons, Event.queued?, Option.toList_none, List.append_nil]
          by_cases h : other = command <;> simp [h, hlast]

theorem fixedAnswer_scriptAfter (command : String) (past : List Event) :
    (scriptAfter past).fixedAnswer command =
      (past.findSome? (Event.fixed? command)).getD
        (.error (.rejected command "unrecognized command")) := by
  simp only [fixedAnswer, ← find?_fixed_scriptAfter]
  split <;> simp [*]

/-- A script answers what is due. -/
theorem isDue_answer (past : List Event) (command : String) :
    IsDue past command ((scriptAfter past).answer command).1 := by
  simp only [fst_answer, repliesFor_scriptAfter, List.head?_drop, fixedAnswer_scriptAfter]
  cases hqueued : (queuedFor command past)[taken command past]? with
  | some reply => exact .queued hqueued
  | none =>
      cases hfixed : past.findSome? (Event.fixed? command) with
      | some answer => exact .fixed hqueued hfixed
      | none => exact .unrecognized hqueued hfixed

theorem IsDue.unique {first second : Except DeviceError String} (hfirst : IsDue past command first)
    (hsecond : IsDue past command second) : first = second := by
  cases hfirst with
  | queued h =>
      cases hsecond with
      | queued h' => simpa [h] using h'
      | fixed hqueued _ | unrecognized hqueued _ => simp [h] at hqueued
  | fixed hqueued h =>
      cases hsecond with
      | queued h' => simp [hqueued] at h'
      | fixed _ h' => simpa [h] using h'
      | unrecognized _ h' => simp [h] at h'
  | unrecognized hqueued h =>
      cases hsecond with
      | queued h' => simp [hqueued] at h'
      | fixed _ h' => simp [h] at h'
      | unrecognized _ _ => rfl

/-! ## Histories of one command -/

theorem Event.of_about_ne (h : event.about ≠ command) :
    event.called? ≠ some command ∧ event.queued? command = none ∧ event.fixed? command = none := by
  cases event <;> simp_all [about, called?, queued?, fixed?]

theorem pastOf_cons_of_ne (h : event.about ≠ command) :
    pastOf command (event :: past) = pastOf command past := by
  simp [pastOf, h]

theorem pastOf_cons_of_eq (h : event.about = command) :
    pastOf command (event :: past) = event :: pastOf command past := by
  simp [pastOf, h]

theorem queuedFor_pastOf (command : String) (past : List Event) :
    queuedFor command (pastOf command past) = queuedFor command past := by
  induction past with
  | nil => rfl
  | cons event past ih =>
      by_cases h : event.about = command
      · simp only [pastOf_cons_of_eq h, queuedFor_cons, ih]
      · simp [pastOf_cons_of_ne h, queuedFor_cons, ih, (Event.of_about_ne h).2.1]

theorem taken_pastOf (command : String) (past : List Event) :
    taken command (pastOf command past) = taken command past := by
  induction past with
  | nil => rfl
  | cons event past ih =>
      by_cases h : event.about = command
      · simp only [pastOf_cons_of_eq h, taken, queuedFor_pastOf, ih]
      · simp [pastOf_cons_of_ne h, taken, ih, (Event.of_about_ne h).1]

theorem findSome?_fixed_pastOf (command : String) (past : List Event) :
    (pastOf command past).findSome? (Event.fixed? command) =
      past.findSome? (Event.fixed? command) := by
  induction past with
  | nil => rfl
  | cons event past ih =>
      by_cases h : event.about = command
      · simp only [pastOf_cons_of_eq h, List.findSome?_cons, ih]
      · simp only [pastOf_cons_of_ne h, List.findSome?_cons, ih, (Event.of_about_ne h).2.2]

/-- What is due to a command depends on the events about it only. -/
theorem IsDue.of_pastOf {answer : Except DeviceError String}
    (h : IsDue (pastOf command past) command answer) : IsDue past command answer := by
  have hunused : (queuedFor command (pastOf command past))[taken command (pastOf command past)]? =
      (queuedFor command past)[taken command past]? := by
    simp only [queuedFor_pastOf, taken_pastOf]
  have hfixed := findSome?_fixed_pastOf command past
  cases h with
  | queued h => exact .queued (hunused ▸ h)
  | fixed hqueued h => exact .fixed (hunused ▸ hqueued) (hfixed ▸ h)
  | unrecognized hqueued h => exact .unrecognized (hunused ▸ hqueued) (hfixed ▸ h)

/-- Whatever rows are added to an empty script and whatever commands are sent over it, each command
is answered in turn. -/
theorem script_answers_in_turn (past : List Event) : AnswersInTurn past (scriptAfter past) where
  answer := isDue_answer past
  value := fun _ => rfl
  left := fun command => repliesFor_scriptAfter command past
  alone := by
    intro command
    have hfew := isDue_answer (pastOf command past) command
    exact (isDue_answer past command).unique hfew.of_pastOf
  sent := sent_scriptAfter past

example :
    let past : List Event :=
      [.queue "MG x" "1", .callForValue "MG x", .queue "MG x" "on", .call "MG x", .reply "MG x" "2"]
    ((scriptAfter past).answer "MG x").1 = .ok "1" ∧ taken "MG x" past = 1 := by
  decide

end Channel
end MotionController
