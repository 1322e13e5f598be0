import MotionController.Proofs.Channel.Planned

/-!
# Exchanges that follow a plan

Over a script an exchange follows a plan when it sends the commands of the plan in order and no
others: all of them if it succeeds, and those up to the one that failed if it fails
(`Session.Follows`). Exchanges that follow plans one after another follow the plans put together
(`Session.Follows.bind`), so that a planned exchange follows its plan (`Session.Planned.follows`).
Exchanges cannot fail if none of their parts can (`Session.NeverFails.bind`).
-/

namespace MotionController

variable {α β : Type} {script middle after : Channel} {plan rest : List String}
variable {command : String} {error : DeviceError}

namespace Channel

/-! ## Commands that fail -/

/-- Sending the command, for its reply or for a number, fails. -/
inductive FailsOn (command : String) (script : Channel) (error : DeviceError) (after : Channel) :
    Prop where
  | reply (h : CommandChannel.command command script = (.error error, after))
  | value (h : CommandChannel.commandValue command script = (.error error, after))

theorem FailsOn.sent_eq (h : FailsOn command script error after) :
    after.sent = script.sent ++ [command] := by
  have hafter : (script.answer command).2 = after := by
    cases h with
    | reply h => exact congrArg Prod.snd h
    | value h => exact congrArg Prod.snd h
  simpa only [hafter] using sent_answer script command

theorem FailsOn.reaches (h : FailsOn command script error after) : Reaches script after := by
  cases h with
  | reply h => simpa only [h] using Relation.ReflTransGen.single (Sends.command command script)
  | value h => simpa only [h] using Relation.ReflTransGen.single (Sends.value command script)

/-! ## Plans that are not carried out -/

/-- The commands of the plan are sent one after another up to one that fails, and none is sent
behind it. -/
inductive StopsIn (plan : List String) (script : Channel) (error : DeviceError) (after : Channel) :
    Prop where
  | intro {asked unasked : List String} {failed : String} {last : Channel}
      (hplan : plan = asked ++ failed :: unasked) (hlast : Reaches script last)
      (hasked : last.sent = script.sent ++ asked) (hfails : FailsOn failed last error after)
      (hsent : after.sent = script.sent ++ (asked ++ [failed])) : StopsIn plan script error after

theorem stopsIn_of_failsOn (h : FailsOn command script error after) :
    StopsIn [command] script error after := by
  have hplan : [command] = [] ++ command :: [] := rfl
  exact .intro hplan .refl (List.append_nil _).symm h h.sent_eq

theorem StopsIn.reaches (h : StopsIn plan script error after) : Reaches script after := by
  cases h with
  | intro _ hlast _ hfails _ => exact hlast.trans hfails.reaches

theorem StopsIn.append (h : StopsIn plan script error after) (rest : List String) :
    StopsIn (plan ++ rest) script error after := by
  cases h with
  | @intro asked unasked failed last hplan hlast hasked hfails hsent =>
      have hplan' : plan ++ rest = asked ++ failed :: (unasked ++ rest) := by
        simp [hplan]
      exact .intro hplan' hlast hasked hfails hsent

/-- A plan may stop behind another one that was carried out. -/
theorem StopsIn.behind (h : StopsIn rest middle error after) (hmiddle : Reaches script middle)
    (hsent : middle.sent = script.sent ++ plan) : StopsIn (plan ++ rest) script error after := by
  cases h with
  | @intro asked unasked failed last hplan hlast hasked hfails hstop =>
      have hplan' : plan ++ rest = (plan ++ asked) ++ failed :: unasked := by
        simp [hplan]
      exact .intro hplan' (hmiddle.trans hlast) (by simp [hasked, hsent]) hfails
        (by simp [hstop, hsent])

/-- A plan of one command stops only when all of it was sent. -/
theorem StopsIn.sent_eq (h : StopsIn [command] script error after) :
    after.sent = script.sent ++ [command] := by
  cases h with
  | @intro asked _ _ _ hplan _ _ _ hsent =>
      cases asked with
      | nil =>
          simp only [List.nil_append, List.cons.injEq] at hplan
          simpa [hplan.1] using hsent
      | cons first others => simp at hplan

end Channel

/-! ## Following a plan -/

namespace Session

/-- How an exchange ends that was to send the commands of a plan: they were all sent, or the last
one that was sent failed. -/
inductive EndsIn (plan : List String) (script : Channel) :
    Except DeviceError α × Channel → Prop where
  | done {a : α} {after : Channel} (hreaches : Reaches script after)
      (hsent : after.sent = script.sent ++ plan) : EndsIn plan script (.ok a, after)
  | stopped {error : DeviceError} {after : Channel}
      (h : Channel.StopsIn plan script error after) : EndsIn plan script (.error error, after)

/-- The exchange sends the commands of the plan in order, up to the first one that fails it. -/
def Follows (plan : List String) (session : Session Channel α) : Prop :=
  ∀ script, EndsIn plan script (session.on script)

variable {session : Session Channel α} {next : α → Session Channel β}

theorem follows_pure (a : α) : Follows [] (pure a) :=
  fun script => .done .refl (List.append_nil script.sent).symm

theorem endsIn_of_answer {result : Except DeviceError α} (hsends : Sends script after)
    (hsent : after.sent = script.sent ++ [command])
    (hfails : ∀ error, result = .error error → Channel.FailsOn command script error after) :
    EndsIn [command] script (result, after) := by
  cases result with
  | ok a => exact .done (.single hsends) hsent
  | error error => exact .stopped (Channel.stopsIn_of_failsOn (hfails error rfl))

theorem follows_send (command : String) : Follows [command] (Channel.send command) := by
  intro script
  apply endsIn_of_answer (.command command script) (Channel.sent_answer script command)
  intro error herror
  exact .reply (Prod.ext herror rfl)

theorem follows_sendForValue (command : String) :
    Follows [command] (Channel.sendForValue command) := by
  intro script
  apply endsIn_of_answer (.value command script) (Channel.sent_answer script command)
  intro error herror
  exact .value (Prod.ext herror rfl)

/-- A single command is sent whether or not it fails. -/
theorem Follows.attempt (h : Follows [command] session) : Follows [command] session.attempt := by
  intro script
  have hends := h script
  simp only [on_attempt]
  generalize session.on script = outcome at hends ⊢
  cases hends with
  | done hreaches hsent => exact .done hreaches hsent
  | stopped h => exact .done h.reaches h.sent_eq

theorem Follows.bind (h : Follows plan session) (hnext : ∀ a, Follows rest (next a)) :
    Follows (plan ++ rest) (session >>= next) := by
  intro script
  have hends := h script
  simp only [on_bind]
  generalize session.on script = outcome at hends ⊢
  cases hends with
  | stopped h => exact .stopped (h.append rest)
  | @done a middle hreaches hsent =>
      -- The second plan is carried out, or stops, behind the whole first one.
      have hthen := hnext a middle
      simp only
      generalize (next a).on middle = outcome at hthen ⊢
      cases hthen with
      | done hreaches' hsent' => exact .done (hreaches.trans hreaches') (by simp [hsent', hsent])
      | stopped h => exact .stopped (h.behind hreaches hsent)

theorem Asks.follows (h : Asks command session) : Follows [command] session := by
  cases h with
  | reply => exact follows_send command
  | value => exact follows_sendForValue command

theorem Planned.follows (h : Planned plan session) : Follows plan session := by
  induction h with
  | pure a => exact follows_pure a
  | ask h => exact h.follows
  | attempt h => exact h.follows.attempt
  | bind _ _ ih ihnext => exact ih.bind ihnext

/-! ## Exchanges without failure -/

/-- The exchange succeeds, whatever is answered. -/
def NeverFails (session : Session Channel α) : Prop :=
  ∀ script, ∃ a after, session.on script = (.ok a, after)

theorem neverFails_pure (a : α) : NeverFails (pure a) :=
  fun script => ⟨a, script, rfl⟩

theorem neverFails_attempt (session : Session Channel α) : NeverFails session.attempt :=
  fun script => ⟨_, _, on_attempt session script⟩

theorem NeverFails.bind (h : NeverFails session) (hnext : ∀ a, NeverFails (next a)) :
    NeverFails (session >>= next) := by
  intro script
  rcases h script with ⟨a, middle, hfirst⟩
  rcases hnext a middle with ⟨b, after, hthen⟩
  exact ⟨b, after, by simp only [on_bind, hfirst, hthen]⟩

theorem NeverFails.map (f : α → β) (h : NeverFails session) : NeverFails (f <$> session) :=
  h.bind fun a => neverFails_pure (f a)

end Session
end MotionController
