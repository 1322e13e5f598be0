import Mathlib.Control.Monad.Basic
import Mathlib.Logic.Relation
import MotionController.Channel

/-!
# What exchanges do to a channel

An exchange that is put together from sending commands (`Session.BySending`) leads to a later state
of its channel. A channel is steady when every command is answered the same way at all times; such
an exchange then has the same result whenever it is carried out (`BySending.on_later`). A script
without queued replies is steady (`isSteady_of_queued_nil`).
-/

namespace MotionController

variable {σ α β : Type} {session : Session σ α} {channel later : σ}

/-! ## Results of exchanges -/

namespace Session

@[simp] theorem on_pure (a : α) (channel : σ) :
    (pure a : Session σ α).on channel = (.ok a, channel) :=
  rfl

theorem on_bind (session : Session σ α) (next : α → Session σ β) (channel : σ) :
    (session >>= next).on channel =
      match session.on channel with
      | (.ok a, after) => (next a).on after
      | (.error error, after) => (.error error, after) := by
  change StateT.bind session (ExceptT.bindCont next) channel = _
  unfold StateT.bind on ExceptT.run StateT.run
  simp only [bind]
  rcases session channel with ⟨result, after⟩
  cases result <;> rfl

theorem on_map (f : α → β) (session : Session σ α) (channel : σ) :
    (f <$> session).on channel = ((session.on channel).1.map f, (session.on channel).2) := by
  have hbind : f <$> session = session >>= fun a => pure (f a) := rfl
  simp only [hbind, on_bind]
  rcases session.on channel with ⟨result, after⟩
  cases result <;> rfl

/-- What an exchange of two parts gives, the second part gives after the first one. -/
theorem on_bind_eq_ok {next : α → Session σ β} {b : β}
    (h : ((session >>= next).on channel).1 = .ok b) :
    ∃ a after, (session.on channel).1 = .ok a ∧ ((next a).on after).1 = .ok b := by
  rw [on_bind] at h
  generalize session.on channel = outcome at h ⊢
  rcases outcome with ⟨error | a, after⟩
  · cases h
  · exact ⟨a, after, rfl, h⟩

@[simp] theorem on_attempt (session : Session σ α) (channel : σ) :
    session.attempt.on channel = (.ok (session.on channel).1, (session.on channel).2) :=
  rfl

end Session

variable [CommandChannel σ]

@[simp] theorem Channel.on_send (command : String) (channel : σ) :
    (Channel.send command).on channel = CommandChannel.command command channel :=
  rfl

@[simp] theorem Channel.on_sendForValue (command : String) (channel : σ) :
    (Channel.sendForValue command).on channel = CommandChannel.commandValue command channel :=
  rfl

/-! ## Later states -/

/-- One command is sent, in either way. -/
inductive Sends : σ → σ → Prop where
  | command (text : String) (channel : σ) : Sends channel (CommandChannel.command text channel).2
  | value (text : String) (channel : σ) : Sends channel (CommandChannel.commandValue text channel).2

/-- Commands are sent, any number of them. -/
abbrev Reaches : σ → σ → Prop :=
  Relation.ReflTransGen Sends

namespace Session

/-- The exchange is put together from sending commands, and touches the channel in no other way. -/
inductive BySending : {α : Type} → Session σ α → Prop where
  | pure {α : Type} (a : α) : BySending (Pure.pure a)
  | send (command : String) : BySending (Channel.send command)
  | sendForValue (command : String) : BySending (Channel.sendForValue command)
  | attempt {α : Type} {session : Session σ α} (h : BySending session) : BySending session.attempt
  | bind {α β : Type} {session : Session σ α} {next : α → Session σ β} (h : BySending session)
      (hnext : ∀ a, BySending (next a)) : BySending (session >>= next)

theorem BySending.map (f : α → β) (h : session.BySending) : (f <$> session).BySending :=
  h.bind fun a => .pure (f a)

theorem BySending.reaches (h : session.BySending) (channel : σ) :
    Reaches channel (session.on channel).2 := by
  induction h generalizing channel with
  | pure a => exact .refl
  | send command => exact .single (.command command channel)
  | sendForValue command => exact .single (.value command channel)
  | attempt _ ih => exact ih channel
  | @bind _ _ session next _ _ ih ihnext =>
      have hfirst := ih channel
      simp only [on_bind]
      generalize session.on channel = outcome at hfirst ⊢
      rcases outcome with ⟨error | a, after⟩
      · exact hfirst
      · exact hfirst.trans (ihnext a after)

end Session

/-! ## Steady channels -/

/-- Every command is answered now as it is at every later time. -/
structure IsSteady (channel : σ) : Prop where
  command : ∀ later, Reaches channel later → ∀ text,
    (CommandChannel.command text later).1 = (CommandChannel.command text channel).1
  value : ∀ later, Reaches channel later → ∀ text,
    (CommandChannel.commandValue text later).1 = (CommandChannel.commandValue text channel).1

/-- Over a steady channel an exchange has the same result at every time. -/
theorem Session.BySending.on_later (h : session.BySending) (hsteady : IsSteady channel)
    (hlater : Reaches channel later) : (session.on later).1 = (session.on channel).1 := by
  induction h generalizing later with
  | pure a => rfl
  | send command => exact hsteady.command later hlater command
  | sendForValue command => exact hsteady.value later hlater command
  | attempt _ ih =>
      simp only [on_attempt, ih hlater]
  | @bind _ _ session next hfirst _ ih ihnext =>
      have hsame := ih hlater
      have hnow := hfirst.reaches channel
      have hthen := hlater.trans (hfirst.reaches later)
      simp only [on_bind]
      generalize session.on channel = outcome at hsame hnow ⊢
      generalize session.on later = outcomeLater at hsame hthen ⊢
      -- Both exchanges go on with the same result, each in a state that is later than `channel`.
      rcases outcome with ⟨result, after⟩
      rcases outcomeLater with ⟨resultLater, afterLater⟩
      obtain rfl : resultLater = result := hsame
      cases resultLater with
      | error error => rfl
      | ok a => exact (ihnext a hthen).trans (ihnext a hnow).symm

/-! ## Replies of a kind -/

/-- Every reply is of the kind, now and later. -/
def RepliesAre (isOfKind : String → Prop) (channel : σ) : Prop :=
  ∀ later, Reaches channel later → ∀ command reply,
    (CommandChannel.command command later).1 = .ok reply → isOfKind reply

theorem RepliesAre.of_reaches {isOfKind : String → Prop} (h : RepliesAre isOfKind channel)
    (hlater : Reaches channel later) : RepliesAre isOfKind later :=
  fun _ hreach => h _ (hlater.trans hreach)

/-! ## Scripts -/

deriving instance DecidableEq for Channel

namespace Channel

variable {script after : Channel}

/-- What no answer ends stays as it is. -/
theorem reaches_invariant {P : Channel → Prop}
    (hanswer : ∀ (channel : Channel) text, P channel → P (channel.answer text).2)
    (hreaches : Reaches script after) (h : P script) : P after := by
  induction hreaches with
  | refl => exact h
  | tail _ hsend ih =>
      cases hsend with
      | command text => exact hanswer _ text ih
      | value text => exact hanswer _ text ih

theorem fixed_of_reaches (h : Reaches script after) : after.fixed = script.fixed := by
  apply reaches_invariant (P := fun channel => channel.fixed = script.fixed) _ h rfl
  intro channel text hfixed
  unfold answer
  dsimp only
  split <;> exact hfixed

/-- Queued replies are used up and none are added. -/
theorem queued_subset_of_reaches (h : Reaches script after) : after.queued ⊆ script.queued := by
  apply reaches_invariant (P := fun channel => channel.queued ⊆ script.queued) _ h
  · exact List.Subset.refl _
  · intro channel text hqueued
    unfold answer
    dsimp only
    split
    · exact List.Subset.trans List.eraseP_subset hqueued
    · exact hqueued

/-- A script without queued replies answers every command the same way at all times. -/
theorem isSteady_of_queued_nil (h : script.queued = []) : IsSteady script := by
  have hfixed : ∀ (channel : Channel) text, channel.queued = [] →
      (channel.answer text).1 = channel.fixedAnswer text := by
    intro channel text hnil
    simp [answer, hnil]
  have hanswer : ∀ later, Reaches script later → ∀ text,
      (later.answer text).1 = (script.answer text).1 := by
    intro later hlater text
    have hqueued := queued_subset_of_reaches hlater
    rw [h] at hqueued
    rw [hfixed later text (List.subset_nil.1 hqueued), hfixed script text h]
    unfold fixedAnswer
    rw [fixed_of_reaches hlater]
  constructor
  · exact hanswer
  · intro later hlater text
    change ((later.answer text).1.bind _) = ((script.answer text).1.bind _)
    rw [hanswer later hlater text]

/-- The replies of a script are those of its rows. -/
theorem repliesAre_of_rows {isOfKind : String → Prop}
    (hfixed : ∀ row ∈ script.fixed, ∀ reply, row.2 = .ok reply → isOfKind reply)
    (hqueued : ∀ row ∈ script.queued, isOfKind row.2) : RepliesAre isOfKind script := by
  intro later hlater command reply hreply
  change (later.answer command).1 = .ok reply at hreply
  unfold answer at hreply
  dsimp only at hreply
  split at hreply
  · next row hrow =>
      cases hreply
      exact hqueued row (queued_subset_of_reaches hlater (List.mem_of_find?_eq_some hrow))
  · unfold fixedAnswer at hreply
    rw [fixed_of_reaches hlater] at hreply
    split at hreply
    · next row hrow => exact hfixed row (List.mem_of_find?_eq_some hrow) reply hreply
    · cases hreply

end Channel
end MotionController
