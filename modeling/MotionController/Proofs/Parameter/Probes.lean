import MotionController.Proofs.Parameter.Reading

/-!
# Asking several questions

All questions about a set of axes are asked, and what comes of it are the labels of those that are
answered by a number other than zero (`on_askFlags`). The questions about a list of numbers are
asked until one of them fails (`asksUntilFailure_askAll`).
-/

namespace MotionController
namespace Parameter

open RecordingChannel (sent)

variable {σ : Type} [CommandChannel σ] {channel after : σ} {values : List Binary64}

/-! ## Answers -/

/-- The answers to commands that are sent one after another for a number each, whether or not one of
them fails, and the channel after them. -/
def answersTo : (commands : List String) → (channel : σ) → List (Except DeviceError Binary64) × σ
  | [], channel => ([], channel)
  | command :: commands, channel =>
      let (answer, next) := CommandChannel.commandValue command channel
      let (answers, last) := answersTo commands next
      (answer :: answers, last)

theorem length_answersTo (commands : List String) (channel : σ) :
    (answersTo commands channel).1.length = commands.length := by
  induction commands generalizing channel with
  | nil => rfl
  | cons command commands ih => simp [answersTo, ih]

theorem length_of_answersTo_eq {commands : List String}
    (h : answersTo commands channel = (values.map .ok, after)) :
    values.length = commands.length := by
  simpa [h] using length_answersTo commands channel

theorem sent_answersTo [RecordingChannel σ] (commands : List String) (channel : σ) :
    sent (answersTo commands channel).2 = sent channel ++ commands := by
  induction commands generalizing channel with
  | nil => exact (List.append_nil _).symm
  | cons command commands ih =>
      have hsent := RecordingChannel.sent_commandValue command channel
      simp [answersTo, ih, hsent]

/-- The first answers do not depend on what is asked behind them. -/
theorem answersTo_append (asked rest : List String) (channel : σ) :
    (answersTo (asked ++ rest) channel).1 =
      (answersTo asked channel).1 ++ (answersTo rest (answersTo asked channel).2).1 := by
  induction asked generalizing channel with
  | nil => rfl
  | cons command asked ih => simp [answersTo, ih]

/-! ## Questions that are all asked -/

/-- The answer is a number other than zero. -/
def isFlagSet : Except DeviceError Binary64 → Bool
  | .ok flag => flag.isNonzero
  | .error _ => false

/-- The labels of the questions that are answered by a number other than zero, in order. -/
def labelsSet (questions : List Probe) (answers : List (Except DeviceError Binary64)) :
    List String :=
  ((questions.zip answers).filter fun asked => isFlagSet asked.2).map (·.1.label)

theorem labelsSet_subset (questions : List Probe) (answers : List (Except DeviceError Binary64)) :
    labelsSet questions answers ⊆ questions.map (·.label) := by
  intro label hlabel
  simp only [labelsSet, List.mem_map, List.mem_filter] at hlabel
  rcases hlabel with ⟨asked, ⟨hasked, -⟩, rfl⟩
  exact List.mem_map_of_mem (List.of_mem_zip hasked).1

/-- All questions are asked, whatever is answered. -/
theorem on_askFlags (questions : List Probe) (channel : σ) :
    (askFlags questions).on channel =
      (.ok (labelsSet questions (answersTo (questions.map (·.command)) channel).1),
        (answersTo (questions.map (·.command)) channel).2) := by
  induction questions generalizing channel with
  | nil => rfl
  | cons question questions ih =>
      simp only [askFlags, Session.on_bind, Session.on_attempt, Channel.on_sendForValue, ih,
        List.map_cons, answersTo]
      generalize CommandChannel.commandValue question.command channel = answered
      rcases answered with ⟨error | flag, next⟩
      · rfl
      · cases hflag : flag.isNonzero <;> simp [labelsSet, isFlagSet, hflag]

theorem subset_askFlags {questions : List Probe} {labels : List String}
    (h : ((askFlags questions).on channel).1 = .ok labels) :
    labels ⊆ questions.map (·.label) := by
  simp only [on_askFlags, Except.ok.injEq] at h
  exact h ▸ labelsSet_subset questions _

/-! ## Questions that are asked until one fails -/

/-- How commands end that are sent for a number each until one of them fails. -/
inductive AsksUntilFailure (commands : List String) (channel : σ) :
    Except DeviceError (List Binary64) × σ → Prop where
  | answered {values : List Binary64} {after : σ}
      (h : answersTo commands channel = (values.map .ok, after)) :
      AsksUntilFailure commands channel (.ok values, after)
  | failed {asked rest : List String} {values : List Binary64} {error : DeviceError} {after : σ}
      (hplan : commands = asked ++ rest)
      (h : answersTo asked channel = (values.map .ok ++ [.error error], after)) :
      AsksUntilFailure commands channel (.error error, after)

theorem asksUntilFailure_askAll (questions : List Probe) (channel : σ) :
    AsksUntilFailure (questions.map (·.command)) channel ((askAll questions).on channel) := by
  induction questions generalizing channel with
  | nil =>
      have hnone : answersTo [] channel = (([] : List Binary64).map .ok, channel) := rfl
      exact .answered hnone
  | cons question questions ih =>
      simp only [askAll, Session.on_bind, Channel.on_sendForValue, List.map_cons]
      cases hanswer : CommandChannel.commandValue question.command channel with
      | mk answer next =>
          cases answer with
          | error error =>
              -- Nothing is asked behind a question that fails.
              have hasked : answersTo [question.command] channel =
                  (([] : List Binary64).map .ok ++ [.error error], next) := by
                simp [answersTo, hanswer]
              exact .failed rfl hasked
          | ok first =>
              -- The first number stands ahead of what the others come to from here.
              have hrest := ih next
              simp only
              generalize (askAll questions).on next = outcome at hrest ⊢
              cases hrest with
              | @answered values after h =>
                  have hall : answersTo (question.command :: questions.map (·.command)) channel =
                      ((first :: values).map .ok, after) := by
                    simp [answersTo, hanswer, h]
                  exact .answered hall
              | @failed asked rest values error after hplan h =>
                  have hasked : answersTo (question.command :: asked) channel =
                      ((first :: values).map .ok ++ [.error error], after) := by
                    simp [answersTo, hanswer, h]
                  exact .failed (congrArg (question.command :: ·) hplan) hasked

theorem length_askAll {questions : List Probe}
    (h : ((askAll questions).on channel).1 = .ok values) : values.length = questions.length := by
  have hasks := asksUntilFailure_askAll questions channel
  generalize (askAll questions).on channel = outcome at h hasks
  cases hasks with
  | answered hanswers =>
      cases h
      simpa using length_of_answersTo_eq hanswers
  | failed => cases h

end Parameter
end MotionController
