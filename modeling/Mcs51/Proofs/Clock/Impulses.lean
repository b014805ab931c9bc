import Mathlib.Data.List.DropRight
import Mcs51.Clock

/-! # Queued ticks are delivered once

Two runs of one clock, with and without the queued ticks, have the same speed, carry and last poll at any time; they
differ in what is queued alone (`follow_eq`). So a poll delivers what is periodic and, on top of it, the ticks that
were queued since the poll before (`impulses_delivered_once`).
-/

namespace Mcs51.Clock

/-! ### Operations -/

inductive Operation
  | faster
  | slower
  | impulse
  | poll (now : Duration)
deriving DecidableEq

def Operation.polls : Operation → Bool
  | .poll _ => true
  | _ => false

def perform (c : Clock) : Operation → Clock
  | .faster => c.faster
  | .slower => c.slower
  | .impulse => c.impulse
  | .poll now => (c.poll now).2

def follow (c : Clock) (history : List Operation) : Clock :=
  history.foldl perform c

/-- The operations but for the queued ticks. -/
def unprompted (history : List Operation) : List Operation :=
  history.filter (· ≠ .impulse)

/-- The ticks queued since the last poll. -/
def queued (history : List Operation) : Nat :=
  (history.rtakeWhile fun operation => !operation.polls).count .impulse

private theorem unprompted_append_impulse (history : List Operation) :
    unprompted (history ++ [.impulse]) = unprompted history := by
  rw [unprompted, List.filter_append]
  exact List.append_nil _

theorem unprompted_append {operation : Operation} (other : operation ≠ .impulse) (history : List Operation) :
    unprompted (history ++ [operation]) = unprompted history ++ [operation] := by
  have kept : [operation].filter (· ≠ .impulse) = [operation] := List.filter_eq_self.mpr (by simpa using other)
  rw [unprompted, List.filter_append, kept, unprompted]

private theorem queued_append_poll (history : List Operation) (now : Duration) :
    queued (history ++ [.poll now]) = 0 := by
  rw [queued, List.rtakeWhile_concat_neg]
  · rfl
  · simp [Operation.polls]

theorem queued_append {operation : Operation} (other : operation.polls = false) (history : List Operation) :
    queued (history ++ [operation]) = queued history + [operation].count .impulse := by
  have taken : (history ++ [operation]).rtakeWhile (fun operation => !operation.polls) =
      history.rtakeWhile (fun operation => !operation.polls) ++ [operation] :=
    List.rtakeWhile_concat_pos _ _ _ (by rw [other, Bool.not_false])
  rw [queued, taken, List.count_append, queued]

theorem follow_append (c : Clock) (history : List Operation) (operation : Operation) :
    c.follow (history ++ [operation]) = (c.follow history).perform operation :=
  List.foldl_concat ..

/-! ### One operation -/

/-- A clock with `n` ticks queued, as far as they can be counted. -/
def withQueued (c : Clock) (n : Nat) : Clock :=
  { c with impulses := min n maxPollTicks }

variable {c : Clock}

theorem withQueued_zero (idle : c.impulses = 0) : c.withQueued 0 = c := by
  rw [withQueued, Nat.zero_min, ← idle]

/-- One more tick is queued, unless they are too many to count already. -/
theorem impulse_withQueued (c : Clock) (n : Nat) : (c.withQueued n).impulse = c.withQueued (n + 1) := by
  have count : min (min n maxPollTicks + 1) maxPollTicks = min (n + 1) maxPollTicks := by omega
  rw [impulse, withQueued, withQueued, ← count]

private theorem impulses_poll (c : Clock) (now : Duration) : (c.poll now).2.impulses = 0 := by
  unfold poll
  split <;> rfl

/-- A poll delivers the queued ticks on top of the periodic ones. -/
theorem poll_withQueued (idle : c.impulses = 0) (n : Nat) (now : Duration) :
    (c.withQueued n).poll now = (min ((c.poll now).1 + n) maxPollTicks, (c.poll now).2) := by
  have unpolled : (c.withQueued n).lastPoll = c.lastPoll := rfl
  unfold poll
  rw [unpolled]
  cases c.lastPoll with
  | none =>
    dsimp only
    rw [idle, Nat.zero_add]
    rfl
  | some last =>
    have periodic : (c.withQueued n).periodic (now.since last).seconds = c.periodic (now.since last).seconds := rfl
    dsimp only
    rw [periodic, idle]
    generalize c.periodic (now.since last).seconds = due
    have sum : min (due.1.toNat + min n maxPollTicks) maxPollTicks =
        min (min (due.1.toNat + 0) maxPollTicks + n) maxPollTicks := by omega
    rw [← sum]
    rfl

/-! ### Two runs -/

/-- Queued ticks aside, a run is the run without them. -/
theorem follow_eq (idle : c.impulses = 0) (history : List Operation) :
    c.follow history = (c.follow (unprompted history)).withQueued (queued history) ∧
      (c.follow (unprompted history)).impulses = 0 := by
  induction history using List.reverseRecOn with
  | nil => exact ⟨(withQueued_zero idle).symm, idle⟩
  | append_singleton history operation ih =>
    obtain ⟨same, idle'⟩ := ih
    rw [follow_append, same]
    cases operation with
    | faster =>
      rw [unprompted_append (show Operation.faster ≠ .impulse from nofun), follow_append, queued_append rfl]
      exact ⟨rfl, idle'⟩
    | slower =>
      rw [unprompted_append (show Operation.slower ≠ .impulse from nofun), follow_append, queued_append rfl]
      exact ⟨rfl, idle'⟩
    | impulse =>
      rw [unprompted_append_impulse, queued_append rfl]
      exact ⟨impulse_withQueued .., idle'⟩
    | poll now =>
      have delivered := impulses_poll (c.follow (unprompted history)) now
      rw [unprompted_append (show Operation.poll now ≠ .impulse from nofun), follow_append, queued_append_poll]
      refine ⟨?_, delivered⟩
      calc ((c.follow (unprompted history)).withQueued (queued history)).perform (.poll now)
        _ = ((c.follow (unprompted history)).poll now).2 := by rw [perform, poll_withQueued idle']
        _ = ((c.follow (unprompted history)).perform (.poll now)).withQueued 0 := (withQueued_zero delivered).symm

/-- A clock and the same clock with no ticks queued have the same speed, carry and last poll at any time. A poll
delivers what it delivers without queued ticks, and on top of that as many ticks as were queued since the poll before,
as far as they can be counted; behind it the two clocks are the same. -/
theorem impulses_delivered_once (speed : Speed) (maxTicks : UInt32) (history : List Operation) (now : Duration) :
    let clock := (new speed maxTicks).follow history
    let periodic := (new speed maxTicks).follow (unprompted history)
    (clock.speed = periodic.speed ∧ clock.carry = periodic.carry ∧ clock.lastPoll = periodic.lastPoll) ∧
      (clock.poll now).1 = min ((periodic.poll now).1 + queued history) maxPollTicks ∧
      (clock.poll now).2 = (periodic.poll now).2 := by
  intro clock periodic
  obtain ⟨same, idle⟩ : clock = periodic.withQueued (queued history) ∧ periodic.impulses = 0 := follow_eq rfl history
  have polled := poll_withQueued idle (queued history) now
  rw [same, polled]
  exact ⟨⟨rfl, rfl, rfl⟩, rfl, rfl⟩

end Mcs51.Clock
