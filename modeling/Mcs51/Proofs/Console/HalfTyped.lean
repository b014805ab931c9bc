import Mcs51.Proofs.Console.Frames

/-! # A half-typed byte is finished where it was begun

The log of a run holds every byte that is dispatched and every nibble that is committed. Whatever moves the
focus, the cursor, the window or the memory in view drops a half-typed byte first, so a low nibble follows
the high nibble of the same byte, and nothing but its own digit is dispatched in between
(`high_before_low`).
-/

namespace Mcs51.Console

open Command (digitKeys)

variable {c : Console}

/-! ### The log -/

/-- What a frame does with its input. -/
inductive Action
  | dispatched (byte : UInt8)
  | committed (nibble : Nibble) (target : EditTarget)
deriving DecidableEq, Repr

/-- The byte that `handleInput` dispatches, if one waits. -/
def dispatches (c : Console) : List Action :=
  (c.session.pending.map Action.dispatched).toList

/-- The nibble that `applyQueued` commits, if a digit is queued and a byte is pointed at. -/
def commits (c : Console) : List Action :=
  match c.edit.queued, c.edit.target with
  | some _, some target => [.committed c.edit.next target]
  | _, _ => []

/-- The actions of an event: a frame dispatches its input and then commits what is queued. -/
def actions (c : Console) : Event → List Action
  | .frame time => (c.shown time).dispatches ++ (c.shown time).handleInput.commits
  | _ => []

/-- The actions of a history, in order. -/
def log (c : Console) : List Event → List Action
  | [] => []
  | event :: rest => c.actions event ++ (c.after event).log rest

theorem commits_of_unqueued (unqueued : c.edit.queued = none) : c.commits = [] := by
  rw [commits, unqueued]

theorem dispatches_shown (c : Console) (time : Float) :
    (c.shown time).dispatches = (c.session.pending.map Action.dispatched).toList := by
  rw [dispatches, pending_shown]

private theorem actions_of_idle (poised : c.Poised) (idle : c.session.pending = none) (time : Float) :
    c.actions (.frame time) = [] := by
  have unqueued := (poised_ready poised time).unqueued
  rw [actions, dispatches_shown, handleInput_of_idle idle, commits_of_unqueued unqueued, idle]
  rfl

/-- A digit is dispatched and committed in one frame. -/
theorem actions_of_digit {key : UInt8} (waits : c.session.pending = some key)
    {value : Fin 16} (digit : key ∈ digitKeys value) (time : Float) :
    c.actions (.frame time) = [.dispatched key, .committed c.edit.next c.pointed] := by
  have edit := c.edit_ready time
  rw [actions, dispatches_shown, handleInput_of_waits waits, dispatch_of_digit digit, edit, waits]
  rfl

private theorem actions_of_other (poised : c.Poised) {key : UInt8} (waits : c.session.pending = some key)
    (other : ∀ value, key ∉ digitKeys value) (time : Float) :
    c.actions (.frame time) = [.dispatched key] := by
  have unqueued := (rested_dispatch (poised_ready poised time) other).unqueued
  rw [actions, dispatches_shown, handleInput_of_waits waits, commits_of_unqueued unqueued, waits]
  rfl

/-- A digit that is typed is committed to the byte under the cursor. -/
theorem log_of_digit (listens : c.Listens) {key : UInt8} {value : Fin 16} (digit : key ∈ digitKeys value)
    (time : Float) (rest : List Event) :
    c.log (.push key :: .frame time :: rest) =
      .dispatched key :: .committed c.edit.next c.pointed :: ((c.push key).tick time).log rest := by
  have waits : (c.push key).session.pending = some key := by
    rw [push_of_listens listens]
  have frame := actions_of_digit waits digit time
  rw [log, log, after, frame]
  rfl

/-- Two digits begin and complete the byte under the cursor. -/
theorem log_of_byte (listens : c.Listens) (high : c.edit.next = .high) {first second : UInt8} {upper lower : Fin 16}
    (digit : first ∈ digitKeys upper) (digit' : second ∈ digitKeys lower) (time time' : Float) :
    c.log [.push first, .frame time, .push second, .frame time'] =
      [.dispatched first, .committed .high c.pointed, .dispatched second, .committed .low c.pointed] := by
  obtain ⟨low, position⟩ := begun_tick_push listens high digit time
  have typed := log_of_digit (listens_tick_push listens digit time) digit' time' []
  rw [log_of_digit listens digit, typed, high, low, pointed_congr position, log]

/-! ### Pairs of nibbles -/

/-- Whether every low nibble of a log directly follows its own digit and, before that, the high nibble of the
same byte. -/
def Paired (actions : List Action) : Prop :=
  ∀ past target future, actions = past ++ .committed .low target :: future →
    ∃ earlier value, ∃ key ∈ digitKeys value, past = earlier ++ [.committed .high target, .dispatched key]

/-- Actions without a low nibble keep a log paired. -/
theorem Paired.append {past new : List Action} (paired : Paired past)
    (quiet : ∀ target, .committed .low target ∉ new) : Paired (past ++ new) := by
  intro before target future split
  rcases List.append_eq_append_iff.mp split with ⟨between, _, rest⟩ | ⟨between, rfl, rest⟩
  · refine absurd ?_ (quiet target)
    rw [rest]
    exact List.mem_append_right _ (List.mem_cons_self ..)
  · cases between with
    | nil =>
      refine absurd ?_ (quiet target)
      rw [List.nil_append] at rest
      rw [← rest]
      exact List.mem_cons_self ..
    | cons first others =>
      obtain ⟨rfl, _⟩ := List.cons.inj rest
      exact paired before target others rfl

/-- A digit that completes the byte begun just before keeps a log paired. -/
theorem Paired.complete {past earlier : List Action} {target : EditTarget} (paired : Paired past)
    (begun : past = earlier ++ [.committed .high target]) {key : UInt8} {value : Fin 16}
    (digit : key ∈ digitKeys value) : Paired (past ++ [.dispatched key, .committed .low target]) := by
  have pressed : Paired (past ++ [.dispatched key]) := paired.append (by simp)
  intro before other future split
  rw [← List.singleton_append, ← List.append_assoc] at split
  rcases List.eq_nil_or_concat future with rfl | ⟨rest, last, rfl⟩
  · obtain ⟨same, low⟩ := List.append_inj' split rfl
    cases low
    refine ⟨earlier, value, key, digit, ?_⟩
    rw [← same, begun, List.append_assoc, List.singleton_append]
  · rw [List.concat_eq_append, ← List.cons_append, ← List.append_assoc] at split
    exact pressed before other rest (List.append_inj' split rfl).1

/-! ### The invariant -/

/-- A console after a log: it is poised, and if a byte is half typed, then it was begun by the last action. -/
structure Follows (past : List Action) (c : Console) : Prop where
  poised : c.Poised
  paired : Paired past
  begun : c.edit.next = .low → ∃ earlier, past = earlier ++ [.committed .high c.pointed]

/-- Events that leave edit state and position alone need no action. -/
theorem Follows.of_unmoved {past : List Action} {d : Console} (follows : Follows past c) (poised : d.Poised)
    (edit : d.edit = c.edit) (position : d.position = c.position) : Follows (past ++ []) d := by
  rw [List.append_nil]
  refine ⟨poised, follows.paired, ?_⟩
  rw [edit, pointed_congr position]
  exact follows.begun

private theorem unmoved_clockTicks (c : Console) (ticks : Nat) :
    (c.clockTicks ticks).edit = c.edit ∧ (c.clockTicks ticks).position = c.position := by
  induction ticks generalizing c with
  | zero => exact ⟨rfl, rfl⟩
  | succ ticks ih =>
    have shown (c : Console) (text : String) : (c.showMessage text).edit = c.edit ∧
        (c.showMessage text).position = c.position := by
      obtain ⟨_, _, _, _, _, same⟩ := redrawn_showMessage c text
      rw [same]
      exact ⟨rfl, rfl⟩
    have ticked : c.clockTick.edit = c.edit ∧ c.clockTick.position = c.position := by
      unfold clockTick
      dsimp only
      split
      · exact shown _ _
      · exact ⟨rfl, rfl⟩
    obtain ⟨edit, position⟩ := ih c.clockTick
    exact ⟨edit.trans ticked.1, position.trans ticked.2⟩

theorem Follows.frame {past : List Action} (follows : Follows past c) (time : Float) :
    Follows (past ++ c.actions (.frame time)) (c.tick time) := by
  have poised := follows.poised
  have ready := poised_ready poised time
  have aimed := aimed_ready poised time
  have position := c.position_ready time
  have edit : (c.ready time).edit.next = c.edit.next := by
    rw [edit_ready]
    rfl
  have after := poised_tick poised time
  cases waits : c.session.pending with
  | none =>
    rw [tick_of_idle poised waits] at after ⊢
    rw [actions_of_idle poised waits, List.append_nil]
    refine ⟨after, follows.paired, ?_⟩
    rw [edit, pointed_congr position]
    exact follows.begun
  | some key =>
    by_cases digit : ∃ value, key ∈ digitKeys value
    · obtain ⟨value, digit⟩ := digit
      rw [tick_of_digit poised waits digit] at after ⊢
      rw [actions_of_digit waits digit]
      cases next : c.edit.next with
      | high =>
        obtain ⟨_, _, same⟩ := begun_commitDigit ready aimed (edit.trans next) value
        refine ⟨after, follows.paired.append (by simp), fun _ => ⟨past ++ [.dispatched key], ?_⟩⟩
        rw [pointed_congr (same.trans position), List.append_assoc, List.singleton_append]
      | low =>
        obtain ⟨earlier, begun⟩ := follows.begun next
        obtain ⟨rested, _⟩ := completed_commitDigit ready aimed (edit.trans next) value
        refine ⟨after, follows.paired.complete begun digit, fun low => ?_⟩
        rw [rested.high] at low
        contradiction
    · rw [not_exists] at digit
      rw [tick_of_other poised waits digit] at after ⊢
      rw [actions_of_other poised waits digit]
      refine ⟨after, follows.paired.append (by simp), fun low => ?_⟩
      rw [(rested_dispatch ready digit).high] at low
      contradiction

theorem Follows.after {past : List Action} (follows : Follows past c) (event : Event) :
    Follows (past ++ c.actions event) (c.after event) := by
  have poised := poised_after follows.poised event
  cases event with
  | push byte => exact follows.of_unmoved poised rfl rfl
  | control code => exact follows.of_unmoved poised rfl rfl
  | clock now =>
    obtain ⟨edit, position⟩ := unmoved_clockTicks { c with clock := (c.clock.poll now).2 } (c.clock.poll now).1
    exact follows.of_unmoved poised edit position
  | frame time => exact follows.frame time

private theorem Follows.paired_log {past : List Action} (follows : Follows past c) (history : List Event) :
    Paired (past ++ c.log history) := by
  induction history generalizing c past with
  | nil =>
    rw [log, List.append_nil]
    exact follows.paired
  | cons event rest ih =>
    rw [log, ← List.append_assoc]
    exact ih (follows.after event)

/-- A half-typed byte never leaks: whatever happens to a console, a committed low nibble follows the high
nibble of the same byte, and only its own digit is dispatched between the two. -/
theorem high_before_low (machine : Machine) (clock : Clock) (history : List Event) {past future : List Action}
    {target : EditTarget}
    (low : (Console.new machine clock).log history = past ++ .committed .low target :: future) :
    ∃ earlier value, ∃ key ∈ digitKeys value, past = earlier ++ [.committed .high target, .dispatched key] := by
  have follows : Follows [] (Console.new machine clock) := by
    have rested := rested_new machine clock
    refine ⟨rested.poised, fun past target future split => ?_, fun low => ?_⟩
    · exact absurd split.symm (List.append_ne_nil_of_right_ne_nil _ (List.cons_ne_nil _ _))
    · rw [rested.high] at low
      contradiction
  exact follows.paired_log history past target future low

/-- The digits 1 and F go to the first byte of the lower RAM. -/
theorem high_before_low_of_digits :
    let c := Console.new (Machine.new 16 16 128) (Clock.new .middle 1000)
    let target := EditTarget.memory .lower 0
    let past := [Action.dispatched 0x31, .committed .high target, .dispatched 0x46]
    c.log [.push 0x31, .frame 0.0, .push 0x46, .frame 0.5] = past ++ .committed .low target :: [] ∧
      ∃ earlier value, ∃ key ∈ digitKeys value, past = earlier ++ [.committed .high target, .dispatched key] := by
  have listens := listens_new (Machine.new 16 16 128) (Clock.new .middle 1000)
  have high := (rested_new (Machine.new 16 16 128) (Clock.new .middle 1000)).high
  have typed := @log_of_byte _ listens high 0x31 0x46 1 15 (by decide) (by decide) 0.0 0.5
  rw [pointed_eq, position_new] at typed
  exact ⟨typed, high_before_low _ _ _ typed⟩

end Mcs51.Console
