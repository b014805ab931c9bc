import Mcs51.Proofs.Console.Steady

/-! # What makes the machine go

Of all commands only a few start, stop or step the machine, set its clock or account for time (`pace_run`). The
focus decides what one of them does: where an address is typed, the command that starts the machine leaves the
address first. So the machine never runs while an address is typed, and however many clock ticks are delivered
then, at most a single step is executed (`parked_while_typing`).
-/

namespace Mcs51

namespace Machine

/-- A tick stops a machine that halts, and leaves it running or stopped otherwise. -/
theorem running_tick (m : Machine) : m.tick.running = (m.running && !m.halts) := by
  unfold tick execute
  cases running : m.running <;> cases m.stepPending <;> cases m.halts <;> simp [running]

theorem running_tick_of_stopped {m : Machine} (stopped : m.running = false) : m.tick.running = false := by
  rw [running_tick, stopped, Bool.false_and]

private theorem stepPending_tick (m : Machine) : m.tick.stepPending = false := rfl

end Machine

namespace Console

variable {c d : Console}

/-! ### Pace -/

/-- What makes the machine go: whether it runs or is to execute a single step, the clock, and the time that is
accounted for. -/
structure Pace where
  running : Bool
  stepPending : Bool
  clock : Clock
  elapsedMs : Float

/-- What a command does to the pace, given what has the focus. -/
def Pace.obey (p : Pace) (focus : Focus) : Command → Pace
  | .step =>
    { running := false
      stepPending := true
      clock := p.clock.impulse
      elapsedMs := p.elapsedMs + p.clock.speed.msPerTick }
  | .toggleRun => { p with running := !p.running }
  | .toggleAddressInput => if focus = .addressInput then p else { p with running := false }
  | .reset | .wipe => { p with running := false, stepPending := false }
  | .faster => { p with clock := p.clock.faster }
  | .slower => { p with clock := p.clock.slower }
  | _ => p

def pace (c : Console) : Pace :=
  ⟨c.machine.running, c.machine.stepPending, c.clock, c.elapsedMs⟩

theorem Redrawn.pace (redrawn : Redrawn c d) : d.pace = c.pace := by
  obtain ⟨_, _, _, _, _, rfl⟩ := redrawn
  rfl

theorem Redrawn.focus (redrawn : Redrawn c d) : d.focus = c.focus := by
  obtain ⟨_, _, _, _, _, rfl⟩ := redrawn
  rfl

theorem pace_enter (c : Console) (focus : Focus) : (c.enter focus).pace = c.pace :=
  (redrawn_redraw _).pace

theorem focus_enter (c : Console) (focus : Focus) : (c.enter focus).focus = focus :=
  (redrawn_redraw _).focus

private theorem pace_toggleRun (c : Console) : c.toggleRun.pace = c.pace.obey c.focus .toggleRun := by
  have left : (if c.focus = .addressInput then c.enter .memory else c).pace = c.pace := by
    split
    · exact c.pace_enter .memory
    · rfl
  have cleared := (redrawn_clearMessage _).pace.trans left
  exact congrArg (fun p : Pace => { p with running := !p.running }) cleared

private theorem pace_toggleAddressInput (c : Console) :
    c.toggleAddressInput.pace = c.pace.obey c.focus .toggleAddressInput := by
  unfold toggleAddressInput Pace.obey
  split
  · exact c.pace_enter .memory
  · exact pace_enter { c with machine := c.machine.setRunning false } .addressInput

private theorem pace_go (c : Console) : c.go.pace = c.pace := by
  unfold go
  split
  · exact (redrawn_showMessage _ _).pace
  · rfl

private theorem pace_toggleBreakpoint (c : Console) : c.toggleBreakpoint.pace = c.pace := by
  unfold toggleBreakpoint
  split
  · split
    · exact (redrawn_showMessage _ _).pace
    · exact (redrawn_showMessage _ _).pace
  · rfl

private theorem pace_move (c : Console) (direction : Direction) : (c.move direction).pace = c.pace := by
  unfold move
  split
  · rfl
  · split
    · exact c.pace_enter .dataPointer
    · exact c.pace_enter .registers
    · rfl
    · split <;> rfl
    · rfl

/-- What every command does to the pace. -/
theorem pace_run (c : Console) (command : Command) : (c.run command).pace = c.pace.obey c.focus command := by
  cases command with
  | switchMemory => exact (redrawn_redraw _).pace
  | toggleRun => exact c.pace_toggleRun
  | toggleAddressInput => exact c.pace_toggleAddressInput
  | go => exact c.pace_go
  | toggleBreakpoint => exact c.pace_toggleBreakpoint
  | toggleAscii => exact (redrawn_redraw _).pace
  | move direction => exact c.pace_move direction
  | cycleFocus => exact c.pace_enter _
  | step | faster | slower | reset | wipe | digit => rfl

theorem pace_commitDigit (c : Console) (digit : Fin 16) : (c.commitDigit digit).pace = c.pace := by
  unfold commitDigit
  split
  · rfl
  · rename_i target _
    dsimp only
    split
    · cases target <;> rfl
    · cases target <;> rfl

private theorem focus_commitDigit (c : Console) (digit : Fin 16) : (c.commitDigit digit).focus = c.focus := by
  unfold commitDigit
  split
  · rfl
  · rename_i target _
    dsimp only
    split
    · cases target <;> rfl
    · cases target <;> rfl

theorem pace_ready (c : Console) (time : Float) : (c.ready time).pace = c.pace := by
  obtain ⟨_, _, _, _, _, same⟩ := c.ready_eq time
  rw [same]
  rfl

theorem focus_ready (c : Console) (time : Float) : (c.ready time).focus = c.focus := by
  obtain ⟨_, _, _, _, _, same⟩ := c.ready_eq time
  rw [same]
  rfl

private theorem obeys_pace : Obeys pace fun c => c.pace.obey c.focus where
  run := pace_run
  edited _ _ := ⟨rfl, rfl⟩
  commitDigit := pace_commitDigit

/-- A frame does to the pace what the command of the waiting byte says, if there is one. -/
theorem pace_tick (poised : c.Poised) (time : Float) :
    (c.tick time).pace = (c.session.pending.bind Command.ofByte?).elim c.pace (c.pace.obey c.focus) := by
  rw [obeys_pace.tick poised, pace_ready, focus_ready]

/-! ### Typing an address -/

/-- A cursor move does not lead into the address. -/
theorem focus_move (direction : Direction) (typing : (c.move direction).focus = .addressInput) :
    c.focus = .addressInput := by
  unfold move at typing
  split at typing
  · exact typing
  · split at typing
    · rw [focus_enter] at typing
      contradiction
    · rw [focus_enter] at typing
      contradiction
    · exact typing
    · split at typing <;> exact typing
    · exact typing

private theorem focus_toggleRun (c : Console) : c.toggleRun.focus ≠ .addressInput := by
  have left : (if c.focus = .addressInput then c.enter .memory else c).focus ≠ .addressInput := by
    split
    · rw [focus_enter]
      decide
    · assumption
  intro typing
  exact left ((redrawn_clearMessage _).focus.symm.trans typing)

/-- An address is typed after a command only if the command begins it, or if it was typed before and the command
does not start the machine. -/
theorem focus_run {command : Command} (typing : (c.run command).focus = .addressInput) :
    command = .toggleAddressInput ∧ c.focus ≠ .addressInput ∨
      c.focus = .addressInput ∧ command ≠ .toggleRun := by
  cases command with
  | toggleRun => exact absurd typing c.focus_toggleRun
  | toggleAddressInput =>
    by_cases before : c.focus = .addressInput
    · rw [run, toggleAddressInput, if_pos before, focus_enter] at typing
      contradiction
    · exact .inl ⟨rfl, before⟩
  | cycleFocus =>
    rw [run, focus_enter] at typing
    cases focus : c.focus <;> rw [focus] at typing <;> contradiction
  | move direction => exact .inr ⟨focus_move direction typing, by rintro ⟨⟩⟩
  | switchMemory =>
    have focus : c.switchMemory.focus = c.focus := (redrawn_redraw _).focus
    exact .inr ⟨focus.symm.trans typing, by rintro ⟨⟩⟩
  | toggleAscii =>
    have focus : c.toggleAscii.focus = c.focus := (redrawn_redraw _).focus
    exact .inr ⟨focus.symm.trans typing, by rintro ⟨⟩⟩
  | go =>
    refine .inr ⟨?_, by rintro ⟨⟩⟩
    rw [run, go] at typing
    split at typing
    · assumption
    · exact typing
  | toggleBreakpoint =>
    refine .inr ⟨?_, by rintro ⟨⟩⟩
    rw [run, toggleBreakpoint] at typing
    split at typing
    · assumption
    · exact typing
  | step | faster | slower | reset | wipe | digit => exact .inr ⟨typing, by rintro ⟨⟩⟩

/-- While an address is typed, the machine does not run. -/
def Parked (c : Console) : Prop :=
  c.focus = .addressInput → c.machine.running = false

theorem Parked.of_same (parked : c.Parked) (focus : d.focus = c.focus) (pace : d.pace = c.pace) : d.Parked := by
  intro typing
  have stopped := parked (focus.symm.trans typing)
  exact (congrArg Pace.running pace).trans stopped

/-- A command that does not start the machine leaves it stopped. -/
theorem Pace.running_obey {p : Pace} (stopped : p.running = false) {focus : Focus} {command : Command}
    (other : command ≠ .toggleRun) : (p.obey focus command).running = false := by
  cases command with
  | toggleRun => contradiction
  | toggleAddressInput =>
    unfold obey
    dsimp only
    split
    · exact stopped
    · rfl
  | step | reset | wipe => rfl
  | switchMemory | go | toggleBreakpoint | faster | slower | toggleAscii | move | cycleFocus | digit => exact stopped

theorem Parked.run (parked : c.Parked) (command : Command) : (c.run command).Parked := by
  intro typing
  have pace : (c.run command).machine.running = _ := congrArg Pace.running (c.pace_run command)
  rw [pace]
  rcases focus_run typing with ⟨rfl, elsewhere⟩ | ⟨typing, other⟩
  · rw [Pace.obey, if_neg elsewhere]
  · exact Pace.running_obey (parked typing) other

theorem Parked.dispatch (parked : c.Parked) (key : UInt8) : (c.dispatch key).Parked := by
  have cancelled : { c with edit := c.edit.cancel }.Parked := parked
  unfold Console.dispatch
  split
  · exact parked.run _
  · exact cancelled.run _
  · exact cancelled

theorem Parked.tick (parked : c.Parked) (poised : c.Poised) (time : Float) : (c.tick time).Parked := by
  have ready : (c.ready time).Parked := parked.of_same (c.focus_ready time) (c.pace_ready time)
  cases waits : c.session.pending with
  | none =>
    rw [tick_of_idle poised waits]
    exact ready
  | some key =>
    by_cases digit : ∃ value, key ∈ Command.digitKeys value
    · obtain ⟨value, digit⟩ := digit
      rw [tick_of_digit poised waits digit]
      exact ready.of_same (focus_commitDigit _ value) (pace_commitDigit _ value)
    · rw [not_exists] at digit
      rw [tick_of_other poised waits digit]
      exact ready.dispatch key

private theorem focus_clockTick (c : Console) : c.clockTick.focus = c.focus := by
  obtain ⟨_, next⟩ := c.clockTick_drawn
  rw [next]

theorem Parked.clockTicks (parked : c.Parked) (ticks : Nat) : (c.clockTicks ticks).Parked := by
  induction ticks generalizing c with
  | zero => exact parked
  | succ ticks ih =>
    apply ih
    intro typing
    rw [focus_clockTick] at typing
    rw [machine_clockTick]
    exact Machine.running_tick_of_stopped (parked typing)

theorem Parked.after (parked : c.Parked) (poised : c.Poised) (event : Event) : (c.after event).Parked := by
  cases event with
  | push byte => exact parked
  | control code => exact parked
  | clock now => exact @Parked.clockTicks { c with clock := (c.clock.poll now).2 } parked _
  | frame time => exact parked.tick poised time

theorem Parked.replay (parked : c.Parked) (poised : c.Poised) (history : List Event) :
    (c.replay history).Parked := by
  induction history generalizing c with
  | nil => exact parked
  | cons event rest ih => exact ih (parked.after poised event) (poised_after poised event)

private theorem parked_new (machine : Machine) (clock : Clock) : (Console.new machine clock).Parked := by
  intro typing
  have focus : (Console.new machine clock).focus = .memory := (redrawn_redraw _).focus
  rw [focus] at typing
  contradiction

/-! ### Clock ticks -/

/-- The consoles in front of each of a number of clock ticks. -/
def ticking (c : Console) : Nat → List Console
  | 0 => []
  | ticks + 1 => c :: c.clockTick.ticking ticks

/-- The consoles in front of the clock ticks that are due. -/
def pulses (c : Console) (now : Duration) : List Console :=
  { c with clock := (c.clock.poll now).2 }.ticking (c.clock.poll now).1

/-- A machine that no clock tick changes. -/
structure Resting (m : Machine) : Prop where
  stopped : m.running = false
  unstepped : m.stepPending = false
  announced : m.hit = false

theorem Resting.clockTick (resting : Resting c.machine) : c.clockTick.machine = c.machine := by
  rw [machine_clockTick, Machine.tick_of_stopped resting.stopped resting.unstepped, Machine.takeHit,
    ← resting.announced]

theorem Resting.clockTicks (resting : Resting c.machine) (ticks : Nat) :
    (c.clockTicks ticks).machine = c.machine ∧ (c.ticking ticks).countP (·.machine.executes) = 0 := by
  induction ticks generalizing c with
  | zero => exact ⟨rfl, rfl⟩
  | succ ticks ih =>
    have same := resting.clockTick
    obtain ⟨machine, idle⟩ := ih (same.symm ▸ resting)
    have quiet : c.machine.executes = false := by
      rw [Machine.executes, resting.stopped, resting.unstepped]
      rfl
    constructor
    · rw [clockTicks, machine, same]
    · rw [ticking, List.countP_cons_of_neg, idle]
      rw [quiet]
      exact Bool.false_ne_true

/-- After its first tick, a machine that does not run rests. -/
theorem resting_clockTick (stopped : c.machine.running = false) : Resting c.clockTick.machine := by
  rw [machine_clockTick]
  exact ⟨Machine.running_tick_of_stopped stopped, c.machine.stepPending_tick, rfl⟩

/-- However many clock ticks a machine gets that does not run, it is as after one, and executes at most the
instruction that was asked for. -/
theorem clockTicks_of_stopped (stopped : c.machine.running = false) (ticks : Nat) :
    (c.ticking ticks).countP (·.machine.executes) ≤ c.machine.stepPending.toNat ∧
      (c.clockTicks ticks).machine = if ticks = 0 then c.machine else c.machine.tick.takeHit.2 := by
  cases ticks with
  | zero => exact ⟨Nat.zero_le _, rfl⟩
  | succ ticks =>
    obtain ⟨machine, idle⟩ := (resting_clockTick stopped).clockTicks ticks
    constructor
    · rw [ticking, List.countP_cons, idle, Machine.executes, stopped, Bool.false_or]
      cases c.machine.stepPending <;> cases c.machine.halts <;> decide
    · rw [clockTicks, machine, machine_clockTick, if_neg (Nat.succ_ne_zero ticks)]

/-- While an address is typed, the machine does not run. A clock poll then executes at most one instruction,
and only if a single step was asked for; the machine is as after one clock tick, however many are delivered. -/
theorem parked_while_typing (machine : Machine) (clock : Clock) (history : List Event) :
    let c := (Console.new machine clock).replay history
    c.focus = .addressInput →
      c.machine.running = false ∧
        ∀ now, (c.pulses now).countP (·.machine.executes) ≤ c.machine.stepPending.toNat ∧
          (c.runClock now).2.machine =
            if (c.clock.poll now).1 = 0 then c.machine else c.machine.tick.takeHit.2 := by
  intro c typing
  have poised := (rested_new machine clock).poised
  have stopped : c.machine.running = false := (parked_new machine clock).replay poised history typing
  refine ⟨stopped, fun now => ?_⟩
  exact @clockTicks_of_stopped { c with clock := (c.clock.poll now).2 } stopped (c.clock.poll now).1

/-- A single step is asked for before the address is typed. The clock poll delivers one tick, which executes it. -/
theorem parked_while_typing_stepped :
    let c := (Console.new (Machine.new 16 16 128) (Clock.new .middle 1000)).replay
      [.push 0x20, .frame 0.0, .push 0x69, .frame 0.1]
    c.focus = .addressInput ∧ (c.pulses ⟨0⟩).countP (·.machine.executes) = 1 ∧
      c.machine.running = false ∧
        (c.pulses ⟨0⟩).countP (·.machine.executes) ≤ c.machine.stepPending.toNat ∧
        (c.runClock ⟨0⟩).2.machine =
          if (c.clock.poll ⟨0⟩).1 = 0 then c.machine else c.machine.tick.takeHit.2 := by
  have typing : ((Console.new (Machine.new 16 16 128) (Clock.new .middle 1000)).replay
      [.push 0x20, .frame 0.0, .push 0x69, .frame 0.1]).focus = .addressInput := by decide +kernel
  have parked := parked_while_typing _ _ _ typing
  exact ⟨typing, by decide +kernel, parked.1, parked.2 ⟨0⟩⟩

end Console

end Mcs51
