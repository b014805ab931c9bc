import Mcs51.Proofs.Console.Pace
import Mcs51.Proofs.Console.Typing

/-! # Time is accounted for by instruction

The time of a console grows in two places. In free run every clock tick adds to it after which the machine runs
on; a single step adds to it when it is asked for, before its instruction is executed. In the frame loop the two
never meet: a step that is asked for in a frame stops the machine and is delivered by the next clock poll
(`Primed`). So the additions are as many as the instructions executed, with the steps that were lost to a halt and
the one that still waits (`elapsed_by_instruction`).
-/

namespace Mcs51.Console

variable {c d : Console}

/-! ### Moments -/

/-- What can add to the time: a clock tick, or a byte that is dispatched, with the console in front of it. -/
inductive Moment
  | pulse (c : Console)
  | key (c : Console) (byte : UInt8)

namespace Moment

/-- The clock speed at which a moment adds a tick to the time, if it does: the machine runs on after a clock tick,
or a single step is asked for. -/
def charge? : Moment → Option Speed
  | pulse c => if c.machine.tick.running then some c.clock.speed else none
  | key c byte => if Command.ofByte? byte = some .step then some c.clock.speed else none

/-- Whether an instruction is executed. -/
def executes : Moment → Bool
  | pulse c => c.machine.executes
  | key _ _ => false

/-- Whether a single step is lost, as the tick that delivers it halts on the breakpoint. -/
def forfeits : Moment → Bool
  | pulse c => c.machine.stepPending && c.machine.stops
  | key _ _ => false

end Moment

def momentsOf (c : Console) : Event → List Moment
  | .clock now => (c.pulses now).map .pulse
  | .frame time => (c.session.pending.map (Moment.key (c.ready time))).toList
  | .push _ | .control _ => []

def moments (c : Console) : List Event → List Moment
  | [] => []
  | event :: rest => c.momentsOf event ++ (c.after event).moments rest

private theorem moments_append (c : Console) (first second : List Event) :
    c.moments (first ++ second) = c.moments first ++ (c.replay first).moments second := by
  induction first generalizing c with
  | nil => rfl
  | cons event rest ih => rw [List.cons_append, moments, moments, ih, List.append_assoc]; rfl

/-! ### Accounts -/

/-- A time to which ticks are added, one after the other. -/
def addTicks (start : Float) (speeds : List Speed) : Float :=
  (speeds.map Speed.msPerTick).foldl (· + ·) start

/-- These moments account for what became of the time and of the single step that waits. -/
structure Accounts (p q : Pace) (moments : List Moment) : Prop where
  elapsedMs : q.elapsedMs = addTicks p.elapsedMs (moments.filterMap Moment.charge?)
  charges : (moments.filterMap Moment.charge?).length + p.stepPending.toNat =
    moments.countP Moment.executes + moments.countP Moment.forfeits + q.stepPending.toNat

variable {p q last : Pace} {first second : List Moment}

theorem Accounts.nil (p : Pace) : Accounts p p [] :=
  ⟨rfl, rfl⟩

theorem Accounts.append (accounts : Accounts p q first) (accounts' : Accounts q last second) :
    Accounts p last (first ++ second) where
  elapsedMs := by
    rw [accounts'.elapsedMs, accounts.elapsedMs, List.filterMap_append, addTicks, addTicks, addTicks,
      List.map_append, List.foldl_append]
  charges := by
    have charges := accounts.charges
    have charges' := accounts'.charges
    rw [List.filterMap_append, List.length_append, List.countP_append, List.countP_append]
    omega

/-- A step that is asked for waits for a clock poll: the machine does not run, and the tick is queued. -/
def Primed (p : Pace) : Prop :=
  p.stepPending = true → p.running = false ∧ 0 < p.clock.impulses

/-! ### Clock ticks -/

/-- A tick in free run and a tick that delivers a single step are told apart by whether the machine runs. -/
theorem tick_balance {m : Machine} (apart : m.stepPending = true → m.running = false) :
    m.tick.running.toNat + m.stepPending.toNat =
      (if m.executes then 1 else 0) + if m.stepPending && m.stops then 1 else 0 := by
  rw [Machine.running_tick, Machine.executes, Machine.stops]
  cases running : m.running <;> cases pending : m.stepPending <;> cases m.halts <;> simp_all

theorem pace_clockTick (c : Console) :
    c.clockTick.pace =
      { running := c.machine.tick.running
        stepPending := false
        clock := c.clock
        elapsedMs := if c.machine.tick.running then c.elapsedMs + c.clock.speed.msPerTick else c.elapsedMs } := by
  obtain ⟨_, next⟩ := c.clockTick_drawn
  rw [next]
  rfl

private theorem accounts_clockTick (apart : c.machine.stepPending = true → c.machine.running = false) :
    Accounts c.pace c.clockTick.pace [.pulse c] := by
  have balance := tick_balance apart
  rw [pace_clockTick]
  cases runs : c.machine.tick.running with
  | true =>
    have charge : (Moment.pulse c).charge? = some c.clock.speed := if_pos runs
    rw [runs] at balance
    constructor
    · rw [List.filterMap_cons_some charge]
      rfl
    · rw [List.filterMap_cons_some charge, List.countP_singleton, List.countP_singleton]
      exact balance
  | false =>
    have charge : (Moment.pulse c).charge? = none := if_neg (Bool.eq_false_iff.mp runs)
    rw [runs] at balance
    constructor
    · rw [List.filterMap_cons_none charge]
      rfl
    · rw [List.filterMap_cons_none charge, List.countP_singleton, List.countP_singleton]
      exact balance

private theorem accounts_clockTicks (apart : c.machine.stepPending = true → c.machine.running = false) (ticks : Nat) :
    Accounts c.pace (c.clockTicks ticks).pace ((c.ticking ticks).map .pulse) := by
  induction ticks generalizing c with
  | zero => exact .nil c.pace
  | succ ticks ih =>
    have delivered : c.clockTick.machine.stepPending = false := congrArg Pace.stepPending c.pace_clockTick
    have rest := @ih c.clockTick fun pending => absurd (delivered.symm.trans pending) Bool.false_ne_true
    exact (accounts_clockTick apart).append rest

theorem unstepped_clockTicks (unstepped : c.machine.stepPending = false) (ticks : Nat) :
    (c.clockTicks ticks).machine.stepPending = false := by
  induction ticks generalizing c with
  | zero => exact unstepped
  | succ ticks ih => exact ih (congrArg Pace.stepPending c.pace_clockTick)

/-- A poll delivers the ticks that are queued. -/
theorem poll_ne_zero {clock : Clock} (queued : 0 < clock.impulses) (now : Duration) : (clock.poll now).1 ≠ 0 := by
  unfold Clock.poll
  split
  · exact Nat.ne_of_gt queued
  · have most : 0 < maxPollTicks := by decide
    dsimp only
    omega

/-- A clock poll delivers the step that waits. -/
theorem accounts_runClock (primed : Primed c.pace) (now : Duration) :
    Accounts c.pace (c.runClock now).2.pace (c.momentsOf (.clock now)) ∧
      (c.runClock now).2.machine.stepPending = false := by
  let polled := { c with clock := (c.clock.poll now).2 }
  constructor
  · have accounts := @accounts_clockTicks polled (fun pending => (primed pending).1) (c.clock.poll now).1
    exact ⟨accounts.elapsedMs, accounts.charges⟩
  · change (polled.clockTicks (c.clock.poll now).1).machine.stepPending = false
    cases pending : c.machine.stepPending with
    | false => exact @unstepped_clockTicks polled pending _
    | true =>
      have due : (c.clock.poll now).1 ≠ 0 := poll_ne_zero (primed pending).2 now
      obtain ⟨ticks, due⟩ := Nat.exists_eq_succ_of_ne_zero due
      rw [due]
      exact unstepped_clockTicks (congrArg Pace.stepPending polled.pace_clockTick) ticks

/-! ### Frames -/

/-- What a command does to the time and to the step that waits: only a request for a step adds to them. -/
theorem obey_of_ne_step (focus : Focus) {command : Command} (other : command ≠ .step)
    (unstepped : p.stepPending = false) :
    (p.obey focus command).elapsedMs = p.elapsedMs ∧ (p.obey focus command).stepPending = false := by
  cases command with
  | step => contradiction
  | toggleAddressInput =>
    unfold Pace.obey
    dsimp only
    split
    · exact ⟨rfl, unstepped⟩
    · exact ⟨rfl, unstepped⟩
  | reset | wipe => exact ⟨rfl, rfl⟩
  | toggleRun | faster | slower => exact ⟨rfl, unstepped⟩
  | switchMemory | go | toggleBreakpoint | toggleAscii | move | cycleFocus | digit => exact ⟨rfl, unstepped⟩

theorem accounts_unchanged (elapsedMs : q.elapsedMs = p.elapsedMs) (stepPending : q.stepPending = p.stepPending)
    {byte : UInt8} (other : Command.ofByte? byte ≠ some .step) : Accounts p q [.key c byte] := by
  have charge : (Moment.key c byte).charge? = none := if_neg other
  constructor
  · rw [List.filterMap_cons_none charge]
    exact elapsedMs
  · rw [List.filterMap_cons_none charge, stepPending]
    rfl

/-- A request for a step is charged at once and waits for the next clock poll. -/
theorem accounts_step (unstepped : p.stepPending = false) (speed : c.clock.speed = p.clock.speed) {byte : UInt8}
    (step : Command.ofByte? byte = some .step) (focus : Focus) :
    Accounts p (p.obey focus .step) [.key c byte] ∧ Primed (p.obey focus .step) := by
  have charge : (Moment.key c byte).charge? = some p.clock.speed := speed ▸ if_pos step
  refine ⟨⟨?_, ?_⟩, fun _ => ⟨rfl, ?_⟩⟩
  · rw [List.filterMap_cons_some charge]
    rfl
  · rw [List.filterMap_cons_some charge, unstepped]
    rfl
  · have most : 0 < maxPollTicks := by decide
    change 0 < min (p.clock.impulses + 1) maxPollTicks
    omega

/-- A frame behind a clock poll accounts for its time and leaves its step to the next poll. -/
theorem accounts_tick (poised : c.Poised) (unstepped : c.machine.stepPending = false) (time : Float) :
    Accounts c.pace (c.tick time).pace (c.momentsOf (.frame time)) ∧ Primed (c.tick time).pace := by
  have resting : Primed c.pace := fun pending => absurd (unstepped.symm.trans pending) Bool.false_ne_true
  rw [pace_tick poised, momentsOf]
  cases c.session.pending with
  | none => exact ⟨.nil c.pace, resting⟩
  | some byte =>
    rw [Option.bind_some, Option.map_some, Option.toList_some]
    cases found : Command.ofByte? byte with
    | none =>
      refine ⟨accounts_unchanged rfl rfl ?_, resting⟩
      rw [found]
      nofun
    | some command =>
      by_cases step : command = .step
      · subst step
        have speed : (c.ready time).clock.speed = c.clock.speed := congrArg (·.clock.speed) (c.pace_ready time)
        exact accounts_step unstepped speed found c.focus
      · obtain ⟨elapsedMs, unstepped'⟩ := obey_of_ne_step c.focus step (p := c.pace) unstepped
        refine ⟨accounts_unchanged elapsedMs (unstepped'.trans unstepped.symm) ?_, ?_⟩
        · rw [found]
          exact fun same => step (Option.some.inj same)
        · exact fun pending => absurd (unstepped'.symm.trans pending) Bool.false_ne_true

/-! ### The frame loop -/

/-- One turn of the frame loop: at most one byte is pushed, then the clock is polled, and then a frame is run. -/
structure Turn where
  key : Option UInt8
  now : Duration
  time : Float

def Turn.events (t : Turn) : List Event :=
  (t.key.map Event.push).toList ++ [.clock t.now, .frame t.time]

/-- The console after at most one byte is pushed. -/
def offer (c : Console) (key : Option UInt8) : Console :=
  key.elim c c.push

private theorem replay_turn (c : Console) (t : Turn) :
    c.replay t.events = ((c.offer t.key).runClock t.now).2.tick t.time := by
  obtain ⟨key, now, time⟩ := t
  cases key <;> rfl

private theorem moments_turn (c : Console) (t : Turn) :
    c.moments t.events =
      (c.offer t.key).momentsOf (.clock t.now) ++
        ((c.offer t.key).runClock t.now).2.momentsOf (.frame t.time) := by
  obtain ⟨key, now, time⟩ := t
  have frame (d : Console) : d.moments [.frame time] = d.momentsOf (.frame time) := List.append_nil _
  cases key with
  | none =>
    change c.momentsOf (.clock now) ++ (c.runClock now).2.moments [.frame time] = _
    rw [frame]
    rfl
  | some byte =>
    change (c.push byte).momentsOf (.clock now) ++ ((c.push byte).runClock now).2.moments [.frame time] = _
    rw [frame]
    rfl

theorem pace_offer (c : Console) (key : Option UInt8) : (c.offer key).pace = c.pace := by
  cases key <;> rfl

private theorem poised_offer (poised : c.Poised) (key : Option UInt8) : (c.offer key).Poised := by
  cases key with
  | none => exact poised
  | some byte => exact poised_push poised byte

private theorem accounts_turn (poised : c.Poised) (primed : Primed c.pace) (t : Turn) :
    Accounts c.pace (c.replay t.events).pace (c.moments t.events) ∧ Primed (c.replay t.events).pace := by
  have poised' := poised_offer poised t.key
  rw [← c.pace_offer t.key] at primed
  obtain ⟨polled, unstepped⟩ := accounts_runClock primed t.now
  obtain ⟨framed, primed'⟩ := accounts_tick (poised_after poised' (.clock t.now)) unstepped t.time
  rw [pace_offer] at polled
  rw [replay_turn, moments_turn]
  exact ⟨polled.append framed, primed'⟩

/-- What holds of a console behind the turns of the frame loop. -/
theorem accounts_turns (poised : c.Poised) (primed : Primed c.pace) (turns : List Turn) :
    Accounts c.pace (c.replay (turns.flatMap Turn.events)).pace (c.moments (turns.flatMap Turn.events)) ∧
      Primed (c.replay (turns.flatMap Turn.events)).pace := by
  induction turns generalizing c with
  | nil => exact ⟨.nil c.pace, primed⟩
  | cons t rest ih =>
    obtain ⟨first, primed'⟩ := accounts_turn poised primed t
    obtain ⟨later, last⟩ := ih (poised_replay poised t.events) primed'
    rw [List.flatMap_cons, replay_append, moments_append]
    exact ⟨first.append later, last⟩

/-- In the frame loop the time is the sum of one tick for every instruction that is executed, for every single
step that is lost to a halt, and for the single step that still waits, each at the clock speed of its moment. No
step waits behind a clock poll. The machine is handed over as a new one is, with no step asked for. -/
theorem elapsed_by_instruction {machine : Machine} (unstepped : machine.stepPending = false) (clock : Clock)
    (turns : List Turn) :
    let history := turns.flatMap Turn.events
    let c := (Console.new machine clock).replay history
    let moments := (Console.new machine clock).moments history
    let charges := moments.filterMap Moment.charge?
    c.elapsedMs = (charges.map Speed.msPerTick).foldl (· + ·) 0.0 ∧
      charges.length =
        moments.countP Moment.executes + moments.countP Moment.forfeits + c.machine.stepPending.toNat ∧
      ∀ key now, ((c.offer key).runClock now).2.machine.stepPending = false := by
  intro history c moments charges
  have poised := (rested_new machine clock).poised
  have start : (Console.new machine clock).pace = ⟨machine.running, false, clock, 0.0⟩ := by
    rw [← unstepped]
    exact (redrawn_redraw _).pace
  have primed : Primed (Console.new machine clock).pace := by
    rw [start]
    exact fun pending => absurd pending Bool.false_ne_true
  obtain ⟨accounts, primed'⟩ := accounts_turns poised primed turns
  rw [start] at accounts
  refine ⟨accounts.elapsedMs, accounts.charges, fun key now => ?_⟩
  rw [← c.pace_offer key] at primed'
  exact (accounts_runClock primed' now).2

/-- A step that is asked for in a turn is charged there, and waits for the clock poll of the next turn. -/
theorem elapsed_by_instruction_stepped :
    let turns : List Turn := [⟨some 0x20, ⟨0⟩, 0.0⟩]
    let history := turns.flatMap Turn.events
    let new := Machine.new 16 16 128
    let clock := Clock.new .middle 1000
    let c := (Console.new new clock).replay history
    let moments := (Console.new new clock).moments history
    let charges := moments.filterMap Moment.charge?
    new.stepPending = false ∧ charges = [.middle] ∧ c.machine.stepPending = true ∧
      c.elapsedMs = (charges.map Speed.msPerTick).foldl (· + ·) 0.0 ∧
      charges.length =
        moments.countP Moment.executes + moments.countP Moment.forfeits + c.machine.stepPending.toNat ∧
      ∀ key now, ((c.offer key).runClock now).2.machine.stepPending = false := by
  have unstepped : (Machine.new 16 16 128).stepPending = false := rfl
  have accounts := elapsed_by_instruction unstepped (Clock.new .middle 1000) [⟨some 0x20, ⟨0⟩, 0.0⟩]
  refine ⟨unstepped, ?_, ?_, accounts⟩
  · decide +kernel
  · decide +kernel

end Mcs51.Console
