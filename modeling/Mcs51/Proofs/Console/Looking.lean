import Mathlib.Data.List.Forall2
import Mathlib.Logic.Function.Iterate
import Mcs51.Proofs.Console.Effects

/-! # Looking around

Moving the cursor, changing the focus, switching the memory in view and showing characters leave what runs alone:
the machine, its clock and its time (`Program`). Besides the commands that edit, what runs depends on the clock
polls and the bytes that drive it, and on nothing else of the console (`Runs.replay`). So two runs that differ in
looking around only run the same (`program_eq_of_agree`).
-/

namespace Mcs51

/-! ### What keys are for -/

/-- What a command acts on. -/
inductive Purpose
  /-- The machine, its clock and its time, whatever is shown. -/
  | drive
  /-- What is shown. -/
  | look
  /-- Bytes, the program counter and the breakpoint, as they are pointed at or typed. -/
  | edit
deriving DecidableEq, Repr

namespace Command

def purpose : Command → Purpose
  | step | toggleRun | reset | wipe | faster | slower => .drive
  | move _ | cycleFocus | switchMemory | toggleAscii => .look
  | toggleAddressInput | go | toggleBreakpoint | digit _ => .edit

/-- Space, `R`, `r`, `x`, `X`, `+`, `-`, FS and RS. -/
def drivingKeys : List UInt8 :=
  [0x20, 0x52, 0x72, 0x78, 0x58, 0x2B, 0x2D, 0x1C, 0x1E]

/-- The four arrows, tab, `M`, `m`, `T` and `t`. -/
def lookingKeys : List UInt8 :=
  [0x11, 0x12, 0x13, 0x14, 0x09, 0x4D, 0x6D, 0x54, 0x74]

private theorem purpose_of_mem_drivingKeys : ∀ key ∈ drivingKeys, (ofByte? key).map purpose = some .drive :=
  List.map_eq_replicate_iff.mp (by decide)

private theorem purpose_of_mem_lookingKeys : ∀ key ∈ lookingKeys, (ofByte? key).map purpose = some .look :=
  List.map_eq_replicate_iff.mp (by decide)

end Command

/-! ### What runs -/

/-- What runs in a console: the machine, its clock and its time. -/
structure Program where
  machine : Machine
  clock : Clock
  elapsedMs : Float

namespace Program

variable {p : Program}

/-- What a command does that does not edit. -/
def obey (p : Program) : Command → Program
  | .step =>
    { machine := p.machine.step
      clock := p.clock.impulse
      elapsedMs := p.elapsedMs + p.clock.speed.msPerTick }
  | .toggleRun => { p with machine := p.machine.setRunning !p.machine.running }
  | .reset => { p with machine := (p.machine.setRunning false).reset false }
  | .wipe => { p with machine := (p.machine.setRunning false).reset true }
  | .faster => { p with clock := p.clock.faster }
  | .slower => { p with clock := p.clock.slower }
  | _ => p

private theorem obey_of_look {command : Command} (look : command.purpose = .look) : p.obey command = p := by
  cases command with
  | move | cycleFocus | switchMemory | toggleAscii => rfl
  | step | toggleRun | reset | wipe | faster | slower => contradiction
  | toggleAddressInput | go | toggleBreakpoint | digit => contradiction

/-- Dispatch a byte. -/
def hear (p : Program) (key : UInt8) : Program :=
  (Command.ofByte? key).elim p p.obey

/-- One clock tick: time passes if the machine runs on. -/
def clockTick (p : Program) : Program :=
  { p with
    machine := p.machine.tick.takeHit.2
    elapsedMs := if p.machine.tick.running then p.elapsedMs + p.clock.speed.msPerTick else p.elapsedMs }

/-- Deliver the clock ticks that are due. -/
def poll (p : Program) (now : Duration) : Program :=
  clockTick^[(p.clock.poll now).1] { p with clock := (p.clock.poll now).2 }

end Program

/-! ### Beats -/

/-- What can reach the program: a clock poll, a printed control code, or a frame with the byte that it
dispatches. -/
inductive Beat
  | clock (now : Duration)
  | control (code : Control)
  | frame (key : Option UInt8)

namespace Beat

/-- Whether a frame only looks around: it dispatches nothing, a key that looks, or a byte without a command. -/
def Looks (key : Option UInt8) : Prop :=
  ∀ byte ∈ key, byte ∈ Command.lookingKeys ∨ Command.ofByte? byte = none

/-- Whether two beats are the same to the program: polls at the same time, frames that dispatch the same driving
key, and any two frames that look around. A printed control code agrees with nothing. -/
inductive Agrees : Beat → Beat → Prop
  | clock (now : Duration) : Agrees (.clock now) (.clock now)
  | drive {key : UInt8} (drives : key ∈ Command.drivingKeys) : Agrees (.frame (some key)) (.frame (some key))
  | look {first second : Option UInt8} (looks : Looks first) (looks' : Looks second) :
    Agrees (.frame first) (.frame second)

/-- Whether a beat neither edits nor begins or ends a captured line. -/
def Keeps : Beat → Prop
  | clock _ => True
  | control _ => False
  | frame key => ∀ byte ∈ key, ∀ command ∈ Command.ofByte? byte, command.purpose ≠ .edit

variable {first second : Beat}

/-- The command of a byte that looks around, if it has one, looks. -/
theorem purpose_of_looks {key : Option UInt8} (looks : Looks key) {byte : UInt8} (present : byte ∈ key)
    {command : Command} (found : command ∈ Command.ofByte? byte) : command.purpose = .look := by
  obtain known | none := looks byte present
  · have look := Command.purpose_of_mem_lookingKeys byte known
    rw [Option.mem_def.mp found] at look
    exact Option.some.inj look
  · rw [none] at found
    contradiction

theorem keeps_of_looks {key : Option UInt8} (looks : Looks key) : (frame key).Keeps := by
  intro byte present command found edit
  rw [purpose_of_looks looks present found] at edit
  contradiction

theorem Agrees.keeps (agrees : first.Agrees second) : first.Keeps ∧ second.Keeps := by
  cases agrees with
  | clock now => exact ⟨trivial, trivial⟩
  | look looks looks' => exact ⟨keeps_of_looks looks, keeps_of_looks looks'⟩
  | @drive key drives =>
    have kept : (frame (some key)).Keeps := by
      rintro _ ⟨⟩ command found edit
      have drive := Command.purpose_of_mem_drivingKeys key drives
      rw [Option.mem_def.mp found, Option.map_some, edit] at drive
      contradiction
    exact ⟨kept, kept⟩

private theorem keeps_of_agree {first second : List Beat} (agree : List.Forall₂ Agrees first second) :
    (∀ beat ∈ first, beat.Keeps) ∧ ∀ beat ∈ second, beat.Keeps := by
  induction agree with
  | nil => simp
  | cons agrees _ ih =>
    obtain ⟨keeps, keeps'⟩ := agrees.keeps
    exact ⟨List.forall_mem_cons.mpr ⟨keeps, ih.1⟩, List.forall_mem_cons.mpr ⟨keeps', ih.2⟩⟩

end Beat

namespace Program

variable {p : Program}

/-- What a beat does to the program. -/
def after (p : Program) : Beat → Program
  | .clock now => p.poll now
  | .control _ => p
  | .frame key => key.elim p p.hear

def follow (p : Program) (beats : List Beat) : Program :=
  beats.foldl after p

theorem after_of_looks {key : Option UInt8} (looks : Beat.Looks key) : p.after (.frame key) = p := by
  cases key with
  | none => rfl
  | some byte =>
    change p.hear byte = p
    unfold hear
    cases found : Command.ofByte? byte with
    | none => rfl
    | some command => exact obey_of_look (Beat.purpose_of_looks looks rfl found)

private theorem after_of_agrees {first second : Beat} (agrees : first.Agrees second) :
    p.after first = p.after second := by
  cases agrees with
  | clock now => rfl
  | drive drives => rfl
  | look looks looks' => rw [after_of_looks looks, after_of_looks looks']

private theorem follow_of_agree {first second : List Beat} (agree : List.Forall₂ Beat.Agrees first second) :
    p.follow first = p.follow second := by
  induction agree generalizing p with
  | nil => rfl
  | @cons beat beat' _ _ agrees _ ih =>
    change (p.after beat).follow _ = (p.after beat').follow _
    rw [after_of_agrees agrees]
    exact ih

end Program

namespace Console

variable {c d : Console} {p : Program} {waiting : Option UInt8}

/-- The beats of a history from a state where a byte may wait: a frame dispatches the last byte that was pushed
since the frame before. -/
def beatsFrom (waiting : Option UInt8) : List Event → List Beat
  | [] => []
  | .push byte :: rest => beatsFrom (some byte) rest
  | .control code :: rest => .control code :: beatsFrom waiting rest
  | .clock now :: rest => .clock now :: beatsFrom waiting rest
  | .frame _ :: rest => .frame waiting :: beatsFrom none rest

/-- The beats of a history from a state where no byte waits. -/
def beats (history : List Event) : List Beat :=
  beatsFrom none history

theorem beatsFrom_mono {part history : List Event} (start : part <+: history) :
    beatsFrom waiting part <+: beatsFrom waiting history := by
  obtain ⟨rest, rfl⟩ := start
  induction part generalizing waiting with
  | nil => exact List.nil_prefix
  | cons event part ih =>
    cases event with
    | push byte => exact ih
    | control code => exact List.cons_prefix_cons.mpr ⟨rfl, ih⟩
    | clock now => exact List.cons_prefix_cons.mpr ⟨rfl, ih⟩
    | frame time => exact List.cons_prefix_cons.mpr ⟨rfl, ih⟩

/-- What runs in a console. -/
def program (c : Console) : Program :=
  ⟨c.machine, c.clock, c.elapsedMs⟩

/-- A console in which this program runs and this byte waits; it captures no line. -/
structure Runs (c : Console) (p : Program) (waiting : Option UInt8) : Prop where
  program : c.program = p
  uncaptured : c.session.capturing = false
  waits : c.session.pending = waiting

/-! ### Commands -/

theorem Runs.redrawn (runs : c.Runs p waiting) (redrawn : Redrawn c d) : d.Runs p waiting := by
  obtain ⟨_, _, _, _, _, rfl⟩ := redrawn
  exact ⟨runs.program, runs.uncaptured, runs.waits⟩

theorem Runs.enter (runs : c.Runs p waiting) (focus : Focus) : (c.enter focus).Runs p waiting := by
  let entered := { c with focus }.mapFocused DataGrid.resetCursor
  have moved : { entered with edit := entered.edit.restart }.Runs p waiting :=
    ⟨runs.program, runs.uncaptured, runs.waits⟩
  exact moved.redrawn (redrawn_redraw _)

theorem Runs.switchMemory (runs : c.Runs p waiting) : c.switchMemory.Runs p waiting := by
  have switched (panels : Panels) :
      { c with space := c.space.next, panels, windowBase := 0 }.Runs p waiting :=
    ⟨runs.program, runs.uncaptured, runs.waits⟩
  exact (switched _).redrawn (redrawn_redraw _)

theorem Runs.toggleAscii (runs : c.Runs p waiting) : c.toggleAscii.Runs p waiting := by
  have shown (panels : Panels) : { c with panels }.Runs p waiting :=
    ⟨runs.program, runs.uncaptured, runs.waits⟩
  exact (shown _).redrawn (redrawn_redraw _)

theorem Runs.move (runs : c.Runs p waiting) (direction : Direction) : (c.move direction).Runs p waiting := by
  have scrolled (windowBase : Nat) : { c with windowBase }.Runs p waiting :=
    ⟨runs.program, runs.uncaptured, runs.waits⟩
  unfold Console.move
  split
  · exact ⟨runs.program, runs.uncaptured, runs.waits⟩
  · split
    · exact runs.enter _
    · exact runs.enter _
    · exact scrolled _
    · split
      · exact scrolled _
      · exact runs
    · exact runs

theorem Runs.toggleRun (runs : c.Runs p waiting) : c.toggleRun.Runs (p.obey .toggleRun) waiting := by
  have left : (if c.focus = .addressInput then c.enter .memory else c).Runs p waiting := by
    split
    · exact runs.enter .memory
    · exact runs
  have cleared := left.redrawn (redrawn_clearMessage _)
  exact ⟨congrArg (Program.obey · .toggleRun) cleared.program, cleared.uncaptured, cleared.waits⟩

/-- Every command that does not edit does to the program what the command says, whatever else the console holds. -/
theorem Runs.run (runs : c.Runs p waiting) {command : Command} (kept : command.purpose ≠ .edit) :
    (c.run command).Runs (p.obey command) waiting := by
  cases command with
  | move direction => exact runs.move direction
  | cycleFocus => exact runs.enter _
  | switchMemory => exact runs.switchMemory
  | toggleAscii => exact runs.toggleAscii
  | toggleRun => exact runs.toggleRun
  | step => exact ⟨congrArg (Program.obey · .step) runs.program, runs.uncaptured, runs.waits⟩
  | faster => exact ⟨congrArg (Program.obey · .faster) runs.program, runs.uncaptured, runs.waits⟩
  | slower => exact ⟨congrArg (Program.obey · .slower) runs.program, runs.uncaptured, runs.waits⟩
  | reset => exact ⟨congrArg (Program.obey · .reset) runs.program, runs.uncaptured, runs.waits⟩
  | wipe => exact ⟨congrArg (Program.obey · .wipe) runs.program, runs.uncaptured, runs.waits⟩
  | toggleAddressInput | go | toggleBreakpoint | digit => contradiction

theorem Runs.dispatch (runs : c.Runs p waiting) {key : UInt8}
    (kept : ∀ command ∈ Command.ofByte? key, command.purpose ≠ .edit) :
    (c.dispatch key).Runs (p.hear key) waiting := by
  have cancelled : { c with edit := c.edit.cancel }.Runs p waiting :=
    ⟨runs.program, runs.uncaptured, runs.waits⟩
  unfold Console.dispatch Program.hear
  split
  · rename_i value digit
    exact absurd rfl (kept _ digit)
  · rename_i command _ found
    rw [found]
    exact cancelled.run (kept command found)
  · rename_i none
    rw [none]
    exact cancelled

/-! ### Events -/

theorem Runs.ready (runs : c.Runs p waiting) (time : Float) : (c.ready time).Runs p none := by
  obtain ⟨_, _, _, _, _, same⟩ := c.ready_eq time
  rw [same]
  exact ⟨runs.program, runs.uncaptured, rfl⟩

theorem Runs.tick (runs : c.Runs p waiting) (poised : c.Poised) (kept : (Beat.frame waiting).Keeps) (time : Float) :
    (c.tick time).Runs (p.after (.frame waiting)) none := by
  have ready := runs.ready time
  cases waiting with
  | none =>
    rw [tick_of_idle poised runs.waits]
    exact ready
  | some key =>
    have other : ∀ value, key ∉ Command.digitKeys value := by
      intro value digit
      exact kept key rfl (.digit value) (Command.ofByte?_eq_digit_iff.mpr digit) rfl
    rw [tick_of_other poised runs.waits other]
    exact ready.dispatch (kept key rfl)

theorem Runs.clockTick (runs : c.Runs p waiting) : c.clockTick.Runs p.clockTick waiting := by
  obtain ⟨grid, next⟩ := c.clockTick_drawn
  rw [next]
  exact ⟨congrArg Program.clockTick runs.program, runs.uncaptured, runs.waits⟩

theorem Runs.clockTicks (runs : c.Runs p waiting) (ticks : Nat) :
    (c.clockTicks ticks).Runs (Program.clockTick^[ticks] p) waiting := by
  induction ticks generalizing c p with
  | zero => exact runs
  | succ ticks ih => exact ih runs.clockTick

theorem Runs.runClock (runs : c.Runs p waiting) (now : Duration) :
    (c.runClock now).2.Runs (p.poll now) waiting := by
  obtain ⟨rfl, uncaptured, waits⟩ := runs
  have polled :
      { c with clock := (c.clock.poll now).2 }.Runs ⟨c.machine, (c.clock.poll now).2, c.elapsedMs⟩ waiting :=
    ⟨rfl, uncaptured, waits⟩
  exact polled.clockTicks _

/-- A pushed byte waits, in place of one that was not taken yet. -/
theorem Runs.push (runs : c.Runs p waiting) (poised : c.Poised) (byte : UInt8) :
    (c.push byte).Runs p (some byte) := by
  have uncaptured := Bool.eq_false_iff.mp runs.uncaptured
  have waits : c.session.push byte = { c.session with pending := some byte } := by
    rw [c.session.push_of_mute poised.mute, if_neg uncaptured]
  rw [Console.push, waits]
  exact ⟨runs.program, runs.uncaptured, rfl⟩

/-- What runs is determined by the beats. -/
theorem Runs.replay (runs : c.Runs p waiting) (poised : c.Poised) {history : List Event}
    (kept : ∀ beat ∈ beatsFrom waiting history, beat.Keeps) :
    (c.replay history).program = p.follow (beatsFrom waiting history) := by
  -- A push is no beat of its own: it only changes the byte that waits for the next frame.
  induction history generalizing c p waiting with
  | nil => exact runs.program
  | cons event rest ih =>
    have next := poised_after poised event
    cases event with
    | push byte => exact ih (runs.push poised byte) next kept
    | control code => exact (kept _ List.mem_cons_self).elim
    | clock now =>
      obtain ⟨_, later⟩ := List.forall_mem_cons.mp kept
      exact ih (runs.runClock now) next later
    | frame time =>
      obtain ⟨now, later⟩ := List.forall_mem_cons.mp kept
      exact ih (runs.tick poised now time) next later

/-! ### Two runs -/

/-- Looking around does not disturb what runs: two runs whose beats agree, from a state that captures no line and
has no byte waiting, have the same machine, clock and time after as many beats, whatever has the focus and
whatever the times of the frames. -/
theorem program_eq_of_agree (reachable : c.Reachable) (uncaptured : c.session.capturing = false)
    (idle : c.session.pending = none) {first second : List Event}
    (agree : List.Forall₂ Beat.Agrees (beats first) (beats second)) {past past' : List Event}
    (start : past <+: first) (start' : past' <+: second) (level : (beats past).length = (beats past').length) :
    (c.replay past).machine = (c.replay past').machine ∧ (c.replay past).clock = (c.replay past').clock ∧
      (c.replay past).elapsedMs = (c.replay past').elapsedMs := by
  have poised := reachable.poised
  have runs : c.Runs c.program none := ⟨rfl, uncaptured, idle⟩
  have agree' : List.Forall₂ Beat.Agrees (beats past) (beats past') := by
    have cut : beats past = (beats first).take (beats past).length :=
      List.prefix_iff_eq_take.mp (beatsFrom_mono start)
    have cut' : beats past' = (beats second).take (beats past').length :=
      List.prefix_iff_eq_take.mp (beatsFrom_mono start')
    rw [cut, cut', level]
    exact List.forall₂_take _ agree
  obtain ⟨kept, kept'⟩ := Beat.keeps_of_agree agree'
  have same : (c.replay past).program = (c.replay past').program :=
    calc (c.replay past).program
      _ = c.program.follow (beats past) := runs.replay poised kept
      _ = c.program.follow (beats past') := Program.follow_of_agree agree'
      _ = (c.replay past').program := (runs.replay poised kept').symm
  exact ⟨congrArg Program.machine same, congrArg Program.clock same, congrArg Program.elapsedMs same⟩

/-- One run only steps; the other one also goes to the registers, presses `Z`, and switches the memory in view. -/
theorem program_eq_of_agree_step :
    let c := (Console.new (Machine.new 16 16 128) (Clock.new .middle 1000)).after (.clock ⟨0⟩)
    let first : List Event := [.frame 0.0, .push 0x20, .frame 0.1, .clock ⟨100000000⟩, .frame 0.2]
    let second : List Event :=
      [.push 0x09, .frame 0.0, .push 0x5A, .push 0x20, .frame 0.1, .clock ⟨100000000⟩, .push 0x6D, .frame 0.3]
    c.session.capturing = false ∧ c.session.pending = none ∧
      List.Forall₂ Beat.Agrees (beats first) (beats second) ∧
      (c.replay first).machine = (c.replay second).machine ∧ (c.replay first).clock = (c.replay second).clock ∧
        (c.replay first).elapsedMs = (c.replay second).elapsedMs := by
  intro c first second
  have listens := listens_new (Machine.new 16 16 128) (Clock.new .middle 1000)
  have before : (Console.new _ _).Runs _ none := ⟨rfl, listens.uncaptured, listens.idle⟩
  obtain ⟨_, uncaptured, idle⟩ := before.runClock ⟨0⟩
  have looks : Beat.Looks none := fun _ impossible => nomatch impossible
  have tab : Beat.Looks (some 0x09) := by
    rintro _ ⟨⟩
    decide
  have view : Beat.Looks (some 0x6D) := by
    rintro _ ⟨⟩
    decide
  have agree : List.Forall₂ Beat.Agrees (beats first) (beats second) :=
    .cons (.look looks tab) (.cons (.drive (by decide)) (.cons (.clock _) (.cons (.look looks view) .nil)))
  have reachable : c.Reachable := .after (.new _ _) (.clock ⟨0⟩)
  have same := program_eq_of_agree reachable uncaptured idle agree (List.prefix_refl first) (List.prefix_refl second) rfl
  exact ⟨uncaptured, idle, agree, same⟩

end Console

end Mcs51
