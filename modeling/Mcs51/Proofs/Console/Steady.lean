import Mcs51.Proofs.Console.Effects
import Mcs51.Proofs.Core.Footprint
import Mcs51.Proofs.Machine.Notification

/-! # What most commands leave alone

A console asks its machine for single operations, and only the clock lets it tick (`Machine.Asked`). Most
commands leave the memory window, the trails and the cycle count of the last frame alone (`Steady`). A property that
the others keep as well is kept by every command and by every frame that begins with it (`Kept.tick`); a part of the
console that every command is known to change in some way is changed so by a frame (`Obeys.tick`).
-/

namespace Mcs51

namespace Machine

variable {m m' last : Machine}

/-! ### Operations of the machine -/

/-- What can become of a machine by operations other than clock ticks. -/
inductive Asked (m : Machine) : Machine → Prop
  | refl : Asked m m
  | perform {m' : Machine} (asked : Asked m m') (op : Operation) (noTick : op ≠ .tick) :
    Asked m (m'.perform op)

theorem Asked.trans (first : m.Asked m') (second : m'.Asked last) : m.Asked last := by
  induction second with
  | refl => exact first
  | perform _ op noTick ih => exact ih.perform op noTick

/-- A machine that is asked for one operation. -/
theorem asked_perform (m : Machine) (op : Operation) (noTick : op ≠ .tick) : m.Asked (m.perform op) :=
  Asked.refl.perform op noTick

theorem spaceSize_reset (m : Machine) (wipe : Bool) (space : Space) :
    (m.reset wipe).cpu.spaceSize space = m.cpu.spaceSize space := by
  cases wipe <;> cases space <;> simp [reset, Cpu.reset, Cpu.spaceSize, Cpu.memory]

/-- The registers lie in memories of fixed size. -/
theorem spaceSize_writeRegister (m : Machine) (index : Nat) (value : UInt16) (space : Space) :
    (m.writeRegister index value).cpu.spaceSize space = m.cpu.spaceSize space := by
  have start : m.cpu.ChangesOnly (fun _ => True) m.cpu := .refl _
  rw [writeRegister]
  split
  · exact (start.setSfr trivial _).spaceSize space
  · split
    · rw [Cpu.setReg_eq_write, Cpu.spaceSize_write]
    · split
      · exact (start.setSfr trivial _).spaceSize space
      · split
        · exact (start.setDptr trivial trivial _).spaceSize space
        · rfl

theorem spaceSize_tick (m : Machine) (space : Space) : m.tick.cpu.spaceSize space = m.cpu.spaceSize space := by
  rcases m.tick_cases with ⟨_, ticked⟩ | ⟨_, ticked⟩ | ⟨_, _, ticked⟩
  · rw [ticked]
    exact m.cpu.changesOnly_step.spaceSize space
  · rw [ticked]
  · rw [ticked]

/-- No operation changes the size of a memory. -/
theorem spaceSize_perform (m : Machine) (op : Operation) (space : Space) :
    (m.perform op).cpu.spaceSize space = m.cpu.spaceSize space := by
  cases op with
  | writeByte place addr value => exact m.cpu.spaceSize_write place addr value space
  | writeRegister index value => exact m.spaceSize_writeRegister index value space
  | reset wipe => exact m.spaceSize_reset wipe space
  | tick => exact m.spaceSize_tick space
  | setPc addr => cases space <;> rfl
  | step => rfl
  | setRunning running => rfl
  | setBreakpoint addr => rfl
  | takeHit => rfl

theorem Asked.spaceSize (asked : m.Asked m') (space : Space) :
    m'.cpu.spaceSize space = m.cpu.spaceSize space := by
  induction asked with
  | refl => rfl
  | perform _ op _ ih => rw [spaceSize_perform, ih]

/-- Only a tick halts, so no other operation makes a halt known. -/
theorem Asked.hit (asked : m.Asked m') (fresh : m.hit = false) : m'.hit = false := by
  induction asked with
  | refl => exact fresh
  | perform _ op noTick ih =>
    rw [← Bool.not_eq_true]
    intro due
    rcases hit_perform due with ⟨tick, _⟩ | ⟨still, _⟩
    · exact noTick tick
    · exact absurd (ih.symm.trans still) (by decide)

/-- Only ticks take cycles. -/
theorem Asked.cycles (asked : m.Asked m') (zero : m.cycles = 0) : m'.cycles = 0 := by
  induction asked with
  | refl => exact zero
  | perform _ op noTick ih =>
    cases op with
    | tick => contradiction
    | reset wipe => rfl
    | step => exact ih
    | setRunning running => exact ih
    | setPc addr => exact ih
    | setBreakpoint addr => exact ih
    | writeByte space addr value => exact ih
    | writeRegister index value => exact ih
    | takeHit => exact ih

end Machine

namespace Console

variable {c d : Console}

/-! ### Steady commands -/

/-- What happens to a console that neither scrolls nor resets nor lets its machine tick. -/
structure Steady (c d : Console) : Prop where
  space : d.space = c.space
  windowBase : d.windowBase = c.windowBase
  lastCycles : d.lastCycles = c.lastCycles
  trail : ∀ value, d.panels.trail value = c.panels.trail value
  machine : c.machine.Asked d.machine

theorem Steady.refl (c : Console) : Steady c c :=
  ⟨rfl, rfl, rfl, fun _ => rfl, .refl⟩

theorem Steady.trans {e : Console} (first : Steady c d) (second : Steady d e) : Steady c e where
  space := second.space.trans first.space
  windowBase := second.windowBase.trans first.windowBase
  lastCycles := second.lastCycles.trans first.lastCycles
  trail value := (second.trail value).trans (first.trail value)
  machine := first.machine.trans second.machine

theorem Redrawn.steady (redrawn : Redrawn c d) : Steady c d := by
  obtain ⟨_, _, _, _, _, rfl⟩ := redrawn
  exact ⟨rfl, rfl, rfl, fun _ => rfl, .refl⟩

theorem steady_mapFocused (c : Console) (f : DataGrid → DataGrid) : Steady c (c.mapFocused f) := by
  refine ⟨rfl, rfl, rfl, fun value => ?_, .refl⟩
  unfold mapFocused
  cases c.focus <;> cases value <;> rfl

theorem steady_enter (c : Console) (focus : Focus) : Steady c (c.enter focus) := by
  have moved := steady_mapFocused { c with focus } DataGrid.resetCursor
  have restarted : Steady c { ({ c with focus }.mapFocused DataGrid.resetCursor) with
      edit := ({ c with focus }.mapFocused DataGrid.resetCursor).edit.restart } :=
    ⟨moved.space, moved.windowBase, moved.lastCycles, moved.trail, moved.machine⟩
  exact restarted.trans (redrawn_redraw _).steady

/-- One operation that the machine is asked for. -/
theorem steady_perform (c : Console) (op : Machine.Operation) (noTick : op ≠ .tick) :
    Steady c { c with machine := c.machine.perform op } :=
  ⟨rfl, rfl, rfl, fun _ => rfl, c.machine.asked_perform op noTick⟩

theorem steady_toggleRun (c : Console) : Steady c c.toggleRun := by
  have left : Steady c (if c.focus = .addressInput then c.enter .memory else c) := by
    split
    · exact c.steady_enter .memory
    · exact .refl c
  have cleared := left.trans (redrawn_clearMessage _).steady
  exact cleared.trans (steady_perform _ (.setRunning _) nofun)

theorem steady_toggleAddressInput (c : Console) : Steady c c.toggleAddressInput := by
  unfold toggleAddressInput
  split
  · exact c.steady_enter .memory
  · exact (c.steady_perform (.setRunning false) nofun).trans (steady_enter _ .addressInput)

theorem steady_go (c : Console) : Steady c c.go := by
  unfold go
  split
  · exact (c.steady_perform (.setPc c.address) nofun).trans (redrawn_showMessage _ _).steady
  · exact .refl c

theorem steady_toggleBreakpoint (c : Console) : Steady c c.toggleBreakpoint := by
  unfold toggleBreakpoint
  split
  · split
    · exact (c.steady_perform (.setBreakpoint none) nofun).trans (redrawn_showMessage _ _).steady
    · exact (c.steady_perform (.setBreakpoint (some c.address)) nofun).trans (redrawn_showMessage _ _).steady
  · exact .refl c

theorem steady_toggleAscii (c : Console) : Steady c c.toggleAscii := by
  have shown : Steady c { c with panels :=
      { c.panels with ascii := c.panels.ascii.setHidden c.panels.asciiVisible } } :=
    ⟨rfl, rfl, rfl, fun value => by cases value <;> rfl, .refl⟩
  exact shown.trans (redrawn_redraw _).steady

private theorem steady_writeTarget (c : Console) (target : EditTarget) (value : UInt8) :
    Steady c (c.writeTarget target value) := by
  cases target with
  | memory space addr => exact c.steady_perform (.writeByte space addr value) nofun
  | register index => exact c.steady_perform (.writeRegister index value.toUInt16) nofun
  | dataPointer half =>
    refine ⟨rfl, rfl, rfl, fun value => ?_, c.machine.asked_perform (.writeRegister 10 _) nofun⟩
    cases value <;> rfl
  | addressInput half => exact ⟨rfl, rfl, rfl, fun _ => rfl, .refl⟩

theorem steady_commitDigit (c : Console) (digit : Fin 16) : Steady c (c.commitDigit digit) := by
  -- Edit state and caret matter to nothing that is steady.
  have adjusted {d : Console} (steady : Steady c d) (edit : Edit) (caret : Coord) :
      Steady c { d with edit, caret } :=
    ⟨steady.space, steady.windowBase, steady.lastCycles, steady.trail, steady.machine⟩
  unfold commitDigit
  split
  · exact .refl c
  · rename_i target _
    obtain ⟨write, edit⟩ := c.edit.apply (c.readTarget target) digit
    have written := (adjusted (.refl c) edit c.caret).trans (steady_writeTarget _ target write.value)
    have turned := adjusted written
    dsimp only
    split
    · exact (turned _ _).trans (steady_mapFocused _ _)
    · exact turned _ _

/-! ### Every command -/

/-- A cursor move either is steady or scrolls the memory window by a row, downwards only as far as there are
bytes behind it. -/
theorem move_cases (c : Console) (direction : Direction) :
    Steady c (c.move direction) ∨
      c.move direction = { c with windowBase := c.windowBase - memoryCols } ∨
      (c.windowBase + memoryWindow < c.machine.cpu.spaceSize c.space ∧
        c.move direction = { c with windowBase := c.windowBase + memoryCols }) := by
  unfold move
  split
  · exact .inl (c.steady_mapFocused _)
  · split
    · exact .inl (c.steady_enter _)
    · exact .inl (c.steady_enter _)
    · exact .inr (.inl rfl)
    · split
      · rename_i room
        exact .inr (.inr ⟨room, rfl⟩)
      · exact .inl (.refl c)
    · exact .inl (.refl c)

/-- A property of consoles that no command breaks. -/
structure Kept (P : Console → Prop) : Prop where
  steady : ∀ {c d}, P c → Steady c d → P d
  scrollUp : ∀ {c}, P c → P { c with windowBase := c.windowBase - memoryCols }
  scrollDown : ∀ {c}, P c → c.windowBase + memoryWindow < c.machine.cpu.spaceSize c.space →
    P { c with windowBase := c.windowBase + memoryCols }
  switchMemory : ∀ {c}, P c → P c.switchMemory
  reset : ∀ {c} (wipe : Bool), P c → P (c.reset wipe)

variable {P : Console → Prop}

theorem Kept.run (kept : Kept P) (holds : P c) (command : Command) : P (c.run command) := by
  cases command with
  | move direction =>
    rcases c.move_cases direction with steady | scrolled | ⟨room, scrolled⟩
    · exact kept.steady holds steady
    · rw [Console.run, scrolled]
      exact kept.scrollUp holds
    · rw [Console.run, scrolled]
      exact kept.scrollDown holds room
  | switchMemory => exact kept.switchMemory holds
  | reset => exact kept.reset false holds
  | wipe => exact kept.reset true holds
  | toggleRun => exact kept.steady holds c.steady_toggleRun
  | toggleAddressInput => exact kept.steady holds c.steady_toggleAddressInput
  | go => exact kept.steady holds c.steady_go
  | toggleBreakpoint => exact kept.steady holds c.steady_toggleBreakpoint
  | toggleAscii => exact kept.steady holds c.steady_toggleAscii
  | cycleFocus => exact kept.steady holds (c.steady_enter _)
  | step => exact kept.steady holds ⟨rfl, rfl, rfl, fun _ => rfl, c.machine.asked_perform .step nofun⟩
  | faster => exact kept.steady holds ⟨rfl, rfl, rfl, fun _ => rfl, .refl⟩
  | slower => exact kept.steady holds ⟨rfl, rfl, rfl, fun _ => rfl, .refl⟩
  | digit value => exact kept.steady holds ⟨rfl, rfl, rfl, fun _ => rfl, .refl⟩

theorem Kept.dispatch (kept : Kept P) (holds : P c) (key : UInt8) : P (c.dispatch key) := by
  have cancelled : P { c with edit := c.edit.cancel } :=
    kept.steady holds ⟨rfl, rfl, rfl, fun _ => rfl, .refl⟩
  unfold Console.dispatch
  split
  · exact kept.run holds _
  · exact kept.run cancelled _
  · exact cancelled

/-- A frame gets ready and then does nothing, applies a digit, or dispatches the byte that waits. -/
theorem Kept.tick (kept : Kept P) (poised : c.Poised) {time : Float} (ready : P (c.ready time)) :
    P (c.tick time) := by
  cases waits : c.session.pending with
  | none =>
    rw [tick_of_idle poised waits]
    exact ready
  | some key =>
    by_cases digit : ∃ value, key ∈ Command.digitKeys value
    · obtain ⟨value, digit⟩ := digit
      rw [tick_of_digit poised waits digit]
      exact kept.steady ready (steady_commitDigit _ value)
    · rw [not_exists] at digit
      rw [tick_of_other poised waits digit]
      exact kept.dispatch ready key

/-! ### Parts of a console -/

/-- A part of a console that is changed by commands as told, by no edit state and by no digit. -/
structure Obeys {α : Type} (part : Console → α) (obey : Console → Command → α) : Prop where
  run : ∀ c command, part (c.run command) = obey c command
  edited : ∀ (c : Console) (edit : Edit), part { c with edit } = part c ∧ obey { c with edit } = obey c
  commitDigit : ∀ (c : Console) (digit : Fin 16), part (c.commitDigit digit) = part c

section Obeys

variable {α : Type} {part : Console → α} {obey : Console → Command → α}

theorem Obeys.dispatch (obeys : Obeys part obey) (c : Console) (key : UInt8) :
    part (c.dispatch key) = (Command.ofByte? key).elim (part c) (obey c) := by
  obtain ⟨same, same'⟩ := obeys.edited c c.edit.cancel
  unfold Console.dispatch
  split
  · rename_i value found
    rw [found]
    exact obeys.run c (.digit value)
  · rename_i command _ found
    rw [found, obeys.run, same']
    rfl
  · rename_i none
    rw [none]
    exact same

/-- A frame gets ready, and then does to such a part what the command of the waiting byte says, if there is
one. -/
theorem Obeys.tick (obeys : Obeys part obey) (poised : c.Poised) (time : Float) :
    part (c.tick time) =
      (c.session.pending.bind Command.ofByte?).elim (part (c.ready time)) (obey (c.ready time)) := by
  cases waits : c.session.pending with
  | none =>
    rw [tick_of_idle poised waits]
    rfl
  | some key =>
    rw [Option.bind_some]
    by_cases digit : ∃ value, key ∈ Command.digitKeys value
    · obtain ⟨value, digit⟩ := digit
      -- A digit that is queued changes the edit state only.
      have queued := (obeys.run (c.ready time) (.digit value)).symm.trans (obeys.edited _ _).1
      rw [tick_of_digit poised waits digit, obeys.commitDigit, Command.ofByte?_eq_digit_iff.mpr digit]
      exact queued.symm
    · rw [not_exists] at digit
      rw [tick_of_other poised waits digit, obeys.dispatch]

end Obeys

/-! ### The machine of a console -/

theorem machine_redraw (c : Console) : c.redraw.machine = c.machine := by
  obtain ⟨_, _, _, _, _, same⟩ := redrawn_redraw c
  rw [same]

theorem machine_ready (c : Console) (time : Float) : (c.ready time).machine = c.machine := by
  obtain ⟨_, _, _, _, _, same⟩ := c.ready_eq time
  rw [same]
  rfl

private theorem kept_asked (m : Machine) : Kept fun c => m.Asked c.machine where
  steady asked steady := asked.trans steady.machine
  scrollUp asked := asked
  scrollDown asked _ := asked
  switchMemory asked := by
    rw [switchMemory, machine_redraw]
    exact asked
  reset wipe asked := (asked.perform (.setRunning false) nofun).perform (.reset wipe) nofun

/-- In a frame the machine is asked for single operations. -/
theorem asked_tick (poised : c.Poised) (time : Float) : c.machine.Asked (c.tick time).machine := by
  apply (kept_asked c.machine).tick poised
  rw [machine_ready]
  exact .refl

theorem machine_clockTick (c : Console) : c.clockTick.machine = c.machine.tick.takeHit.2 := by
  obtain ⟨_, next⟩ := c.clockTick_drawn
  rw [next]

end Console

end Mcs51
