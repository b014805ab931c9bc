import Mcs51.Proofs.Console.Looking
import Mcs51.Proofs.Console.Steady

/-! # Wiping

The reset of a machine leaves alone whether it runs and a halt that was not announced. A wipe of the console
stops the machine first, and between two events no halt is left to announce, so the machine is then a new one
with the present code (`Machine.reset_eq_new`). Main statement: `wipe_returns_to_new`, for every history before
the wipe, and for everything but a clock poll after it.
-/

namespace Mcs51

/-! ### The machine -/

namespace Machine

/-- What a console keeps of a machine: it has no halt to announce, and its memories have the sizes of another
machine. -/
structure Announced (m origin : Machine) : Prop where
  fresh : m.hit = false
  sizes : ∀ space, m.cpu.spaceSize space = origin.cpu.spaceSize space

variable {m m' origin : Machine}

theorem Announced.asked (announced : m.Announced origin) (asked : m.Asked m') : m'.Announced origin where
  fresh := asked.hit announced.fresh
  sizes space := (asked.spaceSize space).trans (announced.sizes space)

/-- A halt of a tick is announced at once. -/
theorem Announced.tick (announced : m.Announced origin) : m.tick.takeHit.2.Announced origin where
  fresh := rfl
  sizes space := (m.spaceSize_tick space).trans (announced.sizes space)

def withCode (m : Machine) (code : Array UInt8) : Machine :=
  { m with cpu := { m.cpu with code } }

/-- A machine that is stopped and wiped is a new one with the present code. -/
theorem reset_eq_new {codeSize externalSize upperSize : Nat}
    (announced : m.Announced (Machine.new codeSize externalSize upperSize)) :
    (m.setRunning false).reset true = (Machine.new codeSize externalSize upperSize).withCode m.cpu.code := by
  have external : m.cpu.external.size = externalSize :=
    (announced.sizes .external).trans (Array.size_replicate ..)
  have upper : m.cpu.upper.size = upperSize := (announced.sizes .upper).trans (Array.size_replicate ..)
  simp only [reset, setRunning, Cpu.reset, withCode, new, Cpu.new, announced.fresh, external, upper, ↓reduceIte]

end Machine

/-! ### The trails -/

/-- A trail after a wipe: zero, or the placeholder of the disassembly. -/
def Trail.wiped (t : Trail) : TrackedValue → Trail
  | .code => t.clear.mapSurface fun s => s.setRowsFrom 0 (List.replicate trailDepth Panels.codePlaceholder)
  | _ => t.clear

private theorem Surface.clear_set (s : Surface) (row col : Nat) (byte : UInt8) :
    (s.set row col byte).clear = s.clear := by
  unfold set
  split <;> rfl

private theorem Surface.clear_setFrom (s : Surface) (row col : Nat) (bytes : List UInt8) :
    (s.setFrom row col bytes).clear = s.clear := by
  induction bytes generalizing s col with
  | nil => rfl
  | cons byte rest ih => rw [setFrom, ih, clear_set]

/-- Nothing that was written survives a clearing. -/
theorem Surface.clear_setRowsFrom (s : Surface) (row : Nat) (lines : List (List UInt8)) :
    (s.setRowsFrom row lines).clear = s.clear := by
  induction lines generalizing s row with
  | nil => rfl
  | cons bytes rest ih => rw [setRowsFrom, ih, setRow, clear_setFrom]

private theorem Trail.wiped_wiped (t : Trail) (value : TrackedValue) : (t.wiped value).wiped value = t.wiped value := by
  cases value with
  | code =>
    have cleared (lines : List (List UInt8)) :
        (t.clear.mapSurface fun s => s.setRowsFrom 0 lines).clear = t.clear := by
      simp only [Trail.clear, Trail.mapSurface, DataGrid.mapSurface, Surface.clear_setRowsFrom]
      rfl
    rw [Trail.wiped, Trail.wiped, cleared]
  | _ => rfl

theorem Panels.trail_setFrame (p : Panels) (memoryFrame : Frame) (value : TrackedValue) :
    { p with memoryFrame }.trail value = p.trail value := by
  cases value <;> rfl

theorem Panels.trail_wipe (p : Panels) (value : TrackedValue) : p.wipe.trail value = (p.trail value).wiped value := by
  cases value <;> rfl

/-! ### The panels -/

/-- Panels that show zeros, and the placeholder in the disassembly and its trail. -/
structure Panels.Wiped (p : Panels) : Prop where
  plain : ∀ g ∈ [p.memory, p.memoryAddr, p.ascii, p.stack, p.addressInput], g.surface.All (· = 0)
  tracked : ∀ t ∈ [p.status, p.ports, p.registers, p.dataPointer, p.control], t.All (· = 0)
  code : p.code.live.row 0 = codePlaceholder
  codeTrail : p.code.trail.entries = List.replicate trailDepth codePlaceholder

theorem Panels.length_codePlaceholder : codePlaceholder.length = codeWidth := by
  decide

theorem Panels.WellFormed.layout_code {p : Panels} (wf : p.WellFormed) :
    p.code.live.layout = (blank false).code.live.layout ∧
      p.code.trail.grid.layout = (blank false).code.trail.grid.layout := by
  have layouts := wf.layouts
  simp only [Panels.layouts, grids, List.map_cons, List.map_nil, List.cons.injEq] at layouts
  obtain ⟨-, -, -, -, -, -, -, -, -, -, -, -, -, -, -, live, trail, -⟩ := layouts
  exact ⟨live, trail⟩

private theorem Panels.WellFormed.wiped_wipe {p : Panels} (wf : p.WellFormed) : p.wipe.Wiped where
  plain g member := by
    simp only [List.mem_cons, List.not_mem_nil, or_false] at member
    rcases member with rfl | rfl | rfl | rfl | rfl <;> exact Surface.all_clear rfl
  tracked t member := by
    simp only [List.mem_cons, List.not_mem_nil, or_false] at member
    rcases member with rfl | rfl | rfl | rfl | rfl <;> exact Tracked.all_clear rfl
  code := by
    obtain ⟨live, _⟩ := wf.layout_code
    have rows : p.code.live.surface.clear.rows = 1 := congrArg (·.shape.rows) live
    have cols : p.code.live.surface.clear.cols = codeWidth := congrArg (·.shape.cols) live
    have length := length_codePlaceholder
    unfold Panels.wipe Panels.initCode
    generalize codePlaceholder = line at length ⊢
    change (p.code.live.surface.clear.setRowsFrom 0 [line]).row 0 = line
    apply Surface.row_setRowsFrom
    · rw [rows]
      exact Nat.one_pos
    · rfl
    · rw [cols, length]
  codeTrail := by
    obtain ⟨_, trail⟩ := wf.layout_code
    have rows : p.code.trail.grid.surface.clear.rows = trailDepth := congrArg (·.shape.rows) trail
    have cols : p.code.trail.grid.surface.clear.cols = codeWidth := congrArg (·.shape.cols) trail
    have length := length_codePlaceholder
    unfold Panels.wipe Panels.initCode
    generalize codePlaceholder = line at length ⊢
    change (p.code.trail.grid.surface.clear.setRowsFrom 0 (List.replicate trailDepth line)).allRows = _
    have depth := Surface.rows_eq_of_shape
      (Surface.shape_setRowsFrom p.code.trail.grid.surface.clear 0 (List.replicate trailDepth line))
    rw [Surface.allRows, depth, rows, List.eq_replicate_iff]
    constructor
    · rw [List.length_map, List.length_range]
    · intro bytes member
      obtain ⟨row, inside, rfl⟩ := List.mem_map.mp member
      rw [List.mem_range] at inside
      apply Surface.row_setRowsFrom
      · rwa [rows]
      · rw [List.getElem?_replicate, if_pos inside]
      · rw [cols, length]

namespace Console

variable {c d : Console} {origin : Machine}

/-! ### The machine between events -/

private theorem announced_clockTicks (announced : c.machine.Announced origin) (ticks : Nat) :
    (c.clockTicks ticks).machine.Announced origin := by
  induction ticks generalizing c with
  | zero => exact announced
  | succ ticks ih =>
    apply ih
    rw [machine_clockTick]
    exact announced.tick

private theorem announced_after (poised : c.Poised) (announced : c.machine.Announced origin) (event : Event) :
    (c.after event).machine.Announced origin := by
  cases event with
  | push byte => exact announced
  | control code => exact announced
  | clock now => exact @announced_clockTicks { c with clock := (c.clock.poll now).2 } _ announced _
  | frame time => exact announced.asked (asked_tick poised time)

private theorem announced_replay (poised : c.Poised) (announced : c.machine.Announced origin) (history : List Event) :
    (c.replay history).machine.Announced origin := by
  induction history generalizing c with
  | nil => exact announced
  | cons event rest ih => exact ih (poised_after poised event) (announced_after poised announced event)

/-! ### Standing still -/

variable {trails : TrackedValue → Trail}

/-- A console whose machine took no cycle that the trails do not know of, with trails that a wipe leaves as they
are. -/
structure Still (c : Console) (trails : TrackedValue → Trail) : Prop where
  cycles : c.machine.cycles = 0
  lastCycles : c.lastCycles = 0
  trail : ∀ value, c.panels.trail value = trails value
  wiped : ∀ value, (trails value).wiped value = trails value

theorem Still.steady (still : c.Still trails) (steady : Steady c d) : d.Still trails where
  cycles := steady.machine.cycles still.cycles
  lastCycles := steady.lastCycles.trans still.lastCycles
  trail value := (steady.trail value).trans (still.trail value)
  wiped := still.wiped

theorem Still.switchMemory (still : c.Still trails) : c.switchMemory.Still trails := by
  have switched : { c with
      space := c.space.next
      panels := { c.panels with memoryFrame := c.panels.memoryFrame.setTitle c.space.next.title }
      windowBase := 0 }.Still trails :=
    ⟨still.cycles, still.lastCycles, fun value => (c.panels.trail_setFrame _ value).trans (still.trail value),
      still.wiped⟩
  exact switched.steady (redrawn_redraw _).steady

theorem Still.reset (still : c.Still trails) (wipe : Bool) : (c.reset wipe).Still trails := by
  cases wipe with
  | false => exact ⟨rfl, rfl, still.trail, still.wiped⟩
  | true =>
    refine ⟨rfl, rfl, fun value => ?_, still.wiped⟩
    calc c.panels.wipe.trail value
      _ = (c.panels.trail value).wiped value := c.panels.trail_wipe value
      _ = (trails value).wiped value := by rw [still.trail]
      _ = trails value := still.wiped value

private theorem kept_still (trails : TrackedValue → Trail) : Kept (Still · trails) where
  steady still steady := still.steady steady
  scrollUp still := ⟨still.cycles, still.lastCycles, still.trail, still.wiped⟩
  scrollDown still _ := ⟨still.cycles, still.lastCycles, still.trail, still.wiped⟩
  switchMemory still := still.switchMemory
  reset wipe still := still.reset wipe

/-- Where no cycle passed, a refresh only fills the panels. -/
theorem Still.panels_refresh (still : c.Still trails) : c.refresh.panels = c.refreshPanels c.panels := by
  have unpassed : ¬c.lastCycles < c.machine.cycles := by
    rw [still.cycles]
    exact Nat.not_lt_zero _
  rw [refresh]
  simp only [if_neg unpassed]

theorem trail_refreshPanels (c : Console) (p : Panels) (value : TrackedValue) :
    (c.refreshPanels p).trail value = p.trail value := by
  cases value <;> simp only [refreshPanels, Panels.trail, Tracked.trail_setRow]

theorem Still.ready (still : c.Still trails) (time : Float) : (c.ready time).Still trails := by
  obtain ⟨_, _, _, _, _, same⟩ := c.ready_eq time
  rw [same]
  refine ⟨still.cycles, still.cycles, fun value => ?_, still.wiped⟩
  change c.refresh.panels.trail value = trails value
  rw [still.panels_refresh, trail_refreshPanels, still.trail]

theorem Still.tick (still : c.Still trails) (poised : c.Poised) (time : Float) : (c.tick time).Still trails :=
  (kept_still trails).tick poised (still.ready time)

/-- Whether a history polls no clock. -/
def Unpolled (history : List Event) : Prop :=
  ∀ event ∈ history, ∀ now, event ≠ .clock now

theorem Still.replay (still : c.Still trails) (poised : c.Poised) {history : List Event}
    (unpolled : Unpolled history) : (c.replay history).Still trails := by
  induction history generalizing c with
  | nil => exact still
  | cons event rest ih =>
    obtain ⟨now, later⟩ := List.forall_mem_cons.mp unpolled
    refine ih ?_ (poised_after poised event) later
    cases event with
    | push byte => exact ⟨still.cycles, still.lastCycles, still.trail, still.wiped⟩
    | control code => exact ⟨still.cycles, still.lastCycles, still.trail, still.wiped⟩
    | clock time => exact absurd rfl (now time)
    | frame time => exact still.tick poised time

private theorem still_wipe (c : Console) : (c.reset true).Still c.panels.wipe.trail where
  cycles := rfl
  lastCycles := rfl
  trail _ := rfl
  wiped value := by rw [Panels.trail_wipe, Trail.wiped_wiped]

/-! ### A wipe -/

/-- The key of a wipe is `X`. -/
theorem dispatch_wipe (c : Console) : c.dispatch 0x58 = { c with edit := c.edit.cancel }.reset true := by
  have wipe : Command.ofByte? 0x58 = some .wipe := by decide
  rw [dispatch, wipe]
  rfl

private theorem tick_wipe (poised : c.Poised) (waits : c.session.pending = some 0x58) (time : Float) :
    c.tick time = { c.ready time with edit := (c.ready time).edit.cancel }.reset true := by
  have other (value : Fin 16) : (0x58 : UInt8) ∉ Command.digitKeys value := by
    rw [← Command.ofByte?_eq_digit_iff]
    revert value
    decide
  rw [tick_of_other poised waits other, dispatch_wipe]

/-- A wipe returns to a new machine with the present code, whatever happened before: no run state, breakpoint or
halt is left. The panels, their trails and the typed address are blank, and without a clock poll no refresh
appends to the trails. -/
theorem wipe_returns_to_new {codeSize externalSize upperSize : Nat} {clock : Clock} {history : List Event}
    (reached : c = (Console.new (Machine.new codeSize externalSize upperSize) clock).replay history)
    (waits : c.session.pending = some 0x58) (time : Float) :
    let d := c.tick time
    d.machine = (Machine.new codeSize externalSize upperSize).withCode c.machine.cpu.code ∧ d.panels.Wiped ∧
      d.addressBytes = Vector.replicate 2 0 ∧
      ∀ rest, Unpolled rest →
        (d.replay rest).refresh.panels = (d.replay rest).refreshPanels (d.replay rest).panels ∧
          ∀ value, (d.replay rest).panels.trail value = d.panels.trail value := by
  intro d
  have start := (rested_new (Machine.new codeSize externalSize upperSize) clock).poised
  have poised : c.Poised := by
    rw [reached]
    exact poised_replay start history
  have announced : c.machine.Announced (Machine.new codeSize externalSize upperSize) := by
    rw [reached]
    apply announced_replay start
    rw [Console.new, machine_redraw]
    exact ⟨rfl, fun _ => rfl⟩
  let ready := { c.ready time with edit := (c.ready time).edit.cancel }
  have wiped : d = ready.reset true := tick_wipe poised waits time
  have machine : ready.machine = c.machine := c.machine_ready time
  have still : d.Still d.panels.trail := by
    rw [wiped]
    exact ready.still_wipe
  have poised' : d.Poised := poised_tick poised time
  refine ⟨?_, ?_, ?_, fun rest unpolled => ?_⟩
  · calc d.machine
      _ = (c.machine.setRunning false).reset true := by rw [wiped, ← machine]; rfl
      _ = (Machine.new codeSize externalSize upperSize).withCode c.machine.cpu.code := Machine.reset_eq_new announced
  · rw [wiped]
    exact (poised_ready poised time).editable.wellFormed.wiped_wipe
  · rw [wiped]
    rfl
  · have later := still.replay poised' unpolled
    exact ⟨later.panels_refresh, later.trail⟩

/-- A machine runs and is wiped; the step that is asked for afterwards waits for a clock poll. -/
theorem wipe_returns_to_new_running :
    let new := Machine.new 16 16 128
    let c := (Console.new new (Clock.new .middle 1000)).replay
      [.push 0x72, .frame 0.0, .clock ⟨0⟩, .clock ⟨100000000⟩, .push 0x58]
    let d := c.tick 0.1
    let later := d.replay [.push 0x20, .frame 0.2, .frame 0.3]
    c.session.pending = some 0x58 ∧ d.machine = new.withCode c.machine.cpu.code ∧
      d.panels.Wiped ∧ d.addressBytes = Vector.replicate 2 0 ∧
      later.refresh.panels = later.refreshPanels later.panels ∧
        ∀ value, later.panels.trail value = d.panels.trail value := by
  intro new c d later
  have listens := listens_new new (Clock.new .middle 1000)
  have running : Beat.Keeps (.frame (some 0x72)) := by
    rintro _ ⟨⟩ command found edit
    cases found
    contradiction
  have before : (Console.new new (Clock.new .middle 1000)).Runs _ none := ⟨rfl, listens.uncaptured, listens.idle⟩
  have ran := (before.push listens.poised 0x72).tick (poised_push listens.poised 0x72) running 0.0
  have poised := poised_replay listens.poised [.push 0x72, .frame 0.0, .clock ⟨0⟩, .clock ⟨100000000⟩]
  have polled := (ran.runClock ⟨0⟩).runClock ⟨100000000⟩
  have waits : c.session.pending = some 0x58 := (polled.push poised 0x58).waits
  obtain ⟨machine, panels, address, unpolled⟩ := wipe_returns_to_new (c := c) rfl waits 0.1
  have quiet : Unpolled [.push 0x20, .frame 0.2, .frame 0.3] := by
    rintro event member now rfl
    simp only [List.mem_cons, reduceCtorEq, List.not_mem_nil, or_self] at member
  exact ⟨waits, machine, panels, address, unpolled _ quiet⟩

end Console

end Mcs51
