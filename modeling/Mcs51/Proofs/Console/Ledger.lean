import Mcs51.Proofs.Console.Wipe
import Mcs51.Proofs.Widget.Trail

/-! # What the trails hold

A frame appends the live rows to the trails if its machine took cycles that the frame before did not know of.
The trails are compared with a ledger that is kept beside the console and only notes cycle counts and live rows
(`Logged`): at any time the rows of a trail are the last ones of its initial rows and the noted ones
(`trails_follow_ledger`).
-/

namespace Mcs51

/-! ### Rows of the panels -/

/-- Bytes in a row of a tracked value. -/
def TrackedValue.width : TrackedValue → Nat
  | .status => 8
  | .ports => 7
  | .registers => 10
  | .dataPointer => 2
  | .code => codeWidth
  | .control => 8

namespace Panels

/-- The grid of a tracked value with its trail. -/
def tracked (p : Panels) : TrackedValue → Tracked
  | .status => p.status
  | .ports => p.ports
  | .registers => p.registers
  | .dataPointer => p.dataPointer
  | .code => p.code
  | .control => p.control

/-- What the rows of a trail hold before anything is appended: zeros, or the placeholder of the disassembly. -/
def initialRow : TrackedValue → List UInt8
  | .code => codePlaceholder
  | value => List.replicate value.width 0

private theorem trail_advance (p : Panels) (value : TrackedValue) :
    p.advance.trail value = (p.trail value).push ((p.tracked value).live.row 0) := by
  cases value <;> rfl

private theorem trail_tracked (p : Panels) (value : TrackedValue) : (p.tracked value).trail = p.trail value := by
  cases value <;> rfl

end Panels

/-- The live grid has one row, and the trail has rows of the same width. -/
structure Tracked.Sized (t : Tracked) (width : Nat) : Prop where
  liveRows : t.live.surface.rows = 1
  liveCols : t.live.surface.cols = width
  rows : t.trail.grid.surface.rows = trailDepth
  cols : t.trail.grid.surface.cols = width

theorem Tracked.Sized.of_layout {t u : Tracked} {width : Nat} (sized : u.Sized width)
    (live : t.live.layout = u.live.layout) (trail : t.trail.grid.layout = u.trail.grid.layout) : t.Sized width where
  liveRows := (congrArg (·.shape.rows) live).trans sized.liveRows
  liveCols := (congrArg (·.shape.cols) live).trans sized.liveCols
  rows := (congrArg (·.shape.rows) trail).trans sized.rows
  cols := (congrArg (·.shape.cols) trail).trans sized.cols

theorem Panels.WellFormed.sized {p : Panels} (wf : p.WellFormed) (value : TrackedValue) :
    (p.tracked value).Sized value.width := by
  have blank : ((blank p.asciiVisible).tracked value).Sized value.width := by
    cases value <;> exact ⟨rfl, rfl, rfl, rfl⟩
  have layouts := wf.layouts
  simp only [Panels.layouts, grids, List.map_cons, List.map_nil, List.cons.injEq] at layouts
  obtain ⟨-, -, ports, portsTrail, registers, registersTrail, dataPointer, dataPointerTrail, control, controlTrail,
    status, statusTrail, -, -, -, code, codeTrail, -⟩ := layouts
  cases value with
  | status => exact blank.of_layout status statusTrail
  | ports => exact blank.of_layout ports portsTrail
  | registers => exact blank.of_layout registers registersTrail
  | dataPointer => exact blank.of_layout dataPointer dataPointerTrail
  | code => exact blank.of_layout code codeTrail
  | control => exact blank.of_layout control controlTrail

/-- A wiped trail holds initial rows. -/
theorem Trail.entries_wiped {t : Trail} {value : TrackedValue} (rows : t.grid.surface.rows = trailDepth)
    (cols : t.grid.surface.cols = value.width) :
    (t.wiped value).entries = List.replicate trailDepth (Panels.initialRow value) := by
  have cleared : t.clear.entries = List.replicate trailDepth (List.replicate value.width 0) := by
    rw [← rows, ← cols]
    exact t.grid.surface.allRows_clear
  cases value with
  | code =>
    have length := Panels.length_codePlaceholder
    rw [wiped, Panels.initialRow]
    generalize Panels.codePlaceholder = line at length ⊢
    have enough : t.grid.surface.clear.rows ≤ (List.replicate trailDepth line).length := by
      rw [List.length_replicate]
      exact Nat.le_of_eq rows
    have full : ∀ bytes ∈ List.replicate trailDepth line, bytes.length = t.grid.surface.clear.cols := by
      intro bytes member
      rw [List.eq_of_mem_replicate member, length]
      exact cols.symm
    calc (t.clear.mapSurface fun s => s.setRowsFrom 0 (List.replicate trailDepth line)).entries
      _ = (List.replicate trailDepth line).take t.grid.surface.clear.rows := Surface.allRows_setRowsFrom enough full
      _ = List.replicate trailDepth line := by
        rw [List.take_of_length_le]
        rw [List.length_replicate]
        exact Nat.le_of_eq rows.symm
  | _ => exact cleared

/-- A new trail is a wiped one. -/
theorem Panels.trail_new (title : String) (value : TrackedValue) :
    (new title).trail value = ((zeroed title).trail value).wiped value := by
  cases value <;> rfl

private theorem Panels.entries_trail_new (title : String) (value : TrackedValue) :
    ((new title).trail value).entries = List.replicate trailDepth (initialRow value) := by
  rw [trail_new]
  apply Trail.entries_wiped
  · cases value <;> rfl
  · cases value <;> rfl

namespace Console

variable {c d : Console}

/-! ### What a console keeps of the past -/

/-- What a console keeps of the past: the trails, and the cycle count of the last frame. -/
@[ext]
structure Past where
  trail : TrackedValue → Trail
  lastCycles : Nat

/-- What a command does to the past. -/
def Past.obey (p : Past) : Command → Past
  | .reset => { p with lastCycles := 0 }
  | .wipe => { trail value := (p.trail value).wiped value, lastCycles := 0 }
  | _ => p

def past (c : Console) : Past :=
  ⟨c.panels.trail, c.lastCycles⟩

theorem Steady.past (steady : Steady c d) : d.past = c.past :=
  Past.ext (funext steady.trail) steady.lastCycles

private theorem past_redraw (c : Console) : c.redraw.past = c.past :=
  (redrawn_redraw c).steady.past

private theorem past_move (c : Console) (direction : Direction) : (c.move direction).past = c.past := by
  rcases c.move_cases direction with steady | scrolled | ⟨_, scrolled⟩
  · exact steady.past
  · rw [scrolled]
    rfl
  · rw [scrolled]
    rfl

private theorem past_switchMemory (c : Console) : c.switchMemory.past = c.past := by
  let switched := { c with
    space := c.space.next
    panels := { c.panels with memoryFrame := c.panels.memoryFrame.setTitle c.space.next.title }
    windowBase := 0 }
  have same : switched.past = c.past := Past.ext (funext (c.panels.trail_setFrame _)) rfl
  exact switched.past_redraw.trans same

/-- What every command does to the past. -/
theorem past_run (c : Console) (command : Command) : (c.run command).past = c.past.obey command := by
  cases command with
  | switchMemory => exact c.past_switchMemory
  | toggleRun => exact c.steady_toggleRun.past
  | toggleAddressInput => exact c.steady_toggleAddressInput.past
  | go => exact c.steady_go.past
  | toggleBreakpoint => exact c.steady_toggleBreakpoint.past
  | toggleAscii => exact c.steady_toggleAscii.past
  | move direction => exact c.past_move direction
  | cycleFocus => exact (c.steady_enter _).past
  | wipe => exact Past.ext (funext c.panels.trail_wipe) rfl
  | step | faster | slower | reset | digit => rfl

theorem obeys_past : Obeys past fun c => c.past.obey where
  run := past_run
  edited _ _ := ⟨rfl, rfl⟩
  commitDigit c digit := (c.steady_commitDigit digit).past

/-- The row of a tracked value. -/
def liveRow (c : Console) (value : TrackedValue) : List UInt8 :=
  (c.panels.tracked value).live.row 0

/-- The past once a frame is drawn: the live rows of before are appended if cycles have passed. -/
theorem past_ready (c : Console) (time : Float) :
    (c.ready time).past =
      { trail value :=
          if c.lastCycles < c.machine.cycles then (c.panels.trail value).push (c.liveRow value)
          else c.panels.trail value
        lastCycles := c.machine.cycles } := by
  obtain ⟨_, _, _, _, _, same⟩ := c.ready_eq time
  rw [same]
  refine Past.ext (funext fun value => ?_) rfl
  change c.refresh.panels.trail value = _
  rw [refresh]
  dsimp only
  rw [trail_refreshPanels]
  split
  · exact c.panels.trail_advance value
  · rfl

private theorem past_clockTicks (c : Console) (ticks : Nat) : (c.clockTicks ticks).past = c.past := by
  induction ticks generalizing c with
  | zero => rfl
  | succ ticks ih =>
    obtain ⟨_, next⟩ := c.clockTick_drawn
    rw [clockTicks, ih, next]
    rfl

/-- Between frames the past stays as it is. -/
theorem past_after (c : Console) {event : Event} (between : ∀ time, event ≠ .frame time) :
    (c.after event).past = c.past := by
  cases event with
  | push byte => rfl
  | control code => rfl
  | clock now => exact past_clockTicks _ _
  | frame time => exact absurd rfl (between time)

/-! ### The ledger -/

/-- What is noted of the frames of a console. -/
structure Ledger where
  /-- The cycle count of the last frame; 0 after a reset. -/
  cycles : Nat
  /-- The live rows before each frame since the last wipe that found more cycles than were noted, latest first. -/
  rows : List (TrackedValue → List UInt8)

/-- A frame of the given console is noted. -/
def Ledger.frame (l : Ledger) (c : Console) : Ledger :=
  let rows := if l.cycles < c.machine.cycles then c.liveRow :: l.rows else l.rows
  match c.session.pending.bind Command.ofByte? with
  | some .reset => ⟨0, rows⟩
  | some .wipe => ⟨0, []⟩
  | _ => ⟨c.machine.cycles, rows⟩

/-- The consoles that come about from a new one by events and by operations on its machine from outside, each with
its ledger. -/
inductive Logged : Console → Ledger → Prop
  | new (machine : Machine) (clock : Clock) : Logged (Console.new machine clock) ⟨0, []⟩
  | frame {c : Console} {l : Ledger} (logged : Logged c l) (time : Float) : Logged (c.tick time) (l.frame c)
  | between {c : Console} {l : Ledger} (logged : Logged c l) (event : Event)
      (between : ∀ time, event ≠ .frame time) : Logged (c.after event) l
  | operate {c : Console} {l : Ledger} (logged : Logged c l) (machine : Machine) : Logged { c with machine } l

variable {l : Ledger}

theorem Logged.poised (logged : Logged c l) : c.Poised := by
  induction logged with
  | new machine clock => exact (rested_new machine clock).poised
  | frame _ time ih => exact poised_tick ih time
  | between _ event _ ih => exact poised_after ih event
  | @operate c _ _ machine ih => exact ih.setMachine machine c.clock c.elapsedMs

/-! ### Frame by frame -/

theorem Poised.extent_trail (poised : c.Poised) (value : TrackedValue) :
    (c.panels.trail value).grid.surface.rows = trailDepth ∧
      (c.panels.trail value).grid.surface.cols = value.width := by
  have sized := poised.editable.wellFormed.sized value
  rw [← Panels.trail_tracked]
  exact ⟨sized.rows, sized.cols⟩

theorem Poised.length_liveRow (poised : c.Poised) (value : TrackedValue) :
    (c.liveRow value).length = value.width := by
  have sized := poised.editable.wellFormed.sized value
  have row : 0 < (c.panels.tracked value).live.surface.rows := by
    rw [sized.liveRows]
    exact Nat.one_pos
  exact (Surface.length_row (s := (c.panels.tracked value).live.surface) row).trans sized.liveCols

/-- A live row is appended as it is, and the oldest row is dropped. -/
theorem entries_push_liveRow (poised : c.Poised) (value : TrackedValue) :
    ((c.panels.trail value).push (c.liveRow value)).entries =
      (c.panels.trail value).entries.drop 1 ++ [c.liveRow value] := by
  obtain ⟨rows, cols⟩ := poised.extent_trail value
  have least : 1 ≤ (c.panels.trail value).entries.length := by
    rw [Trail.length_entries, Trail.depth, rows]
    decide
  rw [Trail.entries_push, Trail.fitRow_of_length ((poised.length_liveRow value).trans cols.symm),
    List.drop_append_of_le_length least]

/-- The trails of a new console hold their initial rows. -/
theorem entries_new (machine : Machine) (clock : Clock) (value : TrackedValue) :
    ((Console.new machine clock).panels.trail value).entries =
      List.replicate trailDepth (Panels.initialRow value) := by
  have drawn : (Console.new machine clock).panels.trail value = (Panels.new Space.lower.title).trail value :=
    (redrawn_redraw _).steady.trail value
  rw [drawn, Panels.entries_trail_new]

/-- What a frame does to a trail. -/
theorem entries_tick (poised : c.Poised) (time : Float) (value : TrackedValue) :
    ((c.tick time).panels.trail value).entries =
      if c.session.pending.bind Command.ofByte? = some .wipe then
        List.replicate trailDepth (Panels.initialRow value)
      else if c.lastCycles < c.machine.cycles then
        (c.panels.trail value).entries.drop 1 ++ [c.liveRow value]
      else (c.panels.trail value).entries := by
  have ready : (c.ready time).panels.trail value = _ := congrFun (congrArg Past.trail (c.past_ready time)) value
  have tick : (c.tick time).panels.trail value = _ := congrFun (congrArg Past.trail (obeys_past.tick poised time)) value
  have drawn : ((c.ready time).panels.trail value).entries =
      if c.lastCycles < c.machine.cycles then (c.panels.trail value).entries.drop 1 ++ [c.liveRow value]
      else (c.panels.trail value).entries := by
    rw [ready, ← entries_push_liveRow poised]
    dsimp only
    split <;> rfl
  rw [tick, ← drawn]
  cases c.session.pending.bind Command.ofByte? with
  | none => rfl
  | some command =>
    cases command with
    | wipe =>
      obtain ⟨rows, cols⟩ := (poised_ready poised time).extent_trail value
      exact Trail.entries_wiped rows cols
    | _ => rfl

private theorem lastCycles_tick (poised : c.Poised) (time : Float) (l : Ledger) :
    (c.tick time).lastCycles = (l.frame c).cycles := by
  have tick : (c.tick time).lastCycles = _ := congrArg Past.lastCycles (obeys_past.tick poised time)
  rw [tick, past_ready, Ledger.frame]
  cases c.session.pending.bind Command.ofByte? with
  | none => rfl
  | some command => cases command <;> rfl

/-! ### Trails and ledger -/

/-- The rows that a trail holds after the noted rows were appended to its initial rows. -/
def Ledger.trail (l : Ledger) (value : TrackedValue) : List (List UInt8) :=
  (List.replicate trailDepth (Panels.initialRow value) ++ (l.rows.map (· value)).reverse).drop l.rows.length

private theorem Ledger.length_trail (l : Ledger) (value : TrackedValue) : (l.trail value).length = trailDepth := by
  rw [trail, List.length_drop, List.length_append, List.length_reverse, List.length_map, List.length_replicate,
    Nat.add_sub_cancel]

private theorem Ledger.trail_nil (cycles : Nat) (value : TrackedValue) :
    trail ⟨cycles, []⟩ value = List.replicate trailDepth (Panels.initialRow value) :=
  List.append_nil _

private theorem Ledger.trail_cons (cycles cycles' : Nat) (row : TrackedValue → List UInt8)
    (rows : List (TrackedValue → List UInt8)) (value : TrackedValue) :
    trail ⟨cycles, row :: rows⟩ value = (trail ⟨cycles', rows⟩ value).drop 1 ++ [row value] := by
  have least : 1 ≤ (trail ⟨cycles', rows⟩ value).length := by
    rw [length_trail]
    decide
  rw [← List.drop_append_of_le_length least, trail, trail, List.map_cons, List.reverse_cons, ← List.append_assoc,
    ← List.drop_append_of_le_length, List.drop_drop, List.length_cons]
  rw [List.length_append, List.length_reverse, List.length_map]
  exact Nat.le_add_left _ _

/-- From the bottom up a trail holds the noted rows, latest first, and above them its initial rows. -/
theorem Ledger.getElem?_trail (l : Ledger) (value : TrackedValue) {j : Nat} (inside : j < trailDepth) :
    (l.trail value)[trailDepth - 1 - j]? =
      some ((l.rows[j]?.map (· value)).getD (Panels.initialRow value)) := by
  have initial : (List.replicate trailDepth (Panels.initialRow value)).length = trailDepth := List.length_replicate
  have noted : (l.rows.map (· value)).length = l.rows.length := List.length_map ..
  have bottom : trailDepth = trailDepth - 1 + 1 := rfl
  rw [trail, List.getElem?_drop]
  by_cases recent : j < l.rows.length
  · have place : l.rows.length - 1 - (l.rows.length + (trailDepth - 1 - j) - trailDepth) = j := by omega
    rw [List.getElem?_append_right, initial, List.getElem?_reverse, noted, place, List.getElem?_map,
      List.getElem?_eq_getElem recent]
    · rfl
    · omega
    · omega
  · rw [List.getElem?_append_left, List.getElem?_replicate, if_pos, List.getElem?_eq_none]
    · rfl
    · omega
    · omega
    · omega

/-- A ledger that says what a console keeps of the past. -/
structure Ledger.Accords (l : Ledger) (c : Console) : Prop where
  lastCycles : c.lastCycles = l.cycles
  entries : ∀ value, (c.panels.trail value).entries = l.trail value

private theorem Ledger.Accords.of_past (accords : l.Accords c) (same : d.past = c.past) : l.Accords d where
  lastCycles := (congrArg Past.lastCycles same).trans accords.lastCycles
  entries value := by
    have trail : d.panels.trail value = c.panels.trail value := congrFun (congrArg Past.trail same) value
    rw [trail, accords.entries]

private theorem accords_frame (accords : l.Accords c) (poised : c.Poised) (time : Float) :
    (l.frame c).Accords (c.tick time) where
  lastCycles := lastCycles_tick poised time l
  entries value := by
    have advanced : (if l.cycles < c.machine.cycles then (l.trail value).drop 1 ++ [c.liveRow value]
        else l.trail value) =
          Ledger.trail ⟨c.machine.cycles, if l.cycles < c.machine.cycles then c.liveRow :: l.rows else l.rows⟩
            value := by
      split
      · exact (Ledger.trail_cons ..).symm
      · rfl
    rw [entries_tick poised, accords.lastCycles, accords.entries, advanced, Ledger.frame]
    cases c.session.pending.bind Command.ofByte? with
    | none => rfl
    | some command => cases command <;> rfl

theorem Logged.accords (logged : Logged c l) : l.Accords c := by
  induction logged with
  | new machine clock =>
    refine ⟨(redrawn_redraw _).steady.lastCycles, fun value => ?_⟩
    rw [entries_new, Ledger.trail_nil]
  | frame logged time ih => exact accords_frame ih logged.poised time
  | between _ _ between ih => exact ih.of_past (past_after _ between)
  | operate _ machine ih => exact ⟨ih.lastCycles, ih.entries⟩

/-- At any time the rows of a trail are, from the bottom up, the live rows noted in the ledger and above them its
initial rows. A frame that finds more cycles than the ledger noted moves the rows up by one and appends the live
row; a wipe restores the initial rows; anything else leaves the trails alone. -/
theorem trails_follow_ledger (logged : Logged c l) (value : TrackedValue) :
    (∀ j < trailDepth, (c.panels.trail value).entry (trailDepth - 1 - j) =
      (l.rows[j]?.map (· value)).getD (Panels.initialRow value)) ∧
    (∀ time, ((c.tick time).panels.trail value).entries =
      if c.session.pending.bind Command.ofByte? = some .wipe then
        List.replicate trailDepth (Panels.initialRow value)
      else if l.cycles < c.machine.cycles then
        (c.panels.trail value).entries.drop 1 ++ [c.liveRow value]
      else (c.panels.trail value).entries) ∧
    ∀ event, (∀ time, event ≠ .frame time) → (c.after event).panels.trail value = c.panels.trail value := by
  have accords := logged.accords
  refine ⟨fun j inside => ?_, fun time => ?_, fun event between => ?_⟩
  · obtain ⟨rows, _⟩ := logged.poised.extent_trail value
    have present : trailDepth - 1 - j < (c.panels.trail value).depth := by
      rw [Trail.depth, rows]
      omega
    have entry := Trail.getElem?_entries present
    rw [accords.entries, l.getElem?_trail value inside] at entry
    exact (Option.some.inj entry).symm
  · rw [← accords.lastCycles]
    exact entries_tick logged.poised time value
  · exact congrFun (congrArg Past.trail (past_after c between)) value

/-- An instruction is stepped. The frame behind it notes the rows from before the step. -/
theorem trails_follow_ledger_stepped :
    let new := Console.new (Machine.new 16 16 128) (Clock.new .middle 1000)
    let asked := new.after (.push 0x20)
    let stepped := (asked.tick 0.0).after (.clock ⟨0⟩)
    let c := stepped.tick 0.1
    let l := (Ledger.frame ⟨0, []⟩ asked).frame stepped
    Logged c l ∧ l.rows.length = 1 ∧ l.cycles = 12 ∧
    (∀ j < trailDepth, (c.panels.trail .code).entry (trailDepth - 1 - j) =
      (l.rows[j]?.map (· .code)).getD (Panels.initialRow .code)) ∧
    (∀ time, ((c.tick time).panels.trail .code).entries =
      if c.session.pending.bind Command.ofByte? = some .wipe then
        List.replicate trailDepth (Panels.initialRow .code)
      else if l.cycles < c.machine.cycles then (c.panels.trail .code).entries.drop 1 ++ [c.liveRow .code]
      else (c.panels.trail .code).entries) ∧
    ∀ event, (∀ time, event ≠ .frame time) → (c.after event).panels.trail .code = c.panels.trail .code := by
  have start := Logged.new (Machine.new 16 16 128) (Clock.new .middle 1000)
  have pushed := start.between (.push 0x20) nofun
  have polled := (pushed.frame 0.0).between (.clock ⟨0⟩) nofun
  have logged := polled.frame 0.1
  refine ⟨logged, ?_, ?_, trails_follow_ledger logged .code⟩
  · decide +kernel
  · decide +kernel

end Console

end Mcs51
