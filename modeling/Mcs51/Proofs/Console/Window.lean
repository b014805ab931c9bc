import Mcs51.Proofs.Console.Looking
import Mcs51.Proofs.Console.Readout
import Mcs51.Proofs.Console.Steady
import Mcs51.Proofs.Console.Typing

/-! # The memory window

Whatever happens to a console, its memory window begins at a multiple of eight and ends with a row that shows
at least one byte, unless it begins at the start (`Windowed`). And the arrows reach every byte of the memory in
view: they take the position line by line and column by column (`Position.moved`), and from every position some
arrow leads closer to a given byte (`Position.InWindow.exists_closer`). Main statement: `window_stays_and_reaches`.
-/

namespace Mcs51

def Direction.key : Direction → UInt8
  | .left => 0x11
  | .right => 0x12
  | .up => 0x13
  | .down => 0x14

theorem Direction.ofByte?_key (direction : Direction) : Command.ofByte? direction.key = some (.move direction) := by
  cases direction <;> decide

namespace Console

/-! ### Moves of the position -/

namespace Position

/-- The position after an arrow, in the window of a memory of a given size. The window scrolls by a row at its
upper and its lower edge. -/
def moved (size : Nat) (p : Position) : Direction → Position
  | .left => if 0 < p.cursor.col then { p with cursor.col := p.cursor.col - 1 } else p
  | .right => if p.cursor.col + 1 < memoryCols then { p with cursor.col := p.cursor.col + 1 } else p
  | .up =>
    if 0 < p.cursor.row then { p with cursor.row := p.cursor.row - 1 }
    else { p with windowBase := p.windowBase - memoryCols }
  | .down =>
    if p.cursor.row + 1 < memoryRows then { p with cursor.row := p.cursor.row + 1 }
    else if p.windowBase + memoryWindow < size then { p with windowBase := p.windowBase + memoryCols }
    else p

/-- A position in the memory window, which begins with a full row. -/
structure InWindow (p : Position) : Prop where
  memory : p.focus = .memory
  aligned : p.windowBase % memoryCols = 0
  row : p.cursor.row < memoryRows
  col : p.cursor.col < memoryCols

/-- The line of the memory on which a position stands. -/
def line (p : Position) : Nat :=
  p.windowBase / memoryCols + p.cursor.row

/-- How many lines and columns a position is away from an address. -/
def distance (p : Position) (addr : Nat) : Nat :=
  (p.line - addr / memoryCols) + (addr / memoryCols - p.line) +
    ((p.cursor.col - addr % memoryCols) + (addr % memoryCols - p.cursor.col))

variable {p : Position} {size addr : Nat}

theorem InWindow.moved (inWindow : p.InWindow) (direction : Direction) : (p.moved size direction).InWindow := by
  obtain ⟨memory, aligned, row, col⟩ := inWindow
  have unaligned (n : Nat) (base : n % memoryCols = 0) :
      (n - memoryCols) % memoryCols = 0 ∧ (n + memoryCols) % memoryCols = 0 := by
    simp only [memoryCols] at *
    omega
  cases direction with
  | left =>
    rw [Position.moved]
    split
    · exact ⟨memory, aligned, row, Nat.lt_of_le_of_lt (Nat.sub_le _ _) col⟩
    · exact ⟨memory, aligned, row, col⟩
  | right =>
    rw [Position.moved]
    split
    · rename_i room
      exact ⟨memory, aligned, row, room⟩
    · exact ⟨memory, aligned, row, col⟩
  | up =>
    rw [Position.moved]
    split
    · exact ⟨memory, aligned, Nat.lt_of_le_of_lt (Nat.sub_le _ _) row, col⟩
    · exact ⟨memory, (unaligned _ aligned).1, row, col⟩
  | down =>
    rw [Position.moved]
    split
    · rename_i room
      exact ⟨memory, aligned, room, col⟩
    · split
      · exact ⟨memory, (unaligned _ aligned).2, row, col⟩
      · exact ⟨memory, aligned, row, col⟩

theorem space_moved (p : Position) (size : Nat) (direction : Direction) :
    (p.moved size direction).space = p.space := by
  cases direction with
  | left => rw [moved]; split <;> rfl
  | right => rw [moved]; split <;> rfl
  | up => rw [moved]; split <;> rfl
  | down => rw [moved]; split <;> [rfl; (split <;> rfl)]

/-- An arrow up leads to the line above, if there is one. -/
theorem line_moved_up (inWindow : p.InWindow) (later : 0 < p.line) :
    (p.moved size .up).line + 1 = p.line ∧ (p.moved size .up).cursor.col = p.cursor.col := by
  have aligned := inWindow.aligned
  by_cases room : 0 < p.cursor.row
  · rw [moved, if_pos room]
    refine ⟨?_, rfl⟩
    simp only [line]
    omega
  · rw [moved, if_neg room]
    refine ⟨?_, rfl⟩
    simp only [line, memoryCols] at *
    omega

/-- An arrow down leads to the line below, if a byte stands there or further down. -/
theorem line_moved_down (inWindow : p.InWindow) (inside : addr < size) (earlier : p.line < addr / memoryCols) :
    (p.moved size .down).line = p.line + 1 ∧ (p.moved size .down).cursor.col = p.cursor.col := by
  have aligned := inWindow.aligned
  have row := inWindow.row
  by_cases room : p.cursor.row + 1 < memoryRows
  · rw [moved, if_pos room]
    exact ⟨rfl, rfl⟩
  · -- The cursor is in the last row, so the line of the address lies behind the window.
    have more : p.windowBase + memoryWindow < size := by
      simp only [line, memoryCols, memoryRows, memoryWindow] at *
      omega
    rw [moved, if_neg room, if_pos more]
    refine ⟨?_, rfl⟩
    simp only [line, memoryCols] at *
    omega

/-- From a position elsewhere some arrow leads closer to an address. -/
theorem InWindow.exists_closer (inWindow : p.InWindow) (inside : addr < size) (apart : p.distance addr ≠ 0) :
    ∃ direction, (p.moved size direction).distance addr < p.distance addr := by
  rcases Nat.lt_trichotomy p.line (addr / memoryCols) with above | level | below
  · obtain ⟨line, col⟩ := line_moved_down inWindow inside above
    refine ⟨.down, ?_⟩
    rw [distance, distance, line, col]
    omega
  · rcases Nat.lt_trichotomy p.cursor.col (addr % memoryCols) with before | here | behind
    · have room : p.cursor.col + 1 < memoryCols := by
        have := Nat.mod_lt addr (show 0 < memoryCols by decide)
        omega
      refine ⟨.right, ?_⟩
      rw [Position.moved, if_pos room]
      simp only [distance, line] at *
      omega
    · exact absurd (by rw [distance]; omega) apart
    · have room : 0 < p.cursor.col := Nat.zero_lt_of_lt behind
      refine ⟨.left, ?_⟩
      rw [Position.moved, if_pos room]
      simp only [distance, line] at *
      omega
  · obtain ⟨line, col⟩ := @line_moved_up p size inWindow (Nat.zero_lt_of_lt below)
    refine ⟨.up, ?_⟩
    rw [distance, distance, col]
    omega

private theorem target_of_distance (inWindow : p.InWindow) (here : p.distance addr = 0) :
    p.target = .memory p.space addr := by
  have aligned := inWindow.aligned
  have place : p.cursor.row * memoryCols + p.cursor.col + p.windowBase = addr := by
    simp only [distance, line, memoryCols] at *
    omega
  rw [target, inWindow.memory, place]

/-- Arrows lead from every position to every byte of the memory. -/
theorem InWindow.exists_moves (inWindow : p.InWindow) (inside : addr < size) :
    ∃ moves : List Direction, (moves.foldl (Position.moved size) p).target = .memory p.space addr := by
  induction far : p.distance addr using Nat.strong_induction_on generalizing p with
  | _ distance ih =>
    by_cases here : p.distance addr = 0
    · exact ⟨[], target_of_distance inWindow here⟩
    · obtain ⟨direction, closer⟩ := inWindow.exists_closer inside here
      obtain ⟨moves, reached⟩ := ih _ (by rwa [← far]) (inWindow.moved direction) rfl
      rw [space_moved] at reached
      exact ⟨direction :: moves, reached⟩

end Position

variable {c : Console}

/-! ### Moves of the console -/

private theorem move_of_neighbour {direction : Direction} {next : CellPos}
    (found : c.focused.surface.neighbour? direction = some next) :
    c.move direction = c.moveFocused direction := by
  simp only [move, DataGrid.moveCursor, Surface.moveCursor, found]

/-- At an edge of the memory window only the arrows up and down do something. -/
theorem move_of_edge {direction : Direction} (memory : c.focus = .memory)
    (edge : c.focused.surface.neighbour? direction = none) :
    c.move direction =
      match direction with
      | .up => { c with windowBase := c.windowBase - memoryCols }
      | .down =>
        if c.windowBase + memoryWindow < c.machine.cpu.spaceSize c.space then
          { c with windowBase := c.windowBase + memoryCols }
        else c
      | _ => c := by
  simp only [move, DataGrid.moveCursor, Surface.moveCursor, edge, memory]
  cases direction <;> rfl

/-- A cursor move inside the grid takes the position to the neighbouring cell. -/
theorem position_moveFocused {direction : Direction} {next : CellPos}
    (found : c.focused.surface.neighbour? direction = some next) :
    (c.moveFocused direction).position = { c.position with cursor := next } := by
  have moved : (c.moveFocused direction).focused.surface.cursor = next := by
    rw [focused_eq] at found ⊢
    change ((c.moveFocused direction).panels.grid c.focus).surface.cursor = next
    rw [moveFocused, grid_mapFocused, if_pos rfl]
    simp only [DataGrid.moveCursor, Surface.moveCursor, found]
  change Position.mk c.focus c.space c.windowBase (c.moveFocused direction).focused.surface.cursor = _
  rw [moved]
  rfl

private theorem inside_focused (editable : c.panels.Editable) (memory : c.focus = .memory) :
    c.focused.surface.rows = memoryRows ∧ c.focused.surface.cols = memoryCols := by
  have shape := editable.shape_grid c.focus
  rw [← focused_eq, memory] at shape
  exact ⟨congrArg Surface.Shape.rows shape, congrArg Surface.Shape.cols shape⟩

/-- While the memory window has the focus, an arrow moves the position. -/
theorem position_move (editable : c.panels.Editable) (memory : c.focus = .memory) (direction : Direction) :
    (c.move direction).position = c.position.moved (c.machine.cpu.spaceSize c.space) direction := by
  obtain ⟨rows, cols⟩ := inside_focused editable memory
  cases neighbour : c.focused.surface.neighbour? direction with
  | some next =>
    rw [move_of_neighbour neighbour, position_moveFocused neighbour]
    cases direction <;>
      simp only [Surface.neighbour?, rows, cols, Option.ite_none_right_eq_some, Option.some.injEq] at neighbour <;>
      obtain ⟨room, rfl⟩ := neighbour <;> exact (if_pos room).symm
  | none =>
    rw [move_of_edge memory neighbour]
    cases direction <;>
      simp only [Surface.neighbour?, rows, cols, ite_eq_right_iff, reduceCtorEq, imp_false] at neighbour
    case down =>
      have edge : c.position.moved (c.machine.cpu.spaceSize c.space) .down =
          if c.windowBase + memoryWindow < c.machine.cpu.spaceSize c.space then
            { c.position with windowBase := c.windowBase + memoryCols }
          else c.position := if_neg neighbour
      rw [edge]
      exact apply_ite position _ _ _
    all_goals exact (if_neg neighbour).symm

/-! ### Walking -/

variable {program : Program} {waiting : Option UInt8} {p : Position}

/-- A console at a position, in which a program runs and a byte may wait. -/
structure Stands (c : Console) (program : Program) (waiting : Option UInt8) (p : Position) : Prop where
  poised : c.Poised
  runs : c.Runs program waiting
  position : c.position = p

private theorem dispatch_key (c : Console) (direction : Direction) :
    c.dispatch direction.key = { c with edit := c.edit.cancel }.move direction := by
  rw [dispatch, direction.ofByte?_key]
  rfl

/-- An arrow takes the position with it, and nothing that runs. It replaces a byte that waits. -/
theorem Stands.arrow (stands : c.Stands program waiting p) (memory : p.focus = .memory) (direction : Direction)
    (time : Float) :
    ((c.push direction.key).tick time).Stands program none
      (p.moved (program.machine.cpu.spaceSize p.space) direction) := by
  obtain ⟨poised, runs, rfl⟩ := stands
  have pushed := runs.push poised direction.key
  have poised' := poised_push poised direction.key
  have looks : Beat.Looks (some direction.key) := by
    rintro _ ⟨⟩
    exact .inl (by cases direction <;> decide)
  have other (value : Fin 16) : direction.key ∉ Command.digitKeys value := by
    rw [← Command.ofByte?_eq_digit_iff, direction.ofByte?_key]
    exact nofun
  refine ⟨poised_tick poised' time, ?_, ?_⟩
  · have ticked := pushed.tick poised' (Beat.keeps_of_looks looks) time
    rwa [Program.after_of_looks looks] at ticked
  · let ready := (c.push direction.key).ready time
    have editable : ready.panels.Editable := (poised_ready poised' time).editable
    have same : ready.position = c.position := (c.push direction.key).position_ready time
    have focus : ready.focus = .memory := (congrArg Position.focus same).trans memory
    have space : ready.space = c.space := congrArg Position.space same
    have machine : ready.machine = program.machine := congrArg Program.machine (pushed.ready time).program
    have moved := position_move (c := { ready with edit := ready.edit.cancel }) editable focus direction
    change _ = ready.position.moved (ready.machine.cpu.spaceSize ready.space) direction at moved
    rw [tick_of_other poised' pushed.waits other, dispatch_key, moved, same, machine, space]
    rfl

/-- A frame without input keeps the position. -/
theorem Stands.frame (stands : c.Stands program none p) (time : Float) :
    (c.tick time).Stands program none p := by
  obtain ⟨poised, runs, rfl⟩ := stands
  refine ⟨poised_tick poised time, runs.tick poised (Beat.keeps_of_looks nofun) time, ?_⟩
  rw [tick_of_idle poised runs.waits, position_ready]

theorem Stands.frames (stands : c.Stands program none p) (times : List Float) :
    (c.replay (times.map .frame)).Stands program none p := by
  induction times generalizing c with
  | nil => exact stands
  | cons time rest ih => exact ih (stands.frame time)

/-- Arrows that are typed one after the other move the position in turn. -/
theorem Stands.walk (stands : c.Stands program waiting p) (inWindow : p.InWindow) {moves : List Direction}
    {strokes : List Stroke} (typed : strokes.map Stroke.key = moves.map Direction.key) :
    ∃ waiting', (c.replay (strokes.flatMap Stroke.events)).Stands program waiting'
      (moves.foldl (Position.moved (program.machine.cpu.spaceSize p.space)) p) := by
  induction moves generalizing c p waiting strokes with
  | nil =>
    rw [List.map_nil, List.map_eq_nil_iff] at typed
    rw [typed]
    exact ⟨waiting, stands⟩
  | cons direction moves ih =>
    obtain ⟨stroke, rest, rfl, key, typed⟩ := List.map_eq_cons_iff.mp typed
    have moved := (stands.arrow inWindow.memory direction stroke.time).frames stroke.later
    rw [← key, ← replay_events] at moved
    obtain ⟨waiting', walked⟩ := ih moved (inWindow.moved direction) typed
    rw [Position.space_moved] at walked
    rw [List.flatMap_cons, replay_append]
    exact ⟨waiting', walked⟩

/-- The position of a console with the focus on the memory window. -/
theorem inWindow_position (editable : c.panels.Editable) (memory : c.focus = .memory)
    (aligned : c.windowBase % memoryCols = 0) : c.position.InWindow := by
  have bounds := cursor_bounds editable c.focus
  rw [← focused_eq, memory] at bounds
  exact ⟨memory, aligned, bounds.1, bounds.2⟩

/-! ### The window stays on the data -/

/-- The window begins with a full row, and its last row shows a byte, unless it begins at the start. -/
structure Windowed (c : Console) : Prop where
  aligned : c.windowBase % memoryCols = 0
  shows : c.windowBase = 0 ∨ c.windowBase + (memoryWindow - memoryCols) < c.machine.cpu.spaceSize c.space

variable {d : Console}

theorem Windowed.of_same (windowed : c.Windowed) (space : d.space = c.space) (base : d.windowBase = c.windowBase)
    (sizes : ∀ space, d.machine.cpu.spaceSize space = c.machine.cpu.spaceSize space) : d.Windowed := by
  constructor
  · rw [base]
    exact windowed.aligned
  · rw [base, space, sizes]
    exact windowed.shows

theorem Windowed.steady (windowed : c.Windowed) (steady : Steady c d) : d.Windowed :=
  windowed.of_same steady.space steady.windowBase steady.machine.spaceSize

private theorem windowed_switchMemory (c : Console) : c.switchMemory.Windowed := by
  have start (panels : Panels) : { c with space := c.space.next, panels, windowBase := 0 }.Windowed :=
    ⟨rfl, .inl rfl⟩
  exact (start _).steady (redrawn_redraw _).steady

private theorem kept_windowed : Kept Windowed where
  steady windowed steady := windowed.steady steady
  scrollUp windowed := by
    obtain ⟨aligned, shows⟩ := windowed
    constructor
    · simp only [memoryCols] at *
      omega
    · simp only [memoryCols, memoryWindow, memoryRows] at *
      omega
  scrollDown windowed room := by
    have aligned := windowed.aligned
    constructor
    · simp only [memoryCols] at *
      omega
    · right
      simp only [memoryCols, memoryWindow, memoryRows] at *
      omega
  switchMemory _ := windowed_switchMemory _
  reset wipe windowed :=
    windowed.of_same rfl rfl fun space => Machine.spaceSize_reset _ wipe space

theorem Windowed.tick (windowed : c.Windowed) (poised : c.Poised) (time : Float) : (c.tick time).Windowed := by
  apply kept_windowed.tick poised
  obtain ⟨_, _, _, _, _, same⟩ := c.ready_eq time
  rw [same]
  exact windowed.of_same rfl rfl fun _ => rfl

theorem Windowed.clockTicks (windowed : c.Windowed) (ticks : Nat) : (c.clockTicks ticks).Windowed := by
  induction ticks generalizing c with
  | zero => exact windowed
  | succ ticks ih =>
    apply ih
    obtain ⟨grid, next⟩ := c.clockTick_drawn
    rw [next]
    exact windowed.of_same rfl rfl c.machine.spaceSize_tick

theorem Windowed.after (windowed : c.Windowed) (poised : c.Poised) (event : Event) : (c.after event).Windowed := by
  cases event with
  | push byte => exact windowed.of_same rfl rfl fun _ => rfl
  | control code => exact windowed.of_same rfl rfl fun _ => rfl
  | clock now =>
    apply Windowed.clockTicks
    exact windowed.of_same rfl rfl fun _ => rfl
  | frame time => exact windowed.tick poised time

/-! ### Reachable consoles -/

/-- The consoles that come about from a new one by events, and by what is done to its machine from outside as
long as every memory keeps its size. -/
inductive Visited : Console → Prop
  | new (machine : Machine) (clock : Clock) : Visited (Console.new machine clock)
  | after {c : Console} (visited : Visited c) (event : Event) : Visited (c.after event)
  | operate {c : Console} (visited : Visited c) (machine : Machine)
    (sizes : ∀ space, machine.cpu.spaceSize space = c.machine.cpu.spaceSize space) : Visited { c with machine }

theorem Visited.reachable (visited : c.Visited) : c.Reachable := by
  induction visited with
  | new machine clock => exact .new machine clock
  | after _ event ih => exact ih.after event
  | operate _ machine _ ih => exact ih.operate machine

/-- A new console shows the start of the lower RAM. -/
theorem view_new (machine : Machine) (clock : Clock) :
    (Console.new machine clock).focus = .memory ∧ (Console.new machine clock).space = .lower ∧
      (Console.new machine clock).windowBase = 0 := by
  have start := position_new machine clock
  rw [position, Position.mk.injEq] at start
  exact ⟨start.1, start.2.1, start.2.2.1⟩

theorem Visited.windowed (visited : c.Visited) : c.Windowed := by
  induction visited with
  | new machine clock =>
    obtain ⟨_, _, start⟩ := view_new machine clock
    refine ⟨?_, .inl start⟩
    rw [start, Nat.zero_mod]
  | after visited event ih => exact ih.after visited.reachable.poised event
  | operate _ machine sizes ih => exact ih.of_same rfl rfl sizes

/-! ### The addresses beside the window -/

/-- The two bytes of an address below 10000h name it. -/
theorem wordBytes_ofNat {addr : Nat} (small : addr < 0x10000) :
    ∃ high low, wordBytes (UInt16.ofNat addr) = [high, low] ∧ high.toNat * 256 + low.toNat = addr := by
  refine ⟨_, _, rfl, ?_⟩
  simp only [UInt16.toNat_toUInt8, UInt16.toNat_shiftRight, UInt16.toNat_ofNat', UInt16.toNat_ofNat,
    Nat.mod_eq_of_lt small, Nat.shiftRight_eq_div_pow, Nat.reducePow, Nat.reduceMod]
  omega

/-- The pointed target of the next frame is the byte under the cursor. -/
theorem target_paint (c : Console) : c.paint.edit.target = some c.pointed := by
  obtain ⟨_, drawn⟩ := c.refresh.pointAtCursor.drawFrame_drawn
  rw [paint, drawn]
  exact congrArg some (pointed_congr c.position_refresh)

/-- The memory window stays on the data and reaches all of it. It begins at a multiple of eight, and its last row
shows a byte unless it begins at the start; in memories of at most 64K the address beside every row with a byte is
the true one; and from every state with the focus on memory, arrows lead to every byte of the memory in view. -/
theorem window_stays_and_reaches (visited : c.Visited) :
    c.windowBase % 8 = 0 ∧
      (c.windowBase = 0 ∨ c.windowBase + 56 < c.machine.cpu.spaceSize c.space) ∧
      ((∀ space, c.machine.cpu.spaceSize space ≤ 0x10000) →
        ∀ row < memoryRows, c.rowAddr row < c.machine.cpu.spaceSize c.space →
          ∃ high low, c.paint.panels.memoryAddr.row row = [high, low] ∧
            high.toNat * 256 + low.toNat = c.rowAddr row) ∧
      (c.focus = .memory → c.session.capturing = false → ∀ addr < c.machine.cpu.spaceSize c.space,
        ∃ keys : List UInt8, (∀ key ∈ keys, ∃ direction : Direction, key = direction.key) ∧
          ∀ strokes : List Stroke, strokes.map Stroke.key = keys →
            (c.replay (strokes.flatMap Stroke.events)).pointed = .memory c.space addr ∧
              (c.replay (strokes.flatMap Stroke.events)).paint.edit.target = some (.memory c.space addr)) := by
  have windowed := visited.windowed
  have poised := visited.reachable.poised
  refine ⟨windowed.aligned, windowed.shows, ?_, ?_⟩
  · intro small row inside real
    rw [visited.reachable.reads_paint.memoryAddr row inside]
    exact wordBytes_ofNat (Nat.lt_of_lt_of_le real (small c.space))
  · intro memory uncaptured addr real
    have inWindow := inWindow_position poised.editable memory windowed.aligned
    obtain ⟨moves, target⟩ := inWindow.exists_moves real
    have stands : c.Stands c.program c.session.pending c.position := ⟨poised, ⟨rfl, uncaptured, rfl⟩, rfl⟩
    refine ⟨moves.map Direction.key, ?_, ?_⟩
    · intro key member
      obtain ⟨direction, _, same⟩ := List.mem_map.mp member
      exact ⟨direction, same.symm⟩
    · intro strokes typed
      obtain ⟨_, walked⟩ := stands.walk inWindow typed
      have pointed : (c.replay (strokes.flatMap Stroke.events)).pointed = .memory c.space addr := by
        rw [pointed_eq, walked.position]
        exact target
      rw [target_paint, pointed]
      exact ⟨rfl, rfl⟩

/-- In a new console, arrows lead to the last byte of the lower RAM, which the window does not show. -/
theorem window_stays_and_reaches_last :
    let c := Console.new (Machine.new 16 16 128) (Clock.new .middle 1000)
    c.Visited ∧ c.windowBase % 8 = 0 ∧
      ∃ keys : List UInt8, (∀ key ∈ keys, ∃ direction : Direction, key = direction.key) ∧
        ∀ strokes : List Stroke, strokes.map Stroke.key = keys →
          (c.replay (strokes.flatMap Stroke.events)).pointed = .memory c.space 127 ∧
            (c.replay (strokes.flatMap Stroke.events)).paint.edit.target = some (.memory c.space 127) := by
  have visited := Visited.new (Machine.new 16 16 128) (Clock.new .middle 1000)
  have listens := listens_new (Machine.new 16 16 128) (Clock.new .middle 1000)
  obtain ⟨focus, space, _⟩ := view_new (Machine.new 16 16 128) (Clock.new .middle 1000)
  intro c
  have inside : 127 < c.machine.cpu.spaceSize c.space := by
    rw [space, Cpu.spaceSize, Cpu.memory, Vector.size_toArray]
    decide
  obtain ⟨aligned, _, _, reaches⟩ := window_stays_and_reaches visited
  exact ⟨visited, aligned, reaches focus listens.uncaptured 127 inside⟩

end Console

end Mcs51
