import Mcs51.Proofs.Console.Refresh

/-! # The position of editing

Focus, memory, window and cursor name the byte that is edited. Refreshing and drawing leave them alone, and
after a refresh the grid in focus holds, under its cursor, the very byte that is named
(`get_refresh_cursor`).
-/

namespace Mcs51

/-! ### Nibbles -/

/-- The place of a digit among the two digits of its byte. -/
def Nibble.index : Nibble → Nat
  | .high => 0
  | .low => 1

/-- The value of a nibble of a byte. -/
def Nibble.digit (nibble : Nibble) (byte : UInt8) : Fin 16 :=
  match nibble with
  | .high => ⟨byte.toNat / 16, Nat.div_lt_of_lt_mul byte.toNat_lt⟩
  | .low => ⟨byte.toNat % 16, Nat.mod_lt _ (by decide)⟩

/-! ### Editable grids -/

namespace Panels

/-- The grid that a focus edits. -/
def grid (p : Panels) : Focus → DataGrid
  | .memory => p.memory
  | .registers => p.registers.live
  | .dataPointer => p.dataPointer.live
  | .addressInput => p.addressInput

/-- The layout of the grid that a focus edits. -/
def editLayout : Focus → DataGrid.Layout
  | .memory => ⟨⟨⟨6, 1⟩, memoryRows, memoryCols, ⟨3, 1⟩, false⟩, some ' ', .hex, none⟩
  | .registers => ⟨⟨⟨44, 22⟩, 1, 10, ⟨3, 1⟩, false⟩, some ' ', .hex, none⟩
  | .dataPointer => ⟨⟨⟨74, 22⟩, 1, 2, ⟨2, 1⟩, false⟩, none, .hex, none⟩
  | .addressInput => ⟨⟨⟨6, 29⟩, 1, 2, ⟨2, 1⟩, false⟩, none, .hex, none⟩

variable {p q : Panels}

theorem grid_mem (p : Panels) (focus : Focus) : p.grid focus ∈ p.grids := by
  cases focus <;> simp [grid, grids]

theorem WellFormed.layout_grid (wf : p.WellFormed) (focus : Focus) :
    (p.grid focus).layout = editLayout focus := by
  have layouts := wf.layouts
  simp only [Panels.layouts, grids, List.map_cons, List.map_nil, List.cons.injEq] at layouts
  obtain ⟨memory, -, -, -, registers, -, dataPointer, -, -, -, -, -, -, -, addressInput, -⟩ := layouts
  cases focus with
  | memory => exact memory
  | registers => exact registers
  | dataPointer => exact dataPointer
  | addressInput => exact addressInput

/-- Panels whose editable grids have their cursors inside. -/
structure Editable (p : Panels) : Prop where
  wellFormed : p.WellFormed
  inside : ∀ focus, (p.grid focus).surface.CursorInside

theorem editable_new (title : String) : (Panels.new title).Editable where
  wellFormed := wellFormed_new title
  inside focus := by cases focus <;> exact ⟨Nat.succ_pos _, Nat.succ_pos _⟩

/-- The extents of an editable grid are those of its layout. -/
theorem Editable.shape_grid (editable : p.Editable) (focus : Focus) :
    (p.grid focus).surface.shape = (editLayout focus).shape :=
  congrArg DataGrid.Layout.shape (editable.wellFormed.layout_grid focus)

/-- Well-formed panels are editable as long as the cursors stay where they are. -/
theorem Editable.of_cursors (editable : p.Editable) (wf : q.WellFormed)
    (same : ∀ focus, (q.grid focus).surface.cursor = (p.grid focus).surface.cursor) : q.Editable where
  wellFormed := wf
  inside focus := by
    have shape : (q.grid focus).surface.shape = (p.grid focus).surface.shape :=
      congrArg DataGrid.Layout.shape ((wf.layout_grid focus).trans (editable.wellFormed.layout_grid focus).symm)
    rw [Surface.CursorInside, same, Surface.rows_eq_of_shape shape, Surface.cols_eq_of_shape shape]
    exact editable.inside focus

theorem Editable.setFrame (editable : p.Editable) (frame : Frame) :
    { p with memoryFrame := frame }.Editable :=
  editable.of_cursors (editable.wellFormed.of_same rfl rfl rfl rfl) fun focus => by cases focus <;> rfl

theorem Editable.wipe (editable : p.Editable) : p.wipe.Editable :=
  editable.of_cursors editable.wellFormed.wipe fun focus => by cases focus <;> rfl

theorem Editable.setAsciiHidden (editable : p.Editable) (hidden : Bool) :
    { p with ascii := p.ascii.setHidden hidden }.Editable :=
  editable.of_cursors (editable.wellFormed.setAsciiHidden hidden) fun focus => by cases focus <;> rfl

/-- A byte of the data pointer's panel is not its cursor. -/
theorem Editable.setDataPointer (editable : p.Editable) (half : Nat) (value : UInt8) :
    { p with dataPointer := { p.dataPointer with live := p.dataPointer.live.set 0 half value } }.Editable := by
  let q := { p with dataPointer := { p.dataPointer with live := p.dataPointer.live.set 0 half value } }
  have layouts : q.layouts = p.layouts := by
    simp only [Panels.layouts, grids, List.map_cons, q, DataGrid.layout_set]
  apply editable.of_cursors
  · exact editable.wellFormed.of_same layouts rfl rfl rfl
  · intro focus
    cases focus with
    | dataPointer => exact Surface.cursor_set ..
    | memory => rfl
    | registers => rfl
    | addressInput => rfl

end Panels

namespace Console

variable {c d : Console}

theorem focused_eq (c : Console) : c.focused = c.panels.grid c.focus := by
  unfold focused
  cases c.focus <;> rfl

/-- The grid in focus after a change of it; the other grids stay. -/
theorem grid_mapFocused (c : Console) (f : DataGrid → DataGrid) (focus : Focus) :
    (c.mapFocused f).panels.grid focus =
      if focus = c.focus then f (c.panels.grid focus) else c.panels.grid focus := by
  unfold mapFocused
  cases c.focus <;> cases focus <;> rfl

/-! ### Positions -/

/-- What names the byte that is edited. -/
structure Position where
  focus : Focus
  space : Space
  windowBase : Nat
  cursor : CellPos
deriving DecidableEq, Repr

namespace Position

def target (p : Position) : EditTarget :=
  match p.focus with
  | .memory => .memory p.space (p.cursor.row * memoryCols + p.cursor.col + p.windowBase)
  | .registers => .register p.cursor.col
  | .dataPointer => .dataPointer p.cursor.col
  | .addressInput => .addressInput p.cursor.col

/-- The columns of the grid in focus. -/
def cols (p : Position) : Nat :=
  (Panels.editLayout p.focus).shape.cols

/-- The position so many cells to the right, as far as there are columns. -/
def right (p : Position) (n : Nat) : Position :=
  { p with cursor := { p.cursor with col := min (p.cursor.col + n) (p.cols - 1) } }

theorem right_zero {p : Position} (inside : p.cursor.col < p.cols) : p.right 0 = p := by
  have same : min (p.cursor.col + 0) (p.cols - 1) = p.cursor.col := by omega
  rw [right, same]

theorem right_right (p : Position) (m n : Nat) : (p.right m).right n = p.right (m + n) := by
  have cols : (p.right m).cols = p.cols := rfl
  have same : min (min (p.cursor.col + m) (p.cols - 1) + n) (p.cols - 1) =
      min (p.cursor.col + (m + n)) (p.cols - 1) := by omega
  rw [right, cols]
  simp only [right, same]

end Position

def position (c : Console) : Position :=
  ⟨c.focus, c.space, c.windowBase, c.focused.surface.cursor⟩

theorem pointed_eq (c : Console) : c.pointed = c.position.target := rfl

theorem pointed_congr (same : d.position = c.position) : d.pointed = c.pointed := by
  rw [pointed_eq, pointed_eq, same]

/-- The bytes that can be edited belong to the machine and the address input. -/
theorem readTarget_congr (machine : d.machine = c.machine) (bytes : d.addressBytes = c.addressBytes) :
    d.readTarget = c.readTarget := by
  funext target
  cases target <;> simp only [readTarget, machine, bytes]

/-- Consoles with the same focus, memory and window are at the same position if the grids in focus have the
same cursor. -/
theorem position_congr (focus : d.focus = c.focus) (space : d.space = c.space)
    (windowBase : d.windowBase = c.windowBase)
    (cursor : (d.panels.grid c.focus).surface.cursor = (c.panels.grid c.focus).surface.cursor) :
    d.position = c.position := by
  simp only [position, focused_eq, focus, space, windowBase, cursor]

/-- A move to the right moves the position. -/
theorem position_moveFocused_right (editable : c.panels.Editable) :
    (c.moveFocused .right).position = c.position.right 1 := by
  have moved : (c.moveFocused .right).panels.grid c.focus = ((c.panels.grid c.focus).moveCursor .right).2 := by
    rw [moveFocused, grid_mapFocused, if_pos rfl]
  have cursor := Surface.cursor_moveCursor_right _ (editable.inside c.focus)
  have cols : (c.panels.grid c.focus).surface.cols = (Panels.editLayout c.focus).shape.cols :=
    congrArg Surface.Shape.cols (editable.shape_grid c.focus)
  rw [cols] at cursor
  change Position.mk c.focus c.space c.windowBase (c.moveFocused .right).focused.surface.cursor = _
  rw [focused_eq]
  change Position.mk c.focus c.space c.windowBase ((c.moveFocused .right).panels.grid c.focus).surface.cursor = _
  rw [moved, Position.right, position, focused_eq]
  exact congrArg (Position.mk c.focus c.space c.windowBase) cursor

/-! ### Refreshing -/

/-- Trails move without the grids below them. -/
theorem grid_advanceIf (c : Console) (focus : Focus) :
    (if c.lastCycles < c.machine.cycles then c.panels.advance else c.panels).grid focus =
      c.panels.grid focus := by
  split
  · cases focus <;> rfl
  · rfl

/-- The rows that a refresh writes into the grid of a focus. -/
def editLines (c : Console) : Focus → List (List UInt8)
  | .memory => c.memoryBytes
  | .registers => [c.registerBytes]
  | .dataPointer => [wordBytes c.machine.cpu.dptr]
  | .addressInput => [c.addressBytes.toList]

private theorem surface_refreshPanels (c : Console) (p : Panels) (focus : Focus) :
    ((c.refreshPanels p).grid focus).surface = (p.grid focus).surface.setRowsFrom 0 (c.editLines focus) := by
  have single (s : Surface) (bytes : List UInt8) : s.setRowsFrom 0 [bytes] = s.setRow 0 bytes := rfl
  cases focus <;> simp only [Panels.grid, refreshPanels, editLines, single, Tracked.setRow, DataGrid.setRow,
    DataGrid.surface_mapSurface]

theorem surface_refresh (c : Console) (focus : Focus) :
    (c.refresh.panels.grid focus).surface =
      (c.panels.grid focus).surface.setRowsFrom 0 (c.editLines focus) := by
  rw [refresh, surface_refreshPanels, grid_advanceIf]

theorem cursor_refresh (c : Console) (focus : Focus) :
    (c.refresh.panels.grid focus).surface.cursor = (c.panels.grid focus).surface.cursor := by
  rw [surface_refresh, Surface.cursor_setRowsFrom]

theorem editable_refresh (editable : c.panels.Editable) : c.refresh.panels.Editable := by
  apply editable.of_cursors _ c.cursor_refresh
  apply c.wellFormed_refreshPanels
  split
  · exact editable.wellFormed.advance
  · exact editable.wellFormed

theorem position_refresh (c : Console) : c.refresh.position = c.position :=
  position_congr rfl rfl rfl (c.cursor_refresh c.focus)

/-! ### The byte under the cursor -/

/-- A cursor inside an editable grid, in numbers. -/
theorem cursor_bounds (editable : c.panels.Editable) (focus : Focus) :
    (c.panels.grid focus).surface.cursor.row < (Panels.editLayout focus).shape.rows ∧
      (c.panels.grid focus).surface.cursor.col < (Panels.editLayout focus).shape.cols := by
  rw [← editable.shape_grid]
  exact editable.inside focus

/-- The rows that are written hold, at the cursor, the byte that is edited. -/
theorem editLines_cursor (editable : c.panels.Editable) :
    ∃ bytes, (c.editLines c.focus)[c.focused.surface.cursor.row]? = some bytes ∧
      bytes[c.focused.surface.cursor.col]? = some (c.readTarget c.pointed) := by
  have bounds := cursor_bounds editable c.focus
  rw [← focused_eq] at bounds
  unfold pointed
  generalize c.focused.surface.cursor = cursor at bounds
  cases focus : c.focus with
  | memory =>
    rw [focus] at bounds
    have row : cursor.row < memoryRows := bounds.1
    have col : cursor.col < memoryCols := bounds.2
    have addr : c.rowAddr cursor.row + cursor.col = cursor.row * memoryCols + cursor.col + c.windowBase := by
      rw [rowAddr]
      omega
    refine ⟨c.viewBytes (c.rowAddr cursor.row) memoryCols, ?_, ?_⟩
    · rw [editLines, memoryBytes, List.getElem?_map, List.getElem?_range row]
      rfl
    · rw [viewBytes, List.getElem?_map, List.getElem?_range col, Option.map_some, addr]
      rfl
  | registers =>
    rw [focus] at bounds
    have col : cursor.col < 10 := bounds.2
    refine ⟨c.registerBytes, ?_, ?_⟩
    · rw [Nat.lt_one_iff.mp bounds.1]
      rfl
    · rw [registerBytes, List.getElem?_map, List.getElem?_range col]
      rfl
  | dataPointer =>
    rw [focus] at bounds
    have present : cursor.col < (wordBytes c.machine.cpu.dptr).length := bounds.2
    refine ⟨wordBytes c.machine.cpu.dptr, ?_, ?_⟩
    · rw [Nat.lt_one_iff.mp bounds.1]
      rfl
    · rw [readTarget, List.getElem?_eq_getElem present, Option.getD_some]
  | addressInput =>
    rw [focus] at bounds
    have present : cursor.col < 2 := bounds.2
    refine ⟨c.addressBytes.toList, ?_, ?_⟩
    · rw [Nat.lt_one_iff.mp bounds.1]
      rfl
    · rw [readTarget, Vector.getElem?_toList, Vector.getElem?_eq_getElem present, Option.getD_some]

/-- After a refresh, the grid in focus holds under its cursor the byte that is edited. -/
theorem get_refresh_cursor (editable : c.panels.Editable) :
    c.refresh.focused.surface.get c.focused.surface.cursor.row c.focused.surface.cursor.col =
      c.readTarget c.pointed := by
  obtain ⟨bytes, line, cell⟩ := editLines_cursor editable
  have inside := editable.inside c.focus
  have same : c.refresh.focused.surface = c.focused.surface.setRowsFrom 0 (c.editLines c.focus) := by
    rw [focused_eq, focused_eq]
    exact c.surface_refresh c.focus
  rw [← focused_eq] at inside
  rw [same, Surface.get_setRowsFrom, if_pos ⟨Nat.zero_le _, inside⟩, Nat.sub_zero, line, Option.bind_some, cell,
    Option.getD_some]

/-! ### Digits on the screen -/

/-- The cell of the screen where a digit of a byte stands: in the memory window, whose first address is
given, or in the row of registers, data pointer or address input. -/
def digitCell (base : Nat) (target : EditTarget) (nibble : Nibble) : CellPos :=
  match target with
  | .memory _ addr => ⟨1 + (addr - base) / memoryCols, 6 + 3 * ((addr - base) % memoryCols) + nibble.index⟩
  | .register index => ⟨22, 44 + 3 * index + nibble.index⟩
  | .dataPointer half => ⟨22, 74 + 2 * half + nibble.index⟩
  | .addressInput half => ⟨29, 6 + 2 * half + nibble.index⟩

/-- The cell of a digit of the byte under the cursor. -/
def aim (c : Console) (nibble : Nibble) : CellPos :=
  digitCell c.windowBase c.pointed nibble

theorem aim_congr (same : d.position = c.position) : d.aim = c.aim := by
  have windowBase : d.windowBase = c.windowBase := congrArg Position.windowBase same
  funext nibble
  rw [aim, aim, windowBase, pointed_congr same]

/-- The second digit stands next to the first one. -/
theorem aim_low (c : Console) : c.aim .low = { c.aim .high with col := (c.aim .high).col + 1 } := by
  unfold aim
  cases c.pointed <;> rfl

/-- The digits that are edited stand in the grid in focus, at the place that belongs to its cursor. -/
theorem aim_eq (editable : c.panels.Editable) (nibble : Nibble) :
    c.aim nibble =
      let l := Panels.editLayout c.focus
      ⟨l.area.top + c.focused.surface.cursor.row,
        l.area.left + (2 + l.separator.toList.length) * c.focused.surface.cursor.col + nibble.index⟩ := by
  have bounds := cursor_bounds editable c.focus
  rw [← focused_eq] at bounds
  unfold aim pointed
  generalize c.focused.surface.cursor = cursor at bounds
  -- Only the memory window has more than one row, and only it scrolls.
  cases focus : c.focus with
  | memory =>
    rw [focus] at bounds
    have col : cursor.col < 8 := bounds.2
    change _ = CellPos.mk (1 + cursor.row) (6 + 3 * cursor.col + nibble.index)
    simp only [digitCell, memoryCols, CellPos.mk.injEq]
    omega
  | registers =>
    rw [focus] at bounds
    rw [Nat.lt_one_iff.mp bounds.1]
    rfl
  | dataPointer =>
    rw [focus] at bounds
    rw [Nat.lt_one_iff.mp bounds.1]
    rfl
  | addressInput =>
    rw [focus] at bounds
    rw [Nat.lt_one_iff.mp bounds.1]
    rfl

/-- The cell of the first digit is the place of the cursor on the screen. -/
theorem caretPosition_focused (editable : c.panels.Editable) :
    c.focused.surface.caretPosition = ⟨(c.aim .high).col, (c.aim .high).row⟩ := by
  have shape : c.focused.surface.shape = (Panels.editLayout c.focus).shape := by
    rw [focused_eq]
    exact editable.shape_grid c.focus
  rw [Surface.caretPosition_eq, shape, aim_eq editable]
  cases c.focus <;>
    simp only [Panels.editLayout, DataGrid.Layout.area, Nibble.index, Coord.mk.injEq, Option.toList_some,
      Option.toList_none, List.length_singleton, List.length_nil] <;>
    omega

end Console

end Mcs51
