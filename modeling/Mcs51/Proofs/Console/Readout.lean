import Mcs51.Proofs.Console.Effects
import Mcs51.Proofs.Core.Memory

/-! # What the panels read

After a refresh every panel shows the part of the machine that it is for, cell by cell: the memory window and the
addresses beside it, the character view, the stack, registers, ports, control and status, the disassembly and the
address input (`Reads`). No byte is cut off and none is left over from before. Main statement: every reachable
console paints panels that read its machine (`reads_paint`).
-/

namespace Mcs51

namespace Surface

variable {s : Surface} {row col : Nat} {bytes : List UInt8}

private theorem get_setFrom_inside {k : Nat} (inside : row < s.rows ∧ col + k < s.cols) (written : k < bytes.length) :
    some ((s.setFrom row col bytes).get row (col + k)) = bytes[k]? := by
  rw [get_setFrom, if_pos ⟨⟨rfl, Nat.le_add_right ..⟩, inside⟩, Nat.add_sub_cancel_left,
    List.getElem?_eq_getElem written, Option.getD_some]

private theorem get_setFrom_before {r c : Nat} (before : c < col) :
    (s.setFrom row col bytes).get r c = s.get r c := by
  rw [get_setFrom, if_neg fun reached => Nat.not_le_of_lt before reached.1.2]

end Surface

namespace Console

/-- Panels that show a console's machine, seen through the memory in view, the window base and the address input. -/
structure Reads (c : Console) (p : Panels) : Prop where
  memory : ∀ r < memoryRows, p.memory.row r =
    (List.range memoryCols).map fun k => c.machine.readByte c.space (c.windowBase + r * memoryCols + k)
  memoryAddr : ∀ r < memoryRows, p.memoryAddr.row r = wordBytes (UInt16.ofNat (c.windowBase + r * memoryCols))
  /-- Lines below the fourth stand in the second column; the characters follow four digits and a gap. -/
  ascii : p.asciiVisible = true → ∀ line < asciiRows * 2, ∀ k < memoryCols,
    p.ascii.surface.get (line % asciiRows) (lineStart line + 5 + k) =
      asciiByte (c.machine.readByte c.space (c.windowBase + line * memoryCols + k))
  asciiAddr : p.asciiVisible = true → ∀ line < asciiRows * 2, ∀ k < 4,
    some (p.ascii.surface.get (line % asciiRows) (lineStart line + k)) =
      (Codepage.encode (Text.wordHex (UInt16.ofNat (c.windowBase + line * memoryCols))))[k]?
  /-- The eighth byte is the one at the stack pointer. -/
  stack : ∀ i < stackDepth,
    p.stack.row i = [c.machine.readByte .lower (((c.machine.cpu.sfr .sp).toNat + i + 249) % 128)]
  /-- The highest bit comes first. -/
  status : p.status.live.row 0 =
    (List.range 8).map fun i => UInt8.ofNat ((c.machine.cpu.sfr .psw).toNat >>> (7 - i) % 2)
  ports : p.ports.live.row 0 = [.sp, .p0, .p1, .p2, .p3, .ip, .ie].map c.machine.cpu.sfr
  control : p.control.live.row 0 = [.tmod, .tcon, .th0, .th1, .tl0, .tl1, .scon, .pcon].map c.machine.cpu.sfr
  registers : p.registers.live.row 0 =
    c.machine.cpu.acc :: List.ofFn c.machine.cpu.reg ++ [c.machine.cpu.sfr .b]
  dataPointer : p.dataPointer.live.row 0 = [c.machine.cpu.sfr .dph, c.machine.cpu.sfr .dpl]
  code : p.code.live.row 0 = Codepage.encode c.codeLine
  addressInput : p.addressInput.row 0 = c.addressBytes.toList

variable {c : Console} {p : Panels}

/-! ### The character view -/

private theorem lineStart_cases (line : Nat) :
    line < asciiRows ∧ lineStart line = 0 ∨ asciiRows ≤ line ∧ lineStart line = 14 := by
  unfold lineStart
  split
  · exact .inl ⟨‹_›, rfl⟩
  · exact .inr ⟨Nat.le_of_not_lt ‹_›, rfl⟩

/-- Two lines of the character view have no cell in common. -/
private theorem line_eq_of_reaches {line other row col : Nat} (inside : line < asciiRows * 2)
    (inside' : other < asciiRows * 2) (reaches : LineReaches line row col) (reaches' : LineReaches other row col) :
    line = other := by
  have start := lineStart_cases line
  have start' := lineStart_cases other
  simp only [LineReaches, asciiRows] at *
  omega

/-- A cell of the character view holds what its line wrote there. -/
private theorem get_putAscii_of_reaches {view : Surface} {line row col : Nat} (inside : line < asciiRows * 2)
    (reaches : LineReaches line row col) {byte : UInt8}
    (written : ∀ view' : Surface, view'.shape = view.shape → (c.putAsciiLine view' line).get row col = byte) :
    (c.putAscii view).get row col = byte := by
  -- The lines up to the one that reaches the cell, then those behind it, which miss it.
  have lines (n : Nat) (within : n ≤ asciiRows * 2) (behind : line < n) :
      ((List.range n).foldl c.putAsciiLine view).get row col = byte := by
    induction n with
    | zero => exact absurd behind (Nat.not_lt_zero _)
    | succ n ih =>
      have shape : ((List.range n).foldl c.putAsciiLine view).shape = view.shape :=
        List.foldlRecOn (motive := fun s => s.shape = view.shape) _ _ rfl fun s kept line _ =>
          (c.shape_putAsciiLine s line).trans kept
      rw [List.range_succ, List.foldl_append, List.foldl_cons, List.foldl_nil]
      rcases Nat.lt_or_eq_of_le (Nat.le_of_lt_succ behind) with earlier | rfl
      · have missed : ¬LineReaches n row col := fun other =>
          Nat.ne_of_lt earlier (line_eq_of_reaches inside within reaches other)
        rw [c.get_putAsciiLine _ missed]
        exact ih (Nat.le_of_succ_le within) earlier
      · exact written _ shape
  exact lines _ (Nat.le_refl _) inside

private theorem get_putAsciiLine_inside {view : Surface} (rows : view.rows = asciiRows) (cols : view.cols = asciiCols)
    (line : Nat) :
    (∀ k < 4, some ((c.putAsciiLine view line).get (line % asciiRows) (lineStart line + k)) =
      (c.asciiLine line).1[k]?) ∧
    ∀ k < memoryCols, some ((c.putAsciiLine view line).get (line % asciiRows) (lineStart line + 5 + k)) =
      (c.asciiLine line).2[k]? := by
  have addr := c.length_asciiLine_addr line
  have chars := c.length_asciiLine_chars line
  have row : line % asciiRows < asciiRows := Nat.mod_lt _ (by decide)
  have right : lineStart line + 5 + memoryCols ≤ asciiCols := by
    rcases lineStart_cases line with ⟨_, start⟩ | ⟨_, start⟩ <;> rw [start] <;> decide
  rw [putAsciiLine_eq]
  generalize (c.asciiLine line).1 = digits, (c.asciiLine line).2 = characters at addr chars
  refine ⟨fun k digit => ?_, fun k character => ?_⟩
  · rw [Surface.get_setFrom_before (by omega)]
    exact Surface.get_setFrom_inside ⟨by rwa [rows], by rw [cols]; omega⟩ (by omega)
  · have shape := view.shape_setFrom (line % asciiRows) (lineStart line) digits
    refine Surface.get_setFrom_inside ⟨?_, ?_⟩ (by rwa [chars])
    · rwa [Surface.rows_eq_of_shape shape, rows]
    · rw [Surface.cols_eq_of_shape shape, cols]
      omega

/-- The character view shows the bytes of the window, line by line. -/
private theorem reads_putAscii {view : Surface} (rows : view.rows = asciiRows) (cols : view.cols = asciiCols)
    {line : Nat} (inside : line < asciiRows * 2) :
    (∀ k < memoryCols, (c.putAscii view).get (line % asciiRows) (lineStart line + 5 + k) =
      asciiByte (c.machine.readByte c.space (c.rowAddr line + k))) ∧
    ∀ k < 4, some ((c.putAscii view).get (line % asciiRows) (lineStart line + k)) = (c.asciiLine line).1[k]? := by
  have line' {view' : Surface} (shape : view'.shape = view.shape) :=
    get_putAsciiLine_inside (c := c) ((Surface.rows_eq_of_shape shape).trans rows)
      ((Surface.cols_eq_of_shape shape).trans cols) line
  refine ⟨fun k character => ?_, fun k digit => ?_⟩
  · have reaches : LineReaches line (line % asciiRows) (lineStart line + 5 + k) :=
      ⟨rfl, .inr ⟨Nat.le_add_right .., by simp only [memoryCols] at character; omega⟩⟩
    refine get_putAscii_of_reaches inside reaches fun view' shape => Option.some.inj ?_
    rw [(line' shape).2 k character, asciiLine, viewBytes, List.map_map, List.getElem?_map,
      List.getElem?_range character]
    rfl
  · have reaches : LineReaches line (line % asciiRows) (lineStart line + k) :=
      ⟨rfl, .inl ⟨Nat.le_add_right .., Nat.add_lt_add_left digit _⟩⟩
    have wide : k < (c.asciiLine line).1.length := by rwa [length_asciiLine_addr]
    rw [List.getElem?_eq_getElem wide]
    refine congrArg some (get_putAscii_of_reaches inside reaches fun view' shape => Option.some.inj ?_)
    rw [(line' shape).1 k digit, List.getElem?_eq_getElem wide]

/-! ### All panels -/

private theorem bit_eq (byte : UInt8) (i : Nat) :
    byte >>> UInt8.ofNat (7 - i) &&& 1 = UInt8.ofNat (byte.toNat >>> (7 - i) % 2) := by
  have small : 7 - i < 8 := Nat.lt_succ_of_le (Nat.sub_le 7 i)
  apply UInt8.toNat_inj.mp
  rw [UInt8.toNat_and, UInt8.toNat_shiftRight, UInt8.toNat_ofNat_of_lt' (Nat.lt_trans small (by decide)),
    Nat.mod_eq_of_lt small,
    UInt8.toNat_ofNat_of_lt' (Nat.lt_trans (Nat.mod_lt _ Nat.two_pos) (by decide))]
  exact Nat.and_one_is_mod _

private theorem registerBytes_eq (c : Console) :
    c.registerBytes = c.machine.cpu.acc :: List.ofFn c.machine.cpu.reg ++ [c.machine.cpu.sfr .b] := by
  have acc : (c.machine.readRegister 0).toUInt8 = c.machine.cpu.acc := UInt8.toUInt8_toUInt16 _
  have b : (c.machine.readRegister 9).toUInt8 = c.machine.cpu.sfr .b := UInt8.toUInt8_toUInt16 _
  have bank (i : Fin 8) : (c.machine.readRegister (i.val + 1)).toUInt8 = c.machine.cpu.reg i := by
    rw [Machine.readRegister, if_neg (Nat.succ_ne_zero _), dif_pos (show i.val + 1 - 1 < 8 from i.isLt),
      UInt8.toUInt8_toUInt16]
    rfl
  rw [← acc, ← b, ← funext bank]
  rfl

section Layout

variable {g h : DataGrid}

private theorem rows_of_layout (same : g.layout = h.layout) : g.surface.rows = h.surface.rows :=
  congrArg (fun l : DataGrid.Layout => l.shape.rows) same

private theorem cols_of_layout (same : g.layout = h.layout) : g.surface.cols = h.surface.cols :=
  congrArg (fun l : DataGrid.Layout => l.shape.cols) same

/-- Lines as wide as a panel that are written into it from its top are its rows. -/
private theorem row_mapSurface (same : g.layout = h.layout) {line : Nat → List UInt8} {r : Nat}
    (inside : r < h.surface.rows) (full : (line r).length = h.surface.cols) :
    (g.mapSurface (·.setRowsFrom 0 ((List.range h.surface.rows).map line))).row r = line r := by
  have written : ((List.range h.surface.rows).map line)[r]? = some (line r) := by
    rw [List.getElem?_map, List.getElem?_range inside, Option.map_some]
  exact Surface.row_setRowsFrom (by rwa [rows_of_layout same]) written (by rwa [cols_of_layout same])

private theorem row_setRow_zero (same : g.layout = h.layout) (one : 0 < h.surface.rows) {bytes : List UInt8}
    (full : bytes.length = h.surface.cols) : (g.setRow 0 bytes).row 0 = bytes := by
  have line : [bytes][0]? = some bytes := rfl
  exact Surface.row_setRowsFrom (by rwa [rows_of_layout same]) line (by rwa [cols_of_layout same])

end Layout

/-- After a refresh the panels show the machine, whatever they showed before. -/
theorem reads_refreshPanels (wellFormed : p.WellFormed) : c.Reads (c.refreshPanels p) := by
  have layouts := wellFormed.layouts
  simp only [Panels.layouts, Panels.grids, List.map_cons, List.map_nil, List.cons.injEq] at layouts
  obtain ⟨memory, memoryAddr, ports, -, registers, -, dataPointer, -, control, -, status, -, stack, ascii,
    addressInput, code, -⟩ := layouts
  have view (visible : (c.refreshPanels p).asciiVisible = true) :
      (c.refreshPanels p).ascii.surface = c.putAscii p.ascii.surface := by
    rw [asciiVisible_refreshPanels] at visible
    rw [ascii_refreshPanels, if_pos visible, DataGrid.surface_mapSurface]
  exact {
    memory r line := row_mapSurface memory line (c.length_viewBytes _ _)
    memoryAddr r line := row_mapSurface memoryAddr line rfl
    ascii visible line inside k column := by
      rw [view visible]
      exact (reads_putAscii (rows_of_layout ascii) (cols_of_layout ascii) inside).1 k column
    asciiAddr visible line inside k digit := by
      rw [view visible]
      exact (reads_putAscii (rows_of_layout ascii) (cols_of_layout ascii) inside).2 k digit
    stack i deep := row_mapSurface stack deep rfl
    status := by
      refine (row_setRow_zero status Nat.one_pos rfl).trans ?_
      simp only [bitsOf, bit_eq, sfr]
    ports := row_setRow_zero ports Nat.one_pos rfl
    control := row_setRow_zero control Nat.one_pos rfl
    registers := (row_setRow_zero registers Nat.one_pos rfl).trans c.registerBytes_eq
    dataPointer := by
      refine (row_setRow_zero dataPointer Nat.one_pos rfl).trans ?_
      rw [wordBytes]
      exact congrArg₂ (fun high low => [high, low]) (highByte_word _ _) (lowByte_word _ _)
    code := row_setRow_zero code Nat.one_pos (by rw [Codepage.length_encode, codeLine, Codepage.length_fit]; rfl)
    addressInput := row_setRow_zero addressInput Nat.one_pos c.addressBytes.length_toList }

/-- Every reachable console paints panels that show its machine. -/
theorem Reachable.reads_paint (reachable : c.Reachable) : c.Reads c.paint.panels := by
  have wellFormed := reachable.poised.editable.wellFormed
  obtain ⟨_, drawn⟩ := c.refresh.pointAtCursor.drawFrame_drawn
  rw [paint, drawn]
  apply reads_refreshPanels
  split
  · exact wellFormed.advance
  · exact wellFormed

end Console

end Mcs51
