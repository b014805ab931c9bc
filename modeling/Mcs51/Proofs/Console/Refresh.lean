import Mcs51.Proofs.Console.Layout

/-! # What a refresh writes

A refresh writes every cell that a live grid shows: whatever the grids held before, they show the same
afterwards (`elements_refreshPanels_congr`). What it writes keeps the panels well-formed.
-/

namespace Mcs51.Console

open Codepage Grid

variable (c : Console)

/-! ### Lengths and plain text -/

@[simp] theorem length_viewBytes (addr count : Nat) : (c.viewBytes addr count).length = count := by
  rw [viewBytes, List.length_map, List.length_range]

private theorem bitsOf_lt {byte bit : UInt8} (member : bit ∈ bitsOf byte) : bit < 10 := by
  obtain ⟨i, _, rfl⟩ := List.mem_map.mp member
  rw [UInt8.lt_iff_toNat_lt, UInt8.toNat_and]
  exact Nat.lt_of_le_of_lt Nat.and_le_right (by decide)

private theorem plain_asciiByte (value : UInt8) : Plain (asciiByte value) := by
  unfold asciiByte
  split
  · rename_i visible
    constructor <;> rintro rfl <;> exact absurd visible (by decide)
  · decide

private theorem printable_opcodeText (opcodes : List UInt8) (i : Nat) : TextOf Printable (opcodeText opcodes i) := by
  unfold opcodeText
  cases opcodes[i]? with
  | none => decide
  | some byte => exact (wordText_byteHex byte).printable

private theorem printable_listingText {l : Listing} (text : TextOf Printable l.text) :
    TextOf Printable (listingText l) := by
  have gap : TextOf Printable "  " := by decide
  have blank : TextOf Printable " " := by decide
  have opcode (i : Nat) := printable_opcodeText l.opcodes i
  exact (((((((wordText_wordHex _).printable.append gap).append (opcode 0)).append blank).append (opcode 1)).append
    blank).append (opcode 2) |>.append gap).append text

theorem printable_codeLine : TextOf Printable c.codeLine :=
  (printable_listingText (Instruction.printable_text _)).fit (by decide) codeWidth

private theorem plainText_codeLine : PlainText c.codeLine :=
  c.printable_codeLine.mono fun _ => Printable.plain

/-! ### The character view -/

/-- First column of a line of the character view. -/
def lineStart (line : Nat) : Nat :=
  if line < asciiRows then 0 else 14

/-- Whether a line of the character view writes a cell: four digits of an address and, behind a gap, eight
characters. -/
def LineReaches (line row col : Nat) : Prop :=
  row = line % asciiRows ∧
    (lineStart line ≤ col ∧ col < lineStart line + 4 ∨ lineStart line + 5 ≤ col ∧ col < lineStart line + 13)

theorem putAsciiLine_eq (view : Surface) (line : Nat) :
    c.putAsciiLine view line =
      (view.setFrom (line % asciiRows) (lineStart line) (c.asciiLine line).1).setFrom (line % asciiRows)
        (lineStart line + 5) (c.asciiLine line).2 :=
  rfl

theorem length_asciiLine_addr (line : Nat) : (c.asciiLine line).1.length = 4 := by
  rw [asciiLine, length_encode, Text.length_wordHex]

theorem length_asciiLine_chars (line : Nat) : (c.asciiLine line).2.length = 8 := by
  rw [asciiLine, List.length_map, length_viewBytes]
  rfl

@[simp] theorem shape_putAsciiLine (view : Surface) (line : Nat) :
    (c.putAsciiLine view line).shape = view.shape := by
  simp only [putAsciiLine, Surface.shape_setFrom]

private theorem all_putAsciiLine {view : Surface} (plain : view.All Plain) (line : Nat) :
    (c.putAsciiLine view line).All Plain := by
  apply Surface.All.setFrom
  · exact plain.setFrom (plainText_wordHex _).encode
  · intro byte member
    obtain ⟨value, _, rfl⟩ := List.mem_map.mp member
    exact plain_asciiByte value

/-- A line leaves the cells alone that it does not reach. -/
theorem get_putAsciiLine {line row col : Nat} (view : Surface) (missed : ¬LineReaches line row col) :
    (c.putAsciiLine view line).get row col = view.get row col := by
  simp only [LineReaches] at missed
  have addr := c.length_asciiLine_addr line
  have chars := c.length_asciiLine_chars line
  rw [putAsciiLine_eq, Surface.get_setFrom, Surface.get_setFrom]
  split
  · rw [List.getElem?_eq_none (by omega), Option.getD_none]
    split
    · rw [List.getElem?_eq_none (by omega), Option.getD_none]
    · rfl
  · split
    · rw [List.getElem?_eq_none (by omega), Option.getD_none]
    · rfl

/-- After a line was written to two surfaces of one shape, they agree where they agreed and where the line
went. -/
theorem get_putAsciiLine_congr {s t : Surface} (same : s.shape = t.shape) {line row col : Nat}
    (agree : s.get row col = t.get row col ∨ LineReaches line row col) :
    (c.putAsciiLine s line).get row col = (c.putAsciiLine t line).get row col := by
  have addr := c.length_asciiLine_addr line
  have chars := c.length_asciiLine_chars line
  have same' (start : Nat) (bytes : List UInt8) : (s.setFrom (line % asciiRows) start bytes).shape =
      (t.setFrom (line % asciiRows) start bytes).shape := by
    simp only [Surface.shape_setFrom, same]
  rw [putAsciiLine_eq, putAsciiLine_eq]
  apply Surface.get_setFrom_congr (same' _ _)
  rcases agree with agree | ⟨rfl, digits | characters⟩
  · exact .inl (Surface.get_setFrom_congr same (.inl agree))
  · exact .inl (Surface.get_setFrom_congr same (.inr ⟨rfl, digits.1, by rw [addr]; exact digits.2⟩))
  · exact .inr ⟨rfl, characters.1, by rw [chars]; exact characters.2⟩

/-- What holds of the character view after every line holds of the view. -/
theorem putAscii_induction {P : Surface → Prop} {view : Surface} (start : P view)
    (step : ∀ (view : Surface) (line : Nat), P view → P (c.putAsciiLine view line)) :
    P (c.putAscii view) :=
  List.foldlRecOn (motive := P) _ _ start fun view kept line _ => step view line kept

@[simp] theorem shape_putAscii (view : Surface) : (c.putAscii view).shape = view.shape :=
  c.putAscii_induction (P := fun s => s.shape = view.shape) rfl fun s line kept =>
    (c.shape_putAsciiLine s line).trans kept

private theorem all_putAscii {view : Surface} (plain : view.All Plain) : (c.putAscii view).All Plain :=
  c.putAscii_induction plain fun _ line kept => c.all_putAsciiLine kept line

private theorem not_reaches_gap {line row col : Nat} (gap : Panels.asciiGap col) :
    ¬LineReaches line row col := by
  simp only [LineReaches, Panels.asciiGap, lineStart] at *
  split <;> omega

private theorem get_putAscii_gap {row col : Nat} (view : Surface) (gap : Panels.asciiGap col) :
    (c.putAscii view).get row col = view.get row col :=
  c.putAscii_induction (P := fun s => s.get row col = view.get row col) rfl fun s _ kept =>
    (c.get_putAsciiLine s (not_reaches_gap gap)).trans kept

private theorem get_foldl_putAsciiLine_congr {lines : List Nat} {s t : Surface}
    (same : s.shape = t.shape) {row col : Nat}
    (agree : s.get row col = t.get row col ∨ ∃ line ∈ lines, LineReaches line row col) :
    (lines.foldl c.putAsciiLine s).get row col = (lines.foldl c.putAsciiLine t).get row col := by
  induction lines generalizing s t with
  | nil =>
    rcases agree with agree | ⟨_, member, _⟩
    · exact agree
    · contradiction
  | cons line rest ih =>
    apply ih (by simp only [shape_putAsciiLine, same])
    rcases agree with agree | ⟨other, member, reaches⟩
    · exact .inl (c.get_putAsciiLine_congr same (.inl agree))
    · rcases List.mem_cons.mp member with rfl | member
      · exact .inl (c.get_putAsciiLine_congr same (.inr reaches))
      · exact .inr ⟨other, member, reaches⟩

/-- Every cell of the view that is no gap is reached by one of its lines. -/
theorem exists_line_reaches {row col : Nat} (inside : row < asciiRows ∧ col < asciiCols)
    (filled : ¬Panels.asciiGap col) :
    ∃ line ∈ List.range (asciiRows * 2), LineReaches line row col := by
  have upper : lineStart row = 0 := if_pos inside.1
  have lower : lineStart (row + asciiRows) = 14 := if_neg (by omega)
  by_cases first : col < 14
  · refine ⟨row, List.mem_range.mpr (by omega), ?_⟩
    simp only [LineReaches, Panels.asciiGap, upper, asciiRows] at *
    omega
  · refine ⟨row + asciiRows, List.mem_range.mpr (by omega), ?_⟩
    simp only [LineReaches, Panels.asciiGap, lower, asciiRows, asciiCols] at *
    omega

/-- Two character views with empty gaps agree once they are written. -/
theorem get_putAscii_congr {s t : Surface} (same : s.shape = t.shape) (rows : s.rows = asciiRows)
    (cols : s.cols = asciiCols) {row col : Nat} (gaps : Panels.asciiGap col → s.get row col = t.get row col) :
    (c.putAscii s).get row col = (c.putAscii t).get row col := by
  by_cases inside : row < asciiRows ∧ col < asciiCols
  · apply c.get_foldl_putAsciiLine_congr same
    by_cases gap : col = 4 ∨ col = 13 ∨ col = 18
    · exact .inl (gaps gap)
    · exact .inr (exists_line_reaches inside gap)
  · have same' : (c.putAscii s).shape = (c.putAscii t).shape := by simp only [shape_putAscii, same]
    have rows' : (c.putAscii s).rows = asciiRows :=
      (Surface.rows_eq_of_shape (c.shape_putAscii s)).trans rows
    have cols' : (c.putAscii s).cols = asciiCols :=
      (Surface.cols_eq_of_shape (c.shape_putAscii s)).trans cols
    rw [Surface.get_of_outside _ (by rwa [rows', cols']),
      Surface.get_of_outside _
        (by rwa [← Surface.rows_eq_of_shape same', ← Surface.cols_eq_of_shape same', rows', cols'])]

/-! ### The panels -/

open Panels (WellFormed)

theorem ascii_refreshPanels (p : Panels) :
    (c.refreshPanels p).ascii = if p.asciiVisible then p.ascii.mapSurface c.putAscii else p.ascii :=
  rfl

/-- The character view is written or left alone. -/
theorem ascii_refreshPanels_induction {P : DataGrid → Prop} {p : Panels} (stays : P p.ascii)
    (written : P (p.ascii.mapSurface c.putAscii)) : P (c.refreshPanels p).ascii := by
  rw [ascii_refreshPanels]
  split
  · exact written
  · exact stays

theorem layout_ascii_refreshPanels (p : Panels) :
    (c.refreshPanels p).ascii.layout = p.ascii.layout :=
  c.ascii_refreshPanels_induction (P := fun g => g.layout = p.ascii.layout) rfl
    (p.ascii.layout_mapSurface (c.shape_putAscii _))

@[simp] theorem layouts_refreshPanels (p : Panels) : (c.refreshPanels p).layouts = p.layouts := by
  simp only [Panels.layouts, Panels.grids, List.map_cons, List.map_nil, layout_ascii_refreshPanels]
  simp only [refreshPanels, DataGrid.layout_setRowsFrom, DataGrid.layout_setRow,
    Tracked.layout_live_setRow, Tracked.trail_setRow]

@[simp] theorem asciiVisible_refreshPanels (p : Panels) :
    (c.refreshPanels p).asciiVisible = p.asciiVisible :=
  congrArg (fun l : DataGrid.Layout => !l.shape.hidden) (c.layout_ascii_refreshPanels p)

@[simp] theorem memoryFrame_refreshPanels (p : Panels) :
    (c.refreshPanels p).memoryFrame = p.memoryFrame := by
  simp only [refreshPanels]

/-- A refresh keeps the panels well-formed. -/
theorem wellFormed_refreshPanels {p : Panels} (wf : p.WellFormed) :
    (c.refreshPanels p).WellFormed where
  layouts := by rw [layouts_refreshPanels, asciiVisible_refreshPanels, wf.layouts]
  status := wf.status.setRow fun _ member => bitsOf_lt member
  code := wf.code.setRow c.plainText_codeLine.encode
  ascii := c.ascii_refreshPanels_induction (P := fun g => g.surface.All Plain) wf.ascii
    (by rw [DataGrid.surface_mapSurface]; exact c.all_putAscii wf.ascii)
  gaps row col gap :=
    c.ascii_refreshPanels_induction (P := fun g => g.surface.get row col = 0) (wf.gaps row col gap)
    (by rw [DataGrid.surface_mapSurface, c.get_putAscii_gap _ gap, wf.gaps row col gap])

/-! ### What the panels show -/

private theorem length_table (row : Nat → List UInt8) (count : Nat) :
    ((List.range count).map row).length = count := by
  rw [List.length_map, List.length_range]

private theorem wide_table {row : Nat → List UInt8} (width : Nat)
    (each : ∀ i, (row i).length = width) (count : Nat) :
    ∀ bytes ∈ (List.range count).map row, width ≤ bytes.length := by
  intro bytes member
  obtain ⟨i, _, rfl⟩ := List.mem_map.mp member
  exact Nat.le_of_eq (each i).symm

/-- Full rows make grids of one layout show the same. -/
theorem picture_setRowsFrom_congr {g h : DataGrid} (same : g.layout = h.layout) {l : DataGrid.Layout}
    (layout : g.layout = l) {lines : List (List UInt8)} (full : l.shape.rows ≤ lines.length)
    (wide : ∀ bytes ∈ lines, l.shape.cols ≤ bytes.length) :
    (g.mapSurface (·.setRowsFrom 0 lines)).picture = (h.mapSurface (·.setRowsFrom 0 lines)).picture := by
  subst layout
  have shape : g.surface.shape = h.surface.shape := congrArg DataGrid.Layout.shape same
  apply DataGrid.picture_congr (by simp only [DataGrid.layout_setRowsFrom, same])
  intro r
  simp only [DataGrid.row, DataGrid.surface_mapSurface]
  apply Surface.row_congr (by simp only [Surface.shape_setRowsFrom, shape])
  exact Surface.get_setRowsFrom_congr shape full wide r

theorem picture_setRow_congr {g h : DataGrid} (same : g.layout = h.layout) {l : DataGrid.Layout}
    (layout : g.layout = l) (single : l.shape.rows = 1) {bytes : List UInt8}
    (wide : l.shape.cols ≤ bytes.length) :
    (g.setRow 0 bytes).picture = (h.setRow 0 bytes).picture := by
  refine @picture_setRowsFrom_congr g h same l layout [bytes] (Nat.le_of_eq single) ?_
  intro other member
  rwa [List.mem_singleton.mp member]

private theorem picture_putAscii_congr {g h : DataGrid} (same : g.layout = h.layout)
    (rows : g.surface.rows = asciiRows)
    (cols : g.surface.cols = asciiCols)
    (gaps : ∀ row col, Panels.asciiGap col → g.surface.get row col = h.surface.get row col) :
    (g.mapSurface c.putAscii).picture = (h.mapSurface c.putAscii).picture := by
  have shape : g.surface.shape = h.surface.shape := congrArg DataGrid.Layout.shape same
  apply DataGrid.picture_congr
  · rw [DataGrid.layout_mapSurface _ (c.shape_putAscii _),
      DataGrid.layout_mapSurface _ (c.shape_putAscii _), same]
  · intro r
    simp only [DataGrid.row, DataGrid.surface_mapSurface]
    apply Surface.row_congr (by simp only [shape_putAscii, shape])
    exact fun col => c.get_putAscii_congr shape rows cols (gaps r col)

/-- After a refresh, what is shown depends on the layout and on the trails, but on nothing else that the
panels held. -/
theorem elements_refreshPanels_congr {p q : Panels} (wf : p.WellFormed) (wf' : q.WellFormed)
    (same : p.layouts = q.layouts) :
    ((c.refreshPanels p).elements.filter fun picture => !picture.hidden) =
      ((c.refreshPanels q).withTrails p).elements.filter fun picture => !picture.hidden := by
  have layouts := wf.layouts
  simp only [Panels.layouts, Panels.grids, List.map_cons, List.map_nil, List.cons.injEq] at layouts same
  obtain ⟨memory, memoryAddr, ports, -, registers, -, dataPointer, -, control, -, status, -, stack,
    ascii, addressInput, code, -⟩ := layouts
  obtain ⟨memory', memoryAddr', ports', -, registers', -, dataPointer', -, control', -, status', -,
    stack', ascii', addressInput', code', -⟩ := same
  have unchanged : (c.refreshPanels p).memory.picture = (c.refreshPanels q).memory.picture ∧
      (c.refreshPanels p).memoryAddr.picture = (c.refreshPanels q).memoryAddr.picture ∧
      (c.refreshPanels p).stack.picture = (c.refreshPanels q).stack.picture ∧
      (c.refreshPanels p).ports.live.picture = (c.refreshPanels q).ports.live.picture ∧
      (c.refreshPanels p).registers.live.picture = (c.refreshPanels q).registers.live.picture ∧
      (c.refreshPanels p).dataPointer.live.picture = (c.refreshPanels q).dataPointer.live.picture ∧
      (c.refreshPanels p).control.live.picture = (c.refreshPanels q).control.live.picture ∧
      (c.refreshPanels p).status.live.picture = (c.refreshPanels q).status.live.picture ∧
      (c.refreshPanels p).addressInput.picture = (c.refreshPanels q).addressInput.picture ∧
      (c.refreshPanels p).code.live.picture = (c.refreshPanels q).code.live.picture := by
    refine ⟨picture_setRowsFrom_congr memory' memory ?_ ?_,
      picture_setRowsFrom_congr memoryAddr' memoryAddr ?_ ?_,
      picture_setRowsFrom_congr stack' stack ?_ ?_, picture_setRow_congr ports' ports rfl ?_,
      picture_setRow_congr registers' registers rfl ?_, picture_setRow_congr dataPointer' dataPointer rfl ?_,
      picture_setRow_congr control' control rfl ?_, picture_setRow_congr status' status rfl ?_,
      picture_setRow_congr addressInput' addressInput rfl ?_, picture_setRow_congr code' code rfl ?_⟩
    · exact Nat.le_of_eq (length_table _ _).symm
    · exact wide_table memoryCols (fun _ => c.length_viewBytes _ _) _
    · exact Nat.le_of_eq (length_table _ _).symm
    · exact wide_table 2 (fun _ => rfl) _
    · exact Nat.le_of_eq (length_table _ _).symm
    · exact wide_table 1 (fun _ => rfl) _
    · exact Nat.le_refl 7
    · exact Nat.le_refl 10
    · exact Nat.le_refl 2
    · exact Nat.le_refl 8
    · exact Nat.le_refl 8
    · exact Nat.le_of_eq c.addressBytes.length_toList.symm
    · exact Nat.le_of_eq (by rw [length_encode, codeLine, length_fit]; rfl)
  obtain ⟨memory, memoryAddr, stack, ports, registers, dataPointer, control, status, addressInput, code⟩ :=
    unchanged
  have trails (t : Panels) : (c.refreshPanels t).ports.trail = t.ports.trail ∧
      (c.refreshPanels t).registers.trail = t.registers.trail ∧
      (c.refreshPanels t).dataPointer.trail = t.dataPointer.trail ∧
      (c.refreshPanels t).control.trail = t.control.trail ∧ (c.refreshPanels t).status.trail = t.status.trail ∧
      (c.refreshPanels t).code.trail = t.code.trail := by
    simp only [refreshPanels, Tracked.trail_setRow, and_self]
  simp only [Panels.elements, Panels.withTrails, memory, memoryAddr, stack, ports, registers,
    dataPointer, control, status, addressInput, code, trails]
  have view : (c.refreshPanels p).ascii.picture = (c.refreshPanels q).ascii.picture ∨
      (c.refreshPanels p).ascii.picture.hidden = true ∧ (c.refreshPanels q).ascii.picture.hidden = true := by
    have visible : p.asciiVisible = q.asciiVisible :=
      congrArg (fun l : DataGrid.Layout => !l.shape.hidden) ascii'
    rw [c.ascii_refreshPanels p, c.ascii_refreshPanels q]
    by_cases shown : p.asciiVisible = true
    · have rows : p.ascii.surface.rows = asciiRows := congrArg (fun l : DataGrid.Layout => l.shape.rows) ascii
      have cols : p.ascii.surface.cols = asciiCols :=
        congrArg (fun l : DataGrid.Layout => l.shape.cols) ascii
      rw [if_pos shown, if_pos (visible.symm.trans shown)]
      exact .inl (c.picture_putAscii_congr ascii' rows cols fun row col gap =>
        (wf.gaps row col gap).trans (wf'.gaps row col gap).symm)
    · rw [if_neg shown, if_neg (visible ▸ shown)]
      have hidden : p.ascii.surface.hidden = true := by
        simpa only [Panels.asciiVisible, Bool.not_eq_true, Bool.not_eq_false'] using shown
      have hides : p.ascii.surface.hidden = q.ascii.surface.hidden :=
        congrArg (fun l : DataGrid.Layout => l.shape.hidden) ascii'
      exact .inr ⟨hidden, hides.symm.trans hidden⟩
  rcases view with shown | ⟨hidden, hidden'⟩
  · rw [shown]
  · simp only [List.filter_cons, hidden, hidden', Bool.not_true, Bool.false_eq_true, ↓reduceIte]

end Mcs51.Console
