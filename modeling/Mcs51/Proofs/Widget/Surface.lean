import Mcs51.Widget.Surface

/-! # Surfaces, cell by cell

Every write is described through `Surface.get`. What a write does to a cell depends on the extents of the
surface and on the cell alone, so two surfaces of one shape that receive the same writes agree wherever
they agreed before and wherever something was written.
-/

namespace Mcs51.Surface

/-- Everything about a surface but its cells and its cursor. -/
structure Shape where
  origin : Coord
  rows : Nat
  cols : Nat
  step : Coord
  hidden : Bool
deriving DecidableEq, Repr

def shape (s : Surface) : Shape :=
  ⟨s.origin, s.rows, s.cols, s.step, s.hidden⟩

variable (s : Surface)

/-! ### Shape -/

@[simp] theorem shape_set (row col : Nat) (byte : UInt8) :
    (s.set row col byte).shape = s.shape := by
  unfold set
  split <;> rfl

@[simp] theorem shape_setFrom (row col : Nat) (bytes : List UInt8) :
    (s.setFrom row col bytes).shape = s.shape := by
  induction bytes generalizing s col with
  | nil => rfl
  | cons byte rest ih => rw [setFrom, ih, shape_set]

@[simp] theorem shape_setRow (row : Nat) (bytes : List UInt8) :
    (s.setRow row bytes).shape = s.shape :=
  s.shape_setFrom row 0 bytes

@[simp] theorem shape_setRowsFrom (row : Nat) (lines : List (List UInt8)) :
    (s.setRowsFrom row lines).shape = s.shape := by
  induction lines generalizing s row with
  | nil => rfl
  | cons bytes rest ih => rw [setRowsFrom, ih, shape_setRow]

@[simp] theorem shape_moveCursor (direction : Direction) :
    (s.moveCursor direction).2.shape = s.shape := by
  unfold moveCursor
  split <;> rfl

theorem rows_eq_of_shape {s t : Surface} (same : s.shape = t.shape) : s.rows = t.rows :=
  congrArg Shape.rows same

theorem cols_eq_of_shape {s t : Surface} (same : s.shape = t.shape) : s.cols = t.cols :=
  congrArg Shape.cols same

/-! ### Cursor -/

@[simp] theorem cursor_set (row col : Nat) (byte : UInt8) : (s.set row col byte).cursor = s.cursor := by
  unfold set
  split <;> rfl

@[simp] theorem cursor_setFrom (row col : Nat) (bytes : List UInt8) :
    (s.setFrom row col bytes).cursor = s.cursor := by
  induction bytes generalizing s col with
  | nil => rfl
  | cons byte rest ih => rw [setFrom, ih, cursor_set]

@[simp] theorem cursor_setRow (row : Nat) (bytes : List UInt8) : (s.setRow row bytes).cursor = s.cursor :=
  s.cursor_setFrom row 0 bytes

@[simp] theorem cursor_setRowsFrom (row : Nat) (lines : List (List UInt8)) :
    (s.setRowsFrom row lines).cursor = s.cursor := by
  induction lines generalizing s row with
  | nil => rfl
  | cons bytes rest ih => rw [setRowsFrom, ih, cursor_setRow]

/-- Whether the cursor stands on a cell. -/
def CursorInside (s : Surface) : Prop :=
  s.cursor.row < s.rows ∧ s.cursor.col < s.cols

variable {s} in
/-- The cursor stays inside when it moves. -/
theorem CursorInside.moveCursor (inside : s.CursorInside) (direction : Direction) :
    (s.moveCursor direction).2.CursorInside := by
  obtain ⟨row, col⟩ := inside
  unfold Surface.moveCursor
  split
  · rename_i next found
    cases direction <;> simp only [neighbour?, Option.ite_none_right_eq_some, Option.some.injEq] at found <;>
      obtain ⟨room, rfl⟩ := found <;> simp only [CursorInside] <;> omega
  · exact ⟨row, col⟩

variable {s} in
theorem CursorInside.resetCursor (inside : s.CursorInside) : s.resetCursor.CursorInside :=
  ⟨Nat.zero_lt_of_lt inside.1, Nat.zero_lt_of_lt inside.2⟩

/-- A move to the right takes the cursor to the next column, or leaves it in the last one. -/
theorem cursor_moveCursor_right (inside : s.CursorInside) :
    (s.moveCursor .right).2.cursor = { s.cursor with col := min (s.cursor.col + 1) (s.cols - 1) } := by
  obtain ⟨_, col⟩ := inside
  unfold moveCursor neighbour?
  by_cases room : s.cursor.col + 1 < s.cols
  · have next : min (s.cursor.col + 1) (s.cols - 1) = s.cursor.col + 1 := by omega
    simp only [if_pos room, next]
  · have last : min (s.cursor.col + 1) (s.cols - 1) = s.cursor.col := by omega
    simp only [if_neg room, last]

/-- The screen position of the cursor depends on shape and cursor alone. -/
theorem caretPosition_eq : s.caretPosition =
    ⟨s.shape.origin.col + s.cursor.col * s.shape.step.col,
      s.shape.origin.row + s.cursor.row * s.shape.step.row⟩ := rfl

private theorem axis?_eq_some_iff {origin : Int} {index : Nat} {step place : Int} :
    axis? origin index step = some place ↔
      (Fits32 index ∧ Fits32 (index * step) ∧ Fits32 (origin + index * step)) ∧ origin + index * step = place := by
  simp only [axis?, int32?, bind, Option.bind_eq_some_iff, Option.ite_none_right_eq_some, Option.some.injEq]
  constructor
  · rintro ⟨_, ⟨cast, rfl⟩, _, ⟨product, rfl⟩, sum, rfl⟩
    exact ⟨⟨cast, product, sum⟩, rfl⟩
  · rintro ⟨⟨cast, product, sum⟩, rfl⟩
    exact ⟨_, ⟨cast, rfl⟩, _, ⟨product, rfl⟩, sum, rfl⟩

/-- 32-bit integers give a place for the cursor as long as none of them overflows, and then it is the place
without a bound. -/
theorem caretPosition?_eq_some_iff {place : Coord} :
    s.caretPosition? = some place ↔
      ((Fits32 s.cursor.col ∧ Fits32 (s.cursor.col * s.step.col) ∧
          Fits32 (s.origin.col + s.cursor.col * s.step.col)) ∧
        Fits32 s.cursor.row ∧ Fits32 (s.cursor.row * s.step.row) ∧
          Fits32 (s.origin.row + s.cursor.row * s.step.row)) ∧ s.caretPosition = place := by
  simp only [caretPosition?, bind, Option.bind_eq_some_iff, axis?_eq_some_iff, pure, Option.some.injEq]
  constructor
  · rintro ⟨_, ⟨col, rfl⟩, _, ⟨row, rfl⟩, rfl⟩
    exact ⟨⟨col, row⟩, rfl⟩
  · rintro ⟨⟨col, row⟩, rfl⟩
    exact ⟨_, ⟨col, rfl⟩, _, ⟨row, rfl⟩, rfl⟩

/-! ### Cells -/

theorem get_of_outside {row col : Nat} (outside : ¬(row < s.rows ∧ col < s.cols)) :
    s.get row col = 0 :=
  dif_neg outside

/-- Cells in different places have different indices. -/
theorem index_eq_iff {row col r c : Nat} (inside : row < s.rows ∧ col < s.cols)
    (inside' : r < s.rows ∧ c < s.cols) :
    (s.index row col inside).val = (s.index r c inside').val ↔ row = r ∧ col = c := by
  constructor
  · intro same
    simp only [index] at same
    have column (x y : Nat) (bound : y < s.cols) : (x * s.cols + y) % s.cols = y := by
      rw [Nat.mul_comm, Nat.mul_add_mod, Nat.mod_eq_of_lt bound]
    have line (x y : Nat) (bound : y < s.cols) : (x * s.cols + y) / s.cols = x := by
      rw [Nat.mul_comm, Nat.mul_add_div (by omega), Nat.div_eq_of_lt bound, Nat.add_zero]
    exact ⟨by rw [← line row col inside.2, same, line r c inside'.2],
      by rw [← column row col inside.2, same, column r c inside'.2]⟩
  · rintro ⟨rfl, rfl⟩
    rfl

theorem get_set (row col r c : Nat) (byte : UInt8) :
    (s.set row col byte).get r c =
      if (r = row ∧ c = col) ∧ r < s.rows ∧ c < s.cols then byte else s.get r c := by
  unfold set
  by_cases inside : row < s.rows ∧ col < s.cols
  · rw [dif_pos inside]
    by_cases inside' : r < s.rows ∧ c < s.cols
    · simp only [get, dif_pos inside']
      have place := s.index_eq_iff inside inside'
      simp only [Fin.getElem_fin, index] at place ⊢
      rw [Vector.getElem_set]
      by_cases here : row = r ∧ col = c
      · rw [if_pos (place.mpr here), if_pos ⟨⟨here.1.symm, here.2.symm⟩, inside'⟩]
      · rw [if_neg (fun same => here (place.mp same)),
          if_neg (fun same => here ⟨same.1.1.symm, same.1.2.symm⟩)]
    · rw [if_neg (fun all => inside' all.2)]
      simp only [get, dif_neg inside']
  · rw [dif_neg inside]
    by_cases here : (r = row ∧ c = col) ∧ r < s.rows ∧ c < s.cols
    · exact absurd (here.1.1 ▸ here.1.2 ▸ here.2) inside
    · rw [if_neg here]

theorem get_setFrom (row col r c : Nat) (bytes : List UInt8) :
    (s.setFrom row col bytes).get r c =
      if (r = row ∧ col ≤ c) ∧ r < s.rows ∧ c < s.cols then (bytes[c - col]?).getD (s.get r c)
      else s.get r c := by
  induction bytes generalizing s col with
  | nil => simp [setFrom]
  | cons byte rest ih =>
    rw [setFrom, ih, get_set, rows_eq_of_shape (s.shape_set row col byte),
      cols_eq_of_shape (s.shape_set row col byte)]
    by_cases inside : r = row ∧ r < s.rows ∧ c < s.cols
    · rcases Nat.lt_trichotomy c col with before | rfl | behind
      · rw [if_neg (by omega), if_neg (by omega), if_neg (by omega)]
      · rw [if_neg (by omega), if_pos (by omega), if_pos (by omega), Nat.sub_self]
        rfl
      · rw [if_pos (by omega), if_neg (by omega), if_pos (by omega),
          show c - col = c - (col + 1) + 1 by omega, List.getElem?_cons_succ]
    · rw [if_neg (by omega), if_neg (by omega), if_neg (by omega)]

/-- Only the bytes that fit into a row are written. -/
theorem get_setRow (row r c : Nat) (bytes : List UInt8) :
    (s.setRow row bytes).get r c =
      if r = row ∧ r < s.rows ∧ c < s.cols then bytes.getD c (s.get r c) else s.get r c := by
  rw [setRow, get_setFrom, Nat.sub_zero, List.getD_eq_getElem?_getD]
  simp only [Nat.zero_le, and_true]

theorem get_setRowsFrom (row r c : Nat) (lines : List (List UInt8)) :
    (s.setRowsFrom row lines).get r c =
      if row ≤ r ∧ r < s.rows ∧ c < s.cols then
        ((lines[r - row]?).bind fun bytes => bytes[c]?).getD (s.get r c)
      else s.get r c := by
  induction lines generalizing s row with
  | nil => simp [setRowsFrom]
  | cons bytes rest ih =>
    rw [setRowsFrom, ih, setRow, get_setFrom, rows_eq_of_shape (s.shape_setFrom row 0 bytes),
      cols_eq_of_shape (s.shape_setFrom row 0 bytes), Nat.sub_zero]
    by_cases inside : r < s.rows ∧ c < s.cols
    · rcases Nat.lt_trichotomy r row with before | rfl | behind
      · rw [if_neg (by omega), if_neg (by omega), if_neg (by omega)]
      · rw [if_neg (by omega), if_pos (by omega), if_pos (by omega), Nat.sub_self]
        rfl
      · rw [if_pos (by omega), if_neg (by omega), if_pos (by omega),
          show r - row = r - (row + 1) + 1 by omega, List.getElem?_cons_succ]
    · rw [if_neg (by omega), if_neg (by omega), if_neg (by omega)]

theorem get_of_zeroed {s : Surface} (zeroed : s.cells = Vector.replicate _ 0) (r c : Nat) :
    s.get r c = 0 := by
  unfold get
  split
  · simp only [zeroed, Fin.getElem_fin, Vector.getElem_replicate]
  · rfl

@[simp] theorem get_clear (r c : Nat) : s.clear.get r c = 0 :=
  get_of_zeroed rfl r c

/-! ### Agreement -/

/-- Surfaces of one shape that receive the same bytes agree where they agreed and where bytes went. -/
theorem get_setFrom_congr {s t : Surface} (same : s.shape = t.shape) {row col r c : Nat} {bytes : List UInt8}
    (agree : s.get r c = t.get r c ∨ r = row ∧ col ≤ c ∧ c < col + bytes.length) :
    (s.setFrom row col bytes).get r c = (t.setFrom row col bytes).get r c := by
  rw [get_setFrom, get_setFrom, ← rows_eq_of_shape same, ← cols_eq_of_shape same]
  rcases agree with agree | covered
  · rw [agree]
  · by_cases inside : r < s.rows ∧ c < s.cols
    · rw [if_pos (by omega), if_pos (by omega), List.getElem?_eq_getElem (by omega)]
      rfl
    · have inside' : ¬(r < t.rows ∧ c < t.cols) := by
        rwa [← rows_eq_of_shape same, ← cols_eq_of_shape same]
      rw [if_neg (fun all => inside all.2), if_neg (fun all => inside all.2), get_of_outside s inside,
        get_of_outside t inside']

/-- Full rows leave nothing of what was there. -/
theorem get_setRowsFrom_congr {s t : Surface} (same : s.shape = t.shape) {lines : List (List UInt8)}
    (full : s.rows ≤ lines.length) (wide : ∀ bytes ∈ lines, s.cols ≤ bytes.length) (r c : Nat) :
    (s.setRowsFrom 0 lines).get r c = (t.setRowsFrom 0 lines).get r c := by
  rw [get_setRowsFrom, get_setRowsFrom, ← rows_eq_of_shape same, ← cols_eq_of_shape same]
  by_cases inside : r < s.rows ∧ c < s.cols
  · have present : r < lines.length := by omega
    have reach := wide lines[r] (List.getElem_mem present)
    rw [if_pos ⟨Nat.zero_le r, inside⟩, if_pos ⟨Nat.zero_le r, inside⟩, Nat.sub_zero,
      List.getElem?_eq_getElem present, Option.bind_some, List.getElem?_eq_getElem (by omega)]
    rfl
  · have inside' : ¬(r < t.rows ∧ c < t.cols) := by
      rwa [← rows_eq_of_shape same, ← cols_eq_of_shape same]
    rw [if_neg (fun all => inside all.2), if_neg (fun all => inside all.2), get_of_outside s inside,
      get_of_outside t inside']

theorem row_congr {s t : Surface} (same : s.shape = t.shape) {r : Nat} (agree : ∀ c, s.get r c = t.get r c) :
    s.row r = t.row r := by
  unfold row
  rw [← rows_eq_of_shape same, ← cols_eq_of_shape same, funext agree]

/-- Surfaces of one shape with the same cursor and bytes are the same. -/
theorem ext_get {s t : Surface} (form : s.shape = t.shape) (cursor : s.cursor = t.cursor)
    (same : ∀ r c, s.get r c = t.get r c) : s = t := by
  obtain ⟨origin, rows, cols, cells, p, step, hidden⟩ := s
  obtain ⟨origin', rows', cols', cells', p', step', hidden'⟩ := t
  simp only [shape, Shape.mk.injEq] at form
  obtain ⟨rfl, rfl, rfl, rfl, rfl⟩ := form
  obtain rfl : p = p' := cursor
  congr 1
  apply Vector.ext
  intro i bound
  have column : i % cols < cols := Nat.mod_lt i (Nat.pos_of_lt_mul_left bound)
  have line : i / cols < rows := Nat.div_lt_of_lt_mul (by rwa [Nat.mul_comm])
  have cell := same (i / cols) (i % cols)
  simp only [get, index, line, column, and_self, dif_pos, Fin.getElem_fin, Nat.div_add_mod'] at cell
  exact cell

/-! ### Properties of all cells -/

/-- Whether all cells have a property. -/
def All (P : UInt8 → Prop) (s : Surface) : Prop :=
  ∀ r c, P (s.get r c)

variable {s} {P : UInt8 → Prop}

theorem All.setFrom (all : s.All P) {row col : Nat} {bytes : List UInt8} (new : ∀ byte ∈ bytes, P byte) :
    (s.setFrom row col bytes).All P := by
  intro r c
  rw [get_setFrom]
  split
  · cases found : bytes[c - col]? with
    | none => exact all r c
    | some byte => exact new byte (List.mem_of_getElem? found)
  · exact all r c

theorem All.set (all : s.All P) {row col : Nat} {byte : UInt8} (new : P byte) :
    (s.set row col byte).All P := by
  intro r c
  rw [get_set]
  split
  · exact new
  · exact all r c

theorem All.setRow (all : s.All P) {row : Nat} {bytes : List UInt8} (new : ∀ byte ∈ bytes, P byte) :
    (s.setRow row bytes).All P :=
  All.setFrom all new

theorem All.setRowsFrom (all : s.All P) {row : Nat} {lines : List (List UInt8)}
    (new : ∀ bytes ∈ lines, ∀ byte ∈ bytes, P byte) : (s.setRowsFrom row lines).All P := by
  induction lines generalizing s row with
  | nil => exact all
  | cons bytes rest ih =>
    exact ih (all.setRow (new bytes (List.mem_cons_self ..)))
      (fun other member => new other (List.mem_cons_of_mem _ member))

theorem all_of_zeroed (zeroed : s.cells = Vector.replicate _ 0) (zero : P 0) : s.All P := by
  intro r c
  rwa [get_of_zeroed zeroed]

theorem all_clear (zero : P 0) : s.clear.All P :=
  all_of_zeroed rfl zero

theorem All.of_mem_row (all : s.All P) {r : Nat} : ∀ byte ∈ s.row r, P byte := by
  intro byte member
  unfold row at member
  split at member
  · obtain ⟨c, _, rfl⟩ := List.mem_map.mp member
    exact all r c
  · contradiction

theorem length_row {r : Nat} (inside : r < s.rows) : (s.row r).length = s.cols := by
  rw [row, if_pos inside, List.length_map, List.length_range]

theorem length_allRows : s.allRows.length = s.rows := by
  rw [allRows, List.length_map, List.length_range]

theorem getElem?_allRows {r : Nat} (inside : r < s.rows) : s.allRows[r]? = some (s.row r) := by
  rw [allRows, List.getElem?_map, List.getElem?_range inside]
  rfl

/-- The byte of a row in a column. -/
theorem getElem?_row {r c : Nat} (inside : r < s.rows ∧ c < s.cols) :
    (s.row r)[c]? = some (s.get r c) := by
  rw [row, if_pos inside.1, List.getElem?_map, List.getElem?_range inside.2]
  rfl

/-- A row that is written in full holds what was written. -/
theorem row_setRowsFrom {lines : List (List UInt8)} {r : Nat} {bytes : List UInt8} (inside : r < s.rows)
    (line : lines[r]? = some bytes) (full : bytes.length = s.cols) : (s.setRowsFrom 0 lines).row r = bytes := by
  have shape := s.shape_setRowsFrom 0 lines
  have rows : r < (s.setRowsFrom 0 lines).rows := by
    rw [rows_eq_of_shape shape]
    exact inside
  apply List.ext_getElem
  · rw [length_row rows, cols_eq_of_shape shape, full]
  · intro c _ bound
    have present : c < s.cols := by rwa [← full]
    simp only [row, if_pos rows, List.getElem_map, List.getElem_range]
    rw [get_setRowsFrom, if_pos ⟨Nat.zero_le r, inside, present⟩, Nat.sub_zero, line, Option.bind_some,
      List.getElem?_eq_getElem bound, Option.getD_some]

end Mcs51.Surface
