import Mcs51.Proofs.Widget.Surface

/-! # Surfaces as sheets

A sheet is the plain picture of a surface: a matrix of bytes and a cursor whose axes are cut off at the edges.
A strip is how a surface is kept in memory: its cells in one sequence, reached by row and column as an index that
has to be there, with counts and indices that are 64 bits wide. Main statement: after any changes a surface shows
what the sheet shows, and the strip never misses an index, as long as 64 bits count its cells (`refines_sheet`).
-/

namespace Mcs51

inductive Surface.Change
  | set (row col : Nat) (byte : UInt8)
  | setRow (row : Nat) (bytes : List UInt8)
  | clear
  | move (direction : Direction)
  | resetCursor
  | setHidden (hidden : Bool)
deriving DecidableEq, Repr

namespace Surface

/-- Whether a change is about the bytes. -/
def Change.writes : Change → Bool
  | set .. | setRow .. | clear => true
  | move _ | resetCursor | setHidden _ => false

/-- Whether a change is about the cursor. -/
def Change.moves : Change → Bool
  | move _ | resetCursor => true
  | set .. | setRow .. | clear | setHidden _ => false

def change (s : Surface) : Change → Surface
  | .set row col byte => s.set row col byte
  | .setRow row bytes => s.setRow row bytes
  | .clear => s.clear
  | .move direction => (s.moveCursor direction).2
  | .resetCursor => s.resetCursor
  | .setHidden hidden => s.setHidden hidden

end Surface

/-! ### Sheets -/

/-- A matrix of bytes with a cursor. -/
structure Sheet (rows cols : Nat) where
  bytes : Fin rows → Fin cols → UInt8
  cursor : CellPos

namespace Sheet

variable {rows cols : Nat}

def zero (rows cols : Nat) : Sheet rows cols :=
  ⟨fun _ _ => 0, ⟨0, 0⟩⟩

/-- A byte; 0 outside the sheet. -/
def get (m : Sheet rows cols) (r c : Nat) : UInt8 :=
  if inside : r < rows ∧ c < cols then m.bytes ⟨r, inside.1⟩ ⟨c, inside.2⟩ else 0

/-- The bytes of a row; none outside the sheet. -/
def row (m : Sheet rows cols) (r : Nat) : List UInt8 :=
  if inside : r < rows then List.ofFn (m.bytes ⟨r, inside⟩) else []

/-- The neighbour of a cell, or the cell itself at the edge. -/
def neighbour (rows cols : Nat) (p : CellPos) : Direction → CellPos
  | .left => { p with col := p.col - 1 }
  | .right => { p with col := min (p.col + 1) (cols - 1) }
  | .up => { p with row := p.row - 1 }
  | .down => { p with row := min (p.row + 1) (rows - 1) }

theorem get_of_outside {m : Sheet rows cols} {r c : Nat} (outside : ¬(r < rows ∧ c < cols)) : m.get r c = 0 :=
  dif_neg outside

/-- Change a sheet: of what is written, only the part inside counts. -/
def change (m : Sheet rows cols) : Surface.Change → Sheet rows cols
  | .set row col byte => { m with bytes := fun r c => if r = row ∧ c = col then byte else m.bytes r c }
  | .setRow row bytes => { m with bytes := fun r c => if r = row then bytes.getD c (m.bytes r c) else m.bytes r c }
  | .clear => { m with bytes := fun _ _ => 0 }
  | .move direction => { m with cursor := neighbour rows cols m.cursor direction }
  | .resetCursor => { m with cursor := ⟨0, 0⟩ }
  | .setHidden _ => m

end Sheet

/-! ### Strips -/

/-- The cells of a surface in one sequence, row after row, with counts and indices of 64 bits. Where a result is
optional, it is missing if an index has no cell. -/
structure Strip where
  rows : Nat
  cols : Nat
  cells : List UInt8
deriving DecidableEq, Repr

namespace Strip

/-- A count or an index as 64 bits hold it. -/
def word (n : Nat) : Nat :=
  n % UInt64.size

/-- A strip of zeros, as many as 64 bits count. -/
def zero (rows cols : Nat) : Strip :=
  ⟨rows, cols, List.replicate (word (rows * cols)) 0⟩

/-- The cell of a row and column; 0 outside the extents. -/
def get (t : Strip) (row col : Nat) : Option UInt8 :=
  if row < t.rows ∧ col < t.cols then t.cells[word (row * t.cols + col)]? else some 0

/-- As many cells from an index on, all of which have to be there. -/
def slice (t : Strip) (start count : Nat) : Option (List UInt8) :=
  let stop := word (start + count)
  if start ≤ stop ∧ stop ≤ t.cells.length then some ((t.cells.take stop).drop start) else none

/-- The cells of a row; empty outside the extents. -/
def row (t : Strip) (row : Nat) : Option (List UInt8) :=
  if row < t.rows then t.slice (word (row * t.cols)) t.cols else some []

/-- Write the cells from an index on, all of which have to be there. -/
def splice (t : Strip) (start : Nat) (bytes : List UInt8) : Option Strip :=
  let stop := word (start + bytes.length)
  if start ≤ stop ∧ stop ≤ t.cells.length then
    some { t with cells := t.cells.take start ++ bytes ++ t.cells.drop stop }
  else none

/-- Change a strip. Cursor and visibility lie outside of it. -/
def change (t : Strip) : Surface.Change → Option Strip
  | .set row col byte =>
    if row < t.rows ∧ col < t.cols then t.splice (word (row * t.cols + col)) [byte] else some t
  | .setRow row bytes => if row < t.rows then t.splice (word (row * t.cols)) (bytes.take t.cols) else some t
  | .clear => some { t with cells := t.cells.map fun _ => 0 }
  | .move _ | .resetCursor | .setHidden _ => some t

theorem word_of_lt {n : Nat} (counted : n < UInt64.size) : word n = n :=
  Nat.mod_eq_of_lt counted

private theorem slice_of_le {t : Strip} {start count : Nat} (counted : start + count < UInt64.size)
    (inside : start + count ≤ t.cells.length) : t.slice start count = some ((t.cells.drop start).take count) := by
  simp only [slice, word_of_lt counted]
  rw [if_pos ⟨Nat.le_add_right .., inside⟩, List.drop_take, Nat.add_sub_cancel_left]

private theorem splice_of_le {t : Strip} {start : Nat} {bytes : List UInt8}
    (counted : start + bytes.length < UInt64.size)
    (inside : start + bytes.length ≤ t.cells.length) :
    t.splice start bytes =
      some { t with cells := t.cells.take start ++ bytes ++ t.cells.drop (start + bytes.length) } := by
  simp only [splice, word_of_lt counted]
  exact if_pos ⟨Nat.le_add_right .., inside⟩

end Strip

namespace Surface

variable {s : Surface}

/-! ### Changes -/

/-- Of the shape of a surface only its visibility can be changed. -/
theorem shape_change (change : Change) :
    (s.change change).shape = { s.shape with hidden := (s.change change).hidden } := by
  have of_shape {t : Surface} (same : t.shape = s.shape) : t.shape = { s.shape with hidden := t.hidden } := by
    rw [show t.hidden = s.hidden from congrArg Shape.hidden same]
    exact same
  cases change with
  | set row col byte => exact of_shape (s.shape_set row col byte)
  | setRow row bytes => exact of_shape (s.shape_setRow row bytes)
  | move direction => exact of_shape (s.shape_moveCursor direction)
  | clear | resetCursor | setHidden => rfl

theorem extents_change (change : Change) : (s.change change).rows = s.rows ∧ (s.change change).cols = s.cols :=
  ⟨congrArg Shape.rows (shape_change change), congrArg Shape.cols (shape_change change)⟩

/-- A change that is not about the cursor leaves it where it is. -/
theorem cursor_change {change : Change} (still : change.moves = false) : (s.change change).cursor = s.cursor := by
  cases change with
  | set row col byte => exact s.cursor_set row col byte
  | setRow row bytes => exact s.cursor_setRow row bytes
  | clear | setHidden => rfl
  | move | resetCursor => contradiction

private theorem get_moveCursor (direction : Direction) : (s.moveCursor direction).2.get = s.get := by
  unfold moveCursor
  split <;> rfl

/-- A change that is not about the bytes leaves them as they are. -/
theorem get_change {change : Change} (silent : change.writes = false) : (s.change change).get = s.get := by
  cases change with
  | move direction => exact get_moveCursor direction
  | resetCursor | setHidden => rfl
  | set | setRow | clear => contradiction

/-! ### The cursor -/

/-- Whether each axis of the cursor is at most the last one, or 0 where there is none. -/
def CursorBounded (s : Surface) : Prop :=
  s.cursor.row ≤ s.rows - 1 ∧ s.cursor.col ≤ s.cols - 1

/-- A move is refused where the neighbour, cut off at the edge, is the cursor itself. -/
theorem neighbour?_eq (bounded : s.CursorBounded) (direction : Direction) :
    s.neighbour? direction =
      if Sheet.neighbour s.rows s.cols s.cursor direction = s.cursor then none
      else some (Sheet.neighbour s.rows s.cols s.cursor direction) := by
  have step {room : Prop} [Decidable room] {next cut here : CellPos} (free : room → cut = next ∧ next ≠ here)
      (edge : ¬room → cut = here) :
      (if room then some next else none) = if cut = here then none else some cut := by
    by_cases inside : room
    · obtain ⟨rfl, other⟩ := free inside
      rw [if_pos inside, if_neg other]
    · rw [if_neg inside, if_pos (edge inside)]
  obtain ⟨row, col⟩ := bounded
  unfold neighbour? Sheet.neighbour
  generalize s.cursor = p at row col ⊢
  obtain ⟨r, c⟩ := p
  dsimp only at row col
  cases direction with
  | left | up | right | down =>
    apply step <;> intro room <;>
      simp only [ne_eq, CellPos.mk.injEq, true_and, and_true] at room ⊢ <;> omega

/-- A move takes the cursor to its neighbour, and meets the boundary where that is the cursor itself. -/
theorem moveCursor_spec (bounded : s.CursorBounded) (direction : Direction) :
    (s.moveCursor direction).2.cursor = Sheet.neighbour s.rows s.cols s.cursor direction ∧
      ((s.moveCursor direction).1 = .boundary ↔ (s.moveCursor direction).2.cursor = s.cursor) := by
  unfold moveCursor
  rw [neighbour?_eq bounded]
  by_cases edge : Sheet.neighbour s.rows s.cols s.cursor direction = s.cursor
  · rw [if_pos edge]
    exact ⟨edge.symm, iff_of_true rfl rfl⟩
  · rw [if_neg edge]
    exact ⟨rfl, iff_of_false nofun edge⟩

private theorem cursorBounded_change (bounded : s.CursorBounded) (change : Change) :
    (s.change change).CursorBounded := by
  obtain ⟨rows, cols⟩ := extents_change change
  unfold CursorBounded
  rw [rows, cols]
  cases moving : change.moves with
  | false => rwa [cursor_change moving]
  | true =>
    cases change with
    | move direction =>
      obtain ⟨row, col⟩ := bounded
      rw [Surface.change, (moveCursor_spec ⟨row, col⟩ direction).1]
      cases direction <;> simp only [Sheet.neighbour] <;> omega
    | resetCursor => exact ⟨Nat.zero_le _, Nat.zero_le _⟩
    | set | setRow | clear | setHidden => contradiction

/-! ### Surface and sheet -/

/-- A surface that shows a sheet. -/
structure Shows {rows cols : Nat} (s : Surface) (m : Sheet rows cols) : Prop where
  rows : s.rows = rows
  cols : s.cols = cols
  get : s.get = m.get
  cursor : s.cursor = m.cursor
  bounded : s.CursorBounded

variable {rows cols : Nat} {m : Sheet rows cols}

theorem Shows.row (shows : s.Shows m) (r : Nat) : s.row r = m.row r := by
  unfold Surface.row Sheet.row
  rw [shows.rows, shows.cols, shows.get]
  by_cases inside : r < rows
  · rw [if_pos inside, dif_pos inside]
    apply List.ext_getElem
    · rw [List.length_map, List.length_range, List.length_ofFn]
    · intro c _ bound
      rw [List.length_ofFn] at bound
      rw [List.getElem_map, List.getElem_range, List.getElem_ofFn, Sheet.get, dif_pos ⟨inside, bound⟩]
  · rw [if_neg inside, dif_neg inside]

/-- A change of a surface is the change of the sheet that it shows. -/
theorem Shows.change (shows : s.Shows m) (change : Change) : (s.change change).Shows (m.change change) where
  rows := (extents_change change).1.trans shows.rows
  cols := (extents_change change).2.trans shows.cols
  bounded := cursorBounded_change shows.bounded change
  cursor := by
    cases change with
    | move direction =>
      rw [Surface.change, (moveCursor_spec shows.bounded direction).1, shows.rows, shows.cols, shows.cursor]
      rfl
    | resetCursor => rfl
    | set | setRow | clear | setHidden => exact (cursor_change rfl).trans shows.cursor
  get := by
    funext r c
    by_cases inside : r < rows ∧ c < cols
    · cases change with
      | set row col byte =>
        rw [Surface.change, get_set, shows.rows, shows.cols, shows.get]
        simp only [Sheet.get, Sheet.change, dif_pos inside, and_iff_left inside]
      | setRow row bytes =>
        rw [Surface.change, get_setRow, shows.rows, shows.cols, shows.get]
        simp only [Sheet.get, Sheet.change, dif_pos inside, and_iff_left inside]
      | clear =>
        rw [Surface.change, get_clear, Sheet.get, dif_pos inside]
        rfl
      | move | resetCursor | setHidden =>
        rw [get_change rfl, shows.get]
        rfl
    · obtain ⟨height, width⟩ := extents_change change
      rw [Sheet.get_of_outside inside, get_of_outside]
      rwa [height, width, shows.rows, shows.cols]

/-- Changes in turn. -/
theorem Shows.foldl_change (shows : s.Shows m) (changes : List Change) :
    (changes.foldl Surface.change s).Shows (changes.foldl Sheet.change m) := by
  induction changes generalizing s m with
  | nil => exact shows
  | cons change rest ih => exact ih (shows.change change)

/-! ### Surface and strip -/

/-- A strip that holds the cells of a surface, all of them counted by 64 bits. -/
structure HeldBy (s : Surface) (t : Strip) : Prop where
  counted : s.rows * s.cols < UInt64.size
  rows : t.rows = s.rows
  cols : t.cols = s.cols
  length : t.cells.length = s.rows * s.cols
  cell : ∀ r < s.rows, ∀ c < s.cols, t.cells[r * s.cols + c]? = some (s.get r c)

variable {t : Strip}

/-- What a strip holds depends on extents and bytes alone. -/
theorem HeldBy.congr (held : s.HeldBy t) {u : Surface} (rows : u.rows = s.rows) (cols : u.cols = s.cols)
    (get : u.get = s.get) : u.HeldBy t where
  counted := by
    rw [rows, cols]
    exact held.counted
  rows := held.rows.trans rows.symm
  cols := held.cols.trans cols.symm
  length := by rw [held.length, rows, cols]
  cell := by
    rw [rows, cols, get]
    exact held.cell

/-- A part of a row lies in the strip. -/
theorem part_le {row col count : Nat} (inside : row < rows) (fits : col + count ≤ cols) :
    row * cols + col + count ≤ rows * cols := by
  have below := Nat.mul_le_mul_right cols inside
  rw [Nat.succ_mul] at below
  omega

/-- The cells of a part of a row are those of its row and its columns. -/
theorem part_iff {row col count r c : Nat} (fits : col + count ≤ cols) (column : c < cols) :
    row * cols + col ≤ r * cols + c ∧ r * cols + c < row * cols + col + count ↔
      r = row ∧ col ≤ c ∧ c < col + count := by
  rcases Nat.lt_trichotomy r row with above | rfl | behind
  · have apart := Nat.mul_le_mul_right cols above
    rw [Nat.succ_mul] at apart
    omega
  · omega
  · have apart := Nat.mul_le_mul_right cols behind
    rw [Nat.succ_mul] at apart
    omega

/-- Where a row ends, no index has wrapped. -/
theorem HeldBy.counted_part (held : s.HeldBy t) {row col count : Nat} (inside : row < s.rows)
    (fits : col + count ≤ s.cols) : row * s.cols + col + count < UInt64.size :=
  Nat.lt_of_le_of_lt (part_le inside fits) held.counted

theorem HeldBy.get (held : s.HeldBy t) (r c : Nat) : t.get r c = some (s.get r c) := by
  rw [Strip.get, held.rows, held.cols]
  by_cases inside : r < s.rows ∧ c < s.cols
  · have column : c + 0 ≤ s.cols := Nat.le_of_lt inside.2
    have counted : r * s.cols + c < UInt64.size := held.counted_part inside.1 column
    rw [if_pos inside, Strip.word_of_lt counted, held.cell r inside.1 c inside.2]
  · rw [if_neg inside, s.get_of_outside inside]

theorem HeldBy.row (held : s.HeldBy t) (r : Nat) : t.row r = some (s.row r) := by
  rw [Strip.row, Surface.row, held.rows, held.cols]
  by_cases inside : r < s.rows
  · have all : 0 + s.cols ≤ s.cols := Nat.le_of_eq (Nat.zero_add _)
    have whole : r * s.cols + s.cols ≤ t.cells.length := by
      rw [held.length]
      exact part_le inside all
    have counted : r * s.cols + s.cols < UInt64.size := held.counted_part inside all
    rw [if_pos inside, if_pos inside, Strip.word_of_lt (Nat.lt_of_le_of_lt (Nat.le_add_right ..) counted),
      Strip.slice_of_le counted whole]
    congr 1
    apply List.ext_getElem?
    intro c
    rw [List.getElem?_take, List.getElem?_map]
    by_cases column : c < s.cols
    · rw [if_pos column, List.getElem?_drop, held.cell r inside c column, List.getElem?_range column, Option.map_some]
    · rw [if_neg column, List.getElem?_eq_none (by rw [List.length_range]; omega), Option.map_none]
  · rw [if_neg inside, if_neg inside]

/-- Bytes written over the middle of a sequence. -/
theorem getElem?_overwritten {cells bytes : List UInt8} {start : Nat} (room : start + bytes.length ≤ cells.length)
    (i : Nat) :
    (cells.take start ++ bytes ++ cells.drop (start + bytes.length))[i]? =
      if start ≤ i ∧ i < start + bytes.length then bytes[i - start]? else cells[i]? := by
  have before : (cells.take start).length = start := by
    rw [List.length_take]
    omega
  rcases Nat.lt_or_ge i start with above | reached
  · rw [if_neg (by omega), List.append_assoc, List.getElem?_append_left (by omega), List.getElem?_take, if_pos above]
  · rcases Nat.lt_or_ge i (start + bytes.length) with covered | behind
    · rw [if_pos ⟨reached, covered⟩, List.append_assoc, List.getElem?_append_right (by omega), before,
        List.getElem?_append_left (by omega)]
    · rw [if_neg (by omega), List.getElem?_append_right (by rw [List.length_append]; omega), List.length_append,
        before, List.getElem?_drop, show start + bytes.length + (i - (start + bytes.length)) = i by omega]

/-- Bytes written within a row all have a cell. -/
theorem HeldBy.splice (held : s.HeldBy t) {row col : Nat} {bytes : List UInt8} (inside : row < s.rows)
    (fits : col + bytes.length ≤ s.cols) :
    ∃ next, t.splice (Strip.word (row * s.cols + col)) bytes = some next ∧
      (s.setFrom row col bytes).HeldBy next := by
  have counted := held.counted_part inside fits
  have start : Strip.word (row * s.cols + col) = row * s.cols + col :=
    Strip.word_of_lt (Nat.lt_of_le_of_lt (Nat.le_add_right ..) counted)
  have room : row * s.cols + col + bytes.length ≤ t.cells.length := by
    rw [held.length]
    exact part_le inside fits
  have shape := s.shape_setFrom row col bytes
  have rows := rows_eq_of_shape shape
  have cols := cols_eq_of_shape shape
  rw [start]
  refine ⟨_, Strip.splice_of_le counted room, ?_, held.rows.trans rows.symm, held.cols.trans cols.symm, ?_, ?_⟩
  · rw [rows, cols]
    exact held.counted
  · rw [rows, cols, ← held.length]
    simp only [List.length_append, List.length_take, List.length_drop]
    omega
  · intro r line c column
    rw [rows] at line
    rw [cols] at column ⊢
    rw [getElem?_overwritten room, get_setFrom, held.cell r line c column]
    simp only [part_iff fits column, line, column, and_true]
    by_cases covered : r = row ∧ col ≤ c ∧ c < col + bytes.length
    · obtain ⟨rfl, reached, before⟩ := covered
      rw [if_pos ⟨rfl, reached, before⟩, if_pos ⟨rfl, reached⟩,
        show r * s.cols + c - (r * s.cols + col) = c - col by omega, List.getElem?_eq_getElem (by omega)]
      rfl
    · rw [if_neg covered]
      by_cases right : r = row ∧ col ≤ c
      · rw [if_pos right, List.getElem?_eq_none (by omega), Option.getD_none]
      · rw [if_neg right]

/-- Bytes behind the end of a row are not written. -/
theorem get_setRow_take (row : Nat) (bytes : List UInt8) :
    (s.setRow row (bytes.take s.cols)).get = (s.setRow row bytes).get := by
  funext r c
  rw [get_setRow, get_setRow]
  by_cases inside : r = row ∧ r < s.rows ∧ c < s.cols
  · rw [if_pos inside, if_pos inside, List.getD_eq_getElem?_getD, List.getElem?_take, if_pos inside.2.2,
      List.getD_eq_getElem?_getD]
  · rw [if_neg inside, if_neg inside]

/-- A surface without a row is not changed there. -/
theorem setRow_of_outside {row : Nat} (outside : ¬row < s.rows) (bytes : List UInt8) :
    (s.setRow row bytes).get = s.get := by
  funext r c
  rw [get_setRow, if_neg (by rintro ⟨rfl, inside, _⟩; exact outside inside)]

/-- A change finds all its cells. -/
theorem HeldBy.change (held : s.HeldBy t) (change : Change) :
    ∃ next, t.change change = some next ∧ (s.change change).HeldBy next := by
  obtain ⟨rows, cols⟩ := extents_change change
  cases change with
  | set row col byte =>
    rw [Strip.change, held.rows, held.cols]
    by_cases inside : row < s.rows ∧ col < s.cols
    · rw [if_pos inside]
      have fits : col + [byte].length ≤ s.cols := inside.2
      exact held.splice inside.1 fits
    · rw [if_neg inside]
      refine ⟨t, rfl, ?_⟩
      rwa [Surface.change, Surface.set, dif_neg inside]
  | setRow row bytes =>
    rw [Strip.change, held.rows, held.cols]
    by_cases inside : row < s.rows
    · have fits : 0 + (bytes.take s.cols).length ≤ s.cols := by
        rw [Nat.zero_add]
        exact List.length_take_le ..
      rw [if_pos inside]
      obtain ⟨next, written, holds⟩ := held.splice inside fits
      refine ⟨next, written, holds.congr ?_ ?_ (get_setRow_take row bytes).symm⟩
      · exact rows.trans (rows_eq_of_shape (s.shape_setFrom ..)).symm
      · exact cols.trans (cols_eq_of_shape (s.shape_setFrom ..)).symm
    · rw [if_neg inside]
      exact ⟨t, rfl, held.congr rows cols (setRow_of_outside inside bytes)⟩
  | clear =>
    refine ⟨_, rfl, held.counted, held.rows, held.cols, ?_, ?_⟩
    · rw [List.length_map, held.length]
      rfl
    · intro r line c column
      have cell := held.cell r line c column
      rw [List.getElem?_map, Surface.change, get_clear]
      exact congrArg (Option.map fun _ => 0) cell
  | move | resetCursor | setHidden => exact ⟨t, rfl, held.congr rows cols (get_change rfl)⟩

theorem heldBy_new (top left : Int) {rows cols : Nat} (counted : rows * cols < UInt64.size) :
    (new top left rows cols).HeldBy (Strip.zero rows cols) where
  counted := counted
  rows := rfl
  cols := rfl
  length := List.length_replicate.trans (Strip.word_of_lt counted)
  cell := by
    intro r line c column
    have fits : c + 1 ≤ cols := column
    have place : r * cols + c < rows * cols := part_le line fits
    rw [get_of_zeroed rfl, Strip.zero, Strip.word_of_lt counted]
    exact (List.getElem?_replicate ..).trans (if_pos place)

/-- Changes in turn. -/
theorem HeldBy.foldlM_change (held : s.HeldBy t) (changes : List Change) :
    ∃ last, changes.foldlM Strip.change t = some last ∧ (changes.foldl Surface.change s).HeldBy last := by
  induction changes generalizing s t with
  | nil => exact ⟨t, rfl, held⟩
  | cons change rest ih =>
    obtain ⟨next, changed, holds⟩ := held.change change
    rw [List.foldlM_cons, changed]
    exact ih holds

end Surface

end Mcs51
