import Mathlib.Data.List.DropRight
import Mcs51.Widget.Trail
import Mcs51.Proofs.Widget.DataGrid

/-! # History trails, row by row

A push writes every row of a trail in full, so what the rows hold afterwards depends on the rows before and on
the snapshot alone (`Trail.entries_push`). After any pushes a trail holds the last of all rows that it ever
held, and it makes no difference if the rows are moved one by one within the same cells (`Trail.keeps_last`).
-/

namespace Mcs51

/-- Rows that are written in full hold what was written, as far as there are rows. -/
theorem Surface.allRows_setRowsFrom {s : Surface} {lines : List (List UInt8)} (enough : s.rows ≤ lines.length)
    (full : ∀ bytes ∈ lines, bytes.length = s.cols) : (s.setRowsFrom 0 lines).allRows = lines.take s.rows := by
  rw [allRows, rows_eq_of_shape (s.shape_setRowsFrom 0 lines)]
  apply List.ext_getElem
  · rw [List.length_map, List.length_range, List.length_take, Nat.min_eq_left enough]
  · intro r inside _
    rw [List.length_map, List.length_range] at inside
    have present : r < lines.length := Nat.lt_of_lt_of_le inside enough
    rw [List.getElem_map, List.getElem_range, List.getElem_take]
    exact s.row_setRowsFrom inside (List.getElem?_eq_getElem present) (full _ (List.getElem_mem present))

private theorem Surface.length_of_mem_allRows {s : Surface} : ∀ bytes ∈ s.allRows, bytes.length = s.cols := by
  intro bytes member
  obtain ⟨r, inside, rfl⟩ := List.mem_map.mp member
  exact s.length_row (List.mem_range.mp inside)

/-- A zeroed surface has zeroed rows. -/
theorem Surface.allRows_clear (s : Surface) :
    s.clear.allRows = List.replicate s.rows (List.replicate s.cols 0) := by
  have zero (r : Nat) : s.clear.get r = fun _ => 0 := funext (s.get_clear r)
  have row (r : Nat) (inside : r < s.rows) : s.clear.row r = List.replicate s.cols 0 := by
    rw [Surface.row, if_pos (show r < s.clear.rows from inside), zero, List.map_const', List.length_range]
    rfl
  rw [allRows, List.eq_replicate_iff]
  constructor
  · rw [List.length_map, List.length_range]
    rfl
  · intro bytes member
    obtain ⟨r, inside, rfl⟩ := List.mem_map.mp member
    exact row r (List.mem_range.mp inside)

/-- Move the rows behind the first one up by one, the first `count` of them, each over the row before it. -/
def Surface.shiftUp (s : Surface) : Nat → Surface
  | 0 => s
  | count + 1 => (s.shiftUp count).setRow count ((s.shiftUp count).row (count + 1))

@[simp] theorem Surface.shape_shiftUp (s : Surface) (count : Nat) : (s.shiftUp count).shape = s.shape := by
  induction count with
  | zero => rfl
  | succ count ih => rw [shiftUp, shape_setRow, ih]

@[simp] theorem Surface.cursor_shiftUp (s : Surface) (count : Nat) : (s.shiftUp count).cursor = s.cursor := by
  induction count with
  | zero => rfl
  | succ count ih => rw [shiftUp, cursor_setRow, ih]

/-- Each of the rows that are moved has become the one behind it; the others are left. -/
theorem Surface.get_shiftUp {s : Surface} {count : Nat} (room : count < s.rows) (r c : Nat) :
    (s.shiftUp count).get r c = if r < count then s.get (r + 1) c else s.get r c := by
  induction count generalizing r with
  | zero => rw [if_neg (Nat.not_lt_zero r), shiftUp]
  | succ count ih =>
    have moved := ih (Nat.lt_of_succ_lt room)
    have rows := rows_eq_of_shape (s.shape_shiftUp count)
    have cols := cols_eq_of_shape (s.shape_shiftUp count)
    rw [shiftUp, get_setRow, rows, cols, moved]
    by_cases column : c < s.cols
    · by_cases last : r = count
      · -- The row behind has not been written yet.
        have source : ((s.shiftUp count).row (count + 1))[c]? = some (s.get (count + 1) c) := by
          rw [getElem?_row (by rw [rows, cols]; exact ⟨room, column⟩), moved, if_neg (by omega)]
        subst last
        rw [if_pos ⟨rfl, by omega, column⟩, if_pos (Nat.lt_succ_self r), List.getD_eq_getElem?_getD, source,
          Option.getD_some]
      · rw [if_neg (by omega)]
        simp only [show r < count ↔ r < count + 1 by omega]
    · rw [if_neg (by omega), s.get_of_outside (by omega), s.get_of_outside (by omega), ite_self, ite_self]

namespace Trail

theorem length_entries (t : Trail) : t.entries.length = t.depth :=
  t.grid.surface.length_allRows

theorem getElem?_entries {t : Trail} {index : Nat} (inside : index < t.depth) :
    t.entries[index]? = some (t.entry index) :=
  t.grid.surface.getElem?_allRows inside

theorem length_fitRow (width : Nat) (snapshot : List UInt8) : (fitRow width snapshot).length = width := by
  rw [fitRow, List.length_append, List.length_take, List.length_replicate]
  omega

/-- A snapshot of the right width is kept as it is. -/
theorem fitRow_of_length {width : Nat} {snapshot : List UInt8} (fits : snapshot.length = width) :
    fitRow width snapshot = snapshot := by
  rw [fitRow, fits, Nat.sub_self, List.replicate_zero, List.append_nil, ← fits, List.take_length]

/-- A push appends the snapshot, cut or padded to the width of the trail, and drops the oldest row. -/
theorem entries_push (t : Trail) (snapshot : List UInt8) :
    (t.push snapshot).entries = (t.entries ++ [fitRow t.grid.surface.cols snapshot]).drop 1 := by
  let row := fitRow t.grid.surface.cols snapshot
  have full : ∀ bytes ∈ t.entries.drop 1 ++ [row], bytes.length = t.grid.surface.cols := by
    intro bytes member
    rcases List.mem_append.mp member with member | member
    · exact Surface.length_of_mem_allRows bytes (List.mem_of_mem_drop member)
    · rw [List.mem_singleton.mp member]
      exact length_fitRow ..
  have length : (t.entries.drop 1 ++ [row]).length = t.depth - 1 + 1 := by
    rw [List.length_append, List.length_drop, length_entries, List.length_singleton]
  have enough : t.grid.surface.rows ≤ (t.entries.drop 1 ++ [row]).length := by
    rw [length]
    exact Nat.le_add_of_sub_le (Nat.le_refl _)
  calc (t.push snapshot).entries
    _ = (t.entries.drop 1 ++ [row]).take t.depth := Surface.allRows_setRowsFrom enough full
    _ = (t.entries ++ [row]).drop 1 := by
      -- A trail without rows drops the snapshot itself.
      rcases Nat.eq_zero_or_pos t.depth with empty | rows
      · have none : t.entries = [] := List.length_eq_zero_iff.mp (t.length_entries.trans empty)
        rw [empty, none]
        rfl
      · have least : 1 ≤ t.entries.length := by rwa [length_entries]
        rw [List.drop_append_of_le_length least, List.take_of_length_le]
        omega

/-! ### Rows moved in place -/

/-- A push that moves the rows within the cells of the trail. -/
def pushInPlace (t : Trail) (snapshot : List UInt8) : Trail :=
  t.mapSurface fun s => (s.shiftUp (s.rows - 1)).setRow (s.rows - 1) (fitRow s.cols snapshot)

/-- The rows of a surface without the first one, and a new last row. -/
theorem getElem?_shifted (s : Surface) (row : List UInt8) {r : Nat} (inside : r < s.rows) :
    (s.allRows.drop 1 ++ [row])[r]? = some (if r = s.rows - 1 then row else s.row (r + 1)) := by
  have dropped : (s.allRows.drop 1).length = s.rows - 1 := by rw [List.length_drop, s.length_allRows]
  by_cases last : r = s.rows - 1
  · rw [if_pos last, List.getElem?_append_right (by omega), dropped, last, Nat.sub_self, List.getElem?_cons_zero]
  · rw [if_neg last, List.getElem?_append_left (by omega), List.getElem?_drop, Nat.add_comm,
      s.getElem?_allRows (by omega)]

/-- Rows that are moved in place are neither smeared nor skipped. -/
theorem pushInPlace_eq_push (t : Trail) (snapshot : List UInt8) : t.pushInPlace snapshot = t.push snapshot := by
  let s := t.grid.surface
  let row := fitRow s.cols snapshot
  have surfaces : (s.shiftUp (s.rows - 1)).setRow (s.rows - 1) row = s.setRowsFrom 0 (s.allRows.drop 1 ++ [row]) := by
    apply Surface.ext_get
    · rw [Surface.shape_setRow, Surface.shape_shiftUp, Surface.shape_setRowsFrom]
    · rw [Surface.cursor_setRow, Surface.cursor_shiftUp, Surface.cursor_setRowsFrom]
    intro r c
    by_cases inside : r < s.rows ∧ c < s.cols
    · have shape := s.shape_shiftUp (s.rows - 1)
      have whole : 0 ≤ r ∧ r < s.rows ∧ c < s.cols := ⟨Nat.zero_le r, inside⟩
      rw [Surface.get_setRow, Surface.get_setRowsFrom, Surface.rows_eq_of_shape shape, Surface.cols_eq_of_shape shape,
        if_pos whole, Nat.sub_zero, getElem?_shifted s row inside.1, Option.bind_some]
      by_cases last : r = s.rows - 1
      · have full : c < row.length := by rw [length_fitRow]; exact inside.2
        rw [if_pos ⟨last, inside⟩, if_pos last, List.getD_eq_getElem?_getD, List.getElem?_eq_getElem full,
          Option.getD_some, Option.getD_some]
      · rw [if_neg (fun here => last here.1), if_neg last, Surface.get_shiftUp (by omega), if_pos (by omega),
          Surface.getElem?_row ⟨by omega, inside.2⟩, Option.getD_some]
    · rw [Surface.get_of_outside, Surface.get_of_outside]
      · rwa [Surface.rows_eq_of_shape (s.shape_setRowsFrom ..), Surface.cols_eq_of_shape (s.shape_setRowsFrom ..)]
      · have shape := ((s.shiftUp (s.rows - 1)).shape_setRow (s.rows - 1) row).trans (s.shape_shiftUp _)
        rwa [Surface.rows_eq_of_shape shape, Surface.cols_eq_of_shape shape]
  exact congrArg (fun u => (⟨{ t.grid with surface := u }⟩ : Trail)) surfaces

/-! ### Pushes in turn -/

@[simp] theorem layout_push (t : Trail) (snapshot : List UInt8) :
    (t.push snapshot).grid.layout = t.grid.layout :=
  t.grid.layout_mapSurface (f := fun s => s.setRowsFrom 0 (s.allRows.drop 1 ++ [fitRow s.cols snapshot]))
    (Surface.shape_setRowsFrom ..)

private theorem layout_foldl_push (t : Trail) (snapshots : List (List UInt8)) :
    (snapshots.foldl push t).grid.layout = t.grid.layout := by
  induction snapshots generalizing t with
  | nil => rfl
  | cons snapshot rest ih => rw [List.foldl_cons, ih, layout_push]

private theorem cursor_foldl_push (t : Trail) (snapshots : List (List UInt8)) :
    (snapshots.foldl push t).grid.surface.cursor = t.grid.surface.cursor := by
  induction snapshots generalizing t with
  | nil => rfl
  | cons snapshot rest ih => rw [List.foldl_cons, ih]; exact Surface.cursor_setRowsFrom ..

/-- Each push drops one row more of all that were there. -/
theorem entries_foldl_push (t : Trail) (snapshots : List (List UInt8)) :
    (snapshots.foldl push t).entries =
      (t.entries ++ snapshots.map (fitRow t.grid.surface.cols)).drop snapshots.length := by
  induction snapshots generalizing t with
  | nil => rw [List.foldl_nil, List.map_nil, List.append_nil, List.length_nil, List.drop_zero]
  | cons snapshot rest ih =>
    have width := Surface.cols_eq_of_shape (congrArg DataGrid.Layout.shape (t.layout_push snapshot))
    have first : 1 ≤ (t.entries ++ [fitRow t.grid.surface.cols snapshot]).length := by
      rw [List.length_append, List.length_singleton]
      exact Nat.le_add_left 1 _
    rw [List.foldl_cons, ih, entries_push, width, ← List.drop_append_of_le_length first, List.append_assoc,
      List.drop_drop, List.length_cons, Nat.add_comm]
    rfl

/-- After any pushes a trail holds the last rows of those that were there and the snapshots, each cut or padded
to the width of the trail, as many as it is deep. Nothing else about it changes, and rows that are moved in
place give the same trail. -/
theorem keeps_last (t : Trail) (snapshots : List (List UInt8)) :
    let pushed := snapshots.foldl push t
    let rows := t.entries ++ snapshots.map (fitRow t.grid.surface.cols)
    pushed.entries = rows.rtake t.depth ∧
      (∀ index < t.depth, (rows.rtake t.depth)[index]? = some (pushed.entry index)) ∧
      pushed.depth = t.depth ∧ pushed.grid.surface.cols = t.grid.surface.cols ∧
      pushed.grid.surface.cursor = t.grid.surface.cursor ∧ pushed.grid.surface.origin = t.grid.surface.origin ∧
      snapshots.foldl pushInPlace t = pushed := by
  intro pushed rows
  have shape : pushed.grid.surface.shape = t.grid.surface.shape :=
    congrArg DataGrid.Layout.shape (t.layout_foldl_push snapshots)
  have depth : pushed.depth = t.depth := Surface.rows_eq_of_shape shape
  have entries : pushed.entries = rows.rtake t.depth := by
    have dropped : rows.length - t.depth = snapshots.length := by
      rw [List.length_append, List.length_map, length_entries]
      omega
    rw [List.rtake, dropped]
    exact t.entries_foldl_push snapshots
  refine ⟨entries, ?_, depth, Surface.cols_eq_of_shape shape, t.cursor_foldl_push snapshots,
    congrArg Surface.Shape.origin shape, ?_⟩
  · intro index inside
    rw [← entries]
    exact getElem?_entries (by rwa [depth])
  · rw [funext₂ pushInPlace_eq_push]

/-- Three pushes onto two rows: the initial rows are gone, and so is the first snapshot. -/
theorem keeps_last_two :
    let t : Trail := ⟨DataGrid.new 4 7 2 2 none⟩
    let pushed := [[1, 2, 3], [], [4]].foldl push t
    (0 < t.depth ∧ 1 < t.depth) ∧ pushed.entry 0 = [0, 0] ∧ pushed.entry 1 = [4, 0] := by
  intro t pushed
  obtain ⟨_, entry, _⟩ := keeps_last t [[1, 2, 3], [], [4]]
  have first := entry 0 (by decide)
  have second := entry 1 (by decide)
  exact ⟨by decide, Option.some.inj (first.symm.trans (by decide)), Option.some.inj (second.symm.trans (by decide))⟩

end Trail

end Mcs51
