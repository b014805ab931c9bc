import Mcs51.Proofs.Screen.Filling

/-! # Erasing what was typed

A backspace clears the cell before the insertion point, which is the cursor or, once the corner is taken, the end
of the screen. So it always moves the insertion point back by one (`insertionPoint_backspace`), also on the corner,
where the cursor stays. As many backspaces as bytes were put bring the cursor back and leave the cells between
empty (`backspaces_undo`), provided that the bytes moved the insertion point on by one each: on the corner, only a
byte that is not blank does.
-/

namespace Mcs51

namespace Grid

variable {g : Grid} {bytes : List UInt8}

/-! ### The insertion point -/

/-- The number of cells before the place where typing goes on: those before the cursor, or all of them once the
corner is taken. -/
def insertionPoint (g : Grid) : Nat :=
  if g.cornerTaken then size else g.cursor.val

theorem insertionPoint_of_free (free : g.cornerTaken = false) : g.insertionPoint = g.cursor.val := by
  rw [insertionPoint, free]
  rfl

theorem insertionPoint_of_taken (taken : g.cornerTaken = true) : g.insertionPoint = size := by
  rw [insertionPoint, if_pos taken]

theorem cursor_of_taken (taken : g.cornerTaken = true) : g.cursor.val = size - 1 := by
  rw [cornerTaken, Bool.and_eq_true] at taken
  exact eq_of_beq taken.1

/-- Only with the corner taken the insertion point is not the cursor. -/
theorem cursor_of_insertionPoint (short : g.insertionPoint < size) : g.cursor.val = g.insertionPoint := by
  cases taken : g.cornerTaken with
  | true =>
    rw [insertionPoint_of_taken taken] at short
    exact absurd short (Nat.lt_irrefl _)
  | false => exact (insertionPoint_of_free taken).symm

/-- On the corner, whether it is taken is up to the byte in it. -/
theorem cornerTaken_of_corner {byte : UInt8} (corner : g.cursor.val = size - 1)
    (held : g.cells[size - 1]? = some byte) : g.cornerTaken = !isBlank byte := by
  have cell : g.cells[g.cursor.val] = byte := by
    apply Option.some.inj
    rw [← held, ← corner, Vector.getElem?_eq_getElem]
  rw [cornerTaken, isFull, isOccupied, corner, beq_self_eq_true, Bool.true_and]
  exact congrArg (fun byte => !isBlank byte) cell

/-! ### Backspaces -/

/-- A backspace goes to the cell before the insertion point. -/
theorem cursor_backspace (g : Grid) : g.backspace.cursor.val = g.insertionPoint - 1 := by
  rw [backspace]
  split
  case isTrue taken =>
    rw [insertionPoint_of_taken taken]
    exact cursor_of_taken (g := g) taken
  case isFalse free =>
    rw [insertionPoint_of_free (Bool.eq_false_iff.mpr free)]
    rfl

/-- It clears that cell. -/
theorem cells_backspace (g : Grid) : g.backspace.cells = g.cells.set g.backspace.cursor 0x00 := by
  simp only [backspace]
  split <;> rfl

/-- The corner is not taken any more. -/
theorem free_backspace (g : Grid) : g.backspace.cornerTaken = false := by
  have cell : g.backspace.cells[g.backspace.cursor.val] = 0x00 := by
    simp only [cells_backspace, Vector.getElem_set_self]
  have blank : g.backspace.isOccupied = false := congrArg (fun byte => !isBlank byte) cell
  rw [cornerTaken, blank, Bool.and_false]

/-- A backspace moves the insertion point back by one. -/
theorem insertionPoint_backspace (g : Grid) : g.backspace.insertionPoint = g.insertionPoint - 1 := by
  rw [insertionPoint_of_free g.free_backspace, cursor_backspace]

private theorem put_backspace (g : Grid) : (g.put Control.backspace.byte).2 = g.backspace :=
  rfl

def erase (g : Grid) (count : Nat) : Grid :=
  g.putAll (List.replicate count Control.backspace.byte)

theorem erase_succ (g : Grid) (count : Nat) : g.erase (count + 1) = (g.erase count).backspace := by
  rw [erase, List.replicate_succ', putAll_append, putAll_singleton, put_backspace, erase]

theorem insertionPoint_erase (g : Grid) (count : Nat) :
    (g.erase count).insertionPoint = g.insertionPoint - count := by
  induction count with
  | zero => rfl
  | succ count ih =>
    rw [erase_succ, insertionPoint_backspace, ih]
    omega

/-- Backspaces clear the cells before the insertion point, one each. -/
theorem getElem?_cells_erase {count : Nat} (enough : count ≤ g.insertionPoint) (i : Nat) :
    (g.erase count).cells[i]? =
      if g.insertionPoint - count ≤ i ∧ i < g.insertionPoint then some 0x00 else g.cells[i]? := by
  induction count with
  | zero =>
    rw [if_neg (by omega)]
    rfl
  | succ count ih =>
    rw [erase_succ, cells_backspace, Vector.getElem?_set, cursor_backspace, insertionPoint_erase, ih (by omega)]
    by_cases here : g.insertionPoint - count - 1 = i
    · rw [if_pos here, if_pos (by omega)]
    · rw [if_neg here]
      by_cases cleared : g.insertionPoint - count ≤ i ∧ i < g.insertionPoint
      · rw [if_pos cleared, if_pos (by omega)]
      · rw [if_neg cleared, if_neg (by omega)]

/-! ### Typing and erasing -/

private theorem isBlank_stored (byte : UInt8) : isBlank (stored byte) = isBlank byte := by
  unfold stored
  split
  case isTrue nul =>
    rw [nul]
    rfl
  case isFalse => rfl

/-- Each of the bytes moves the insertion point on by one cell if the one on the corner is not blank, and the corner
is not taken before it is reached. -/
theorem insertionPoint_putAll (plain : ∀ byte ∈ bytes, Plain byte) (room : g.cursor.val + bytes.length ≤ size)
    (last : g.cursor.val + bytes.length = size → ∀ byte ∈ bytes.getLast?, isBlank byte = false)
    (free : g.cursor.val + bytes.length = size - 1 → isBlank g.cells[size - 1] = true) :
    (g.putAll bytes).insertionPoint = g.cursor.val + bytes.length := by
  have cursor := cursor_putAll (g := g) plain
  have corner := getElem?_cells_putAll (g := g) plain (i := size - 1) (by decide)
  have start := g.cursor.isLt
  rcases Nat.lt_trichotomy (g.cursor.val + bytes.length) (size - 1) with below | reached | beyond
  · have untaken : (g.putAll bytes).cornerTaken = false := by
      rw [Bool.eq_false_iff]
      intro taken
      have atCorner := cursor_of_taken taken
      omega
    rw [insertionPoint_of_free untaken]
    omega
  · -- The cursor has come to the corner, where it finds what was there before.
    rw [if_neg (by omega), Vector.getElem?_eq_getElem (by decide)] at corner
    have untaken := cornerTaken_of_corner (by omega) corner
    rw [free reached] at untaken
    rw [insertionPoint_of_free untaken]
    omega
  · -- The last byte was put on the corner, and the cursor stays there.
    have full : g.cursor.val + bytes.length = size := by omega
    have nonempty : bytes ≠ [] := by
      rintro rfl
      exact absurd full (Nat.ne_of_lt start)
    have isLast := List.getLast?_eq_some_getLast nonempty
    rw [if_pos (by omega), if_pos rfl, isLast, Option.map_some] at corner
    have taken := cornerTaken_of_corner (by omega) corner
    rw [isBlank_stored, last full _ isLast] at taken
    rw [insertionPoint_of_taken taken, full]

/-- As many backspaces as bytes undo them: the cursor is back, the cells that were written are empty, and all others
are as they were, across the ends of rows and on the corner. -/
theorem backspaces_undo (plain : ∀ byte ∈ bytes, Plain byte) (room : g.cursor.val + bytes.length ≤ size)
    (last : g.cursor.val + bytes.length = size → ∀ byte ∈ bytes.getLast?, isBlank byte = false)
    (free : g.cursor.val + bytes.length = size - 1 → isBlank g.cells[size - 1] = true) :
    let undone := (g.putAll bytes).erase bytes.length
    undone.cursor = g.cursor ∧
      ∀ i < size, undone.cells[i]? =
        if g.cursor.val ≤ i ∧ i < g.cursor.val + bytes.length then some 0x00 else g.cells[i]? := by
  intro undone
  have typed := insertionPoint_putAll plain room last free
  have back : undone.insertionPoint = g.cursor.val := by
    rw [insertionPoint_erase, typed, Nat.add_sub_cancel]
  have start := g.cursor.isLt
  constructor
  · apply Fin.ext
    rw [cursor_of_insertionPoint (by omega), back]
  · intro i inside
    rw [getElem?_cells_erase (by omega), typed, Nat.add_sub_cancel]
    split
    case isTrue => rfl
    case isFalse outside => rw [getElem?_cells_putAll plain inside, if_neg outside]

/-- From the end of a row on, the last row is filled up to the corner and erased again. -/
theorem backspaces_undo_lastRow :
    let g := blank.placeCaret (some 79) (some 28)
    let bytes : List UInt8 := List.replicate 80 0x79 ++ [0x7A]
    let undone := (g.putAll bytes).erase bytes.length
    (∀ byte ∈ bytes, Plain byte) ∧ g.cursor.val + bytes.length = size ∧
      (∀ byte ∈ bytes.getLast?, isBlank byte = false) ∧ undone.cursor.val = 2319 ∧
      undone.cells[2318]? = g.cells[2318]? ∧ undone.cells[2319]? = some 0x00 ∧
      undone.cells[2399]? = some 0x00 := by
  intro g bytes undone
  have start : g.cursor.val = 2319 := by decide
  have plain : ∀ byte ∈ bytes, Plain byte :=
    List.forall_mem_append.2 ⟨plain_replicate (by decide) 80, List.forall_mem_singleton.2 (by decide)⟩
  have full : g.cursor.val + bytes.length = size := by rw [start]; rfl
  have last : ∀ byte ∈ bytes.getLast?, isBlank byte = false := by
    intro byte top
    rw [List.getLast?_concat, Option.mem_some_iff] at top
    subst top
    decide
  have beyond : g.cursor.val + bytes.length ≠ size - 1 := by rw [full]; decide
  obtain ⟨cursor, cells⟩ :=
    backspaces_undo plain (Nat.le_of_eq full) (fun _ => last) (fun corner => absurd corner beyond)
  have length : bytes.length = 81 := rfl
  rw [start, length] at cells
  exact ⟨plain, full, last, by rw [cursor, start], cells 2318 (by decide), cells 2319 (by decide),
    cells 2399 (by decide)⟩

end Grid

end Mcs51
