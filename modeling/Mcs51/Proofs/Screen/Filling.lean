import Mathlib.Data.List.Induction
import Mcs51.Screen.Grid

/-! # Filling the screen

Bytes that do not move the cursor are laid out in a line: each is stored in the cell behind the one before it,
row after row, until the corner is reached. All later ones are stored on the corner, each over the one before
(`getElem?_cells_putAll`). Flushing stores one byte in every cell (`cells_flush`).
-/

namespace Mcs51

namespace Grid

/-- What a cell holds after a byte was put there: NUL is stored as a space. -/
def stored (byte : UInt8) : UInt8 :=
  if byte = Control.nul.byte then Control.space.byte else byte

/-- A byte that is stored and does not merely move the cursor. -/
def Plain (byte : UInt8) : Prop :=
  byte ≠ Control.lineFeed.byte ∧ byte ≠ Control.backspace.byte

instance (byte : UInt8) : Decidable (Plain byte) :=
  inferInstanceAs (Decidable (_ ∧ _))

variable {g : Grid} {byte : UInt8} {bytes : List UInt8}

/-! ### One byte -/

theorem put_of_plain (plain : Plain byte) : g.put byte = (g.write (stored byte)).advance := by
  simp only [put, if_neg plain.1, if_neg plain.2, stored]

@[simp] theorem cells_advance : g.advance.2.cells = g.cells := by
  unfold advance
  split <;> rfl

/-- The cursor moves on by one cell and stays on the corner. -/
theorem cursor_advance : g.advance.2.cursor.val = min (g.cursor.val + 1) (size - 1) := by
  have inside := g.cursor.isLt
  unfold advance
  split
  · dsimp only
    omega
  · dsimp only
    omega

/-- What becomes of a plain byte that is put at a position. -/
def outcomeAt (position : Nat) : PutOutcome :=
  if position = size - 1 then .full
  else if position % width = width - 1 then .wrapped
  else .advanced

private theorem outcomeAt_eq_full_iff {position : Nat} : outcomeAt position = .full ↔ position = size - 1 := by
  unfold outcomeAt
  split
  case isTrue corner => exact iff_of_true rfl corner
  case isFalse below =>
    refine iff_of_false ?_ below
    split <;> nofun

private theorem outcome_advance : g.advance.1 = outcomeAt g.cursor.val := by
  have inside := g.cursor.isLt
  by_cases corner : g.cursor.val = size - 1
  · rw [outcomeAt, if_pos corner, advance, dif_neg (by omega)]
  · have edge : (g.cursor.val + 1) % width = 0 ↔ g.cursor.val % width = width - 1 := by
      simp only [width]
      omega
    rw [outcomeAt, if_neg corner, advance, dif_pos (by omega)]
    simp only [edge]

private theorem cells_put (plain : Plain byte) :
    (g.put byte).2.cells = g.cells.set g.cursor (stored byte) g.cursor.isLt := by
  rw [put_of_plain plain, cells_advance, write]

theorem cursor_put (plain : Plain byte) :
    (g.put byte).2.cursor.val = min (g.cursor.val + 1) (size - 1) := by
  rw [put_of_plain plain]
  exact cursor_advance

theorem outcome_put (plain : Plain byte) : (g.put byte).1 = outcomeAt g.cursor.val := by
  rw [put_of_plain plain]
  exact outcome_advance

/-! ### Bytes in a row -/

theorem putAll_cons (g : Grid) (byte : UInt8) (bytes : List UInt8) :
    g.putAll (byte :: bytes) = (g.put byte).2.putAll bytes :=
  rfl

theorem putAll_append (g : Grid) (first second : List UInt8) :
    g.putAll (first ++ second) = (g.putAll first).putAll second :=
  List.foldl_append

theorem putAll_singleton (g : Grid) (byte : UInt8) : g.putAll [byte] = (g.put byte).2 :=
  rfl

/-- Plain bytes move the cursor on, one cell each, as far as the corner. -/
theorem cursor_putAll (plain : ∀ byte ∈ bytes, Plain byte) :
    (g.putAll bytes).cursor.val = min (g.cursor.val + bytes.length) (size - 1) := by
  induction bytes generalizing g with
  | nil =>
    have inside := g.cursor.isLt
    change g.cursor.val = min g.cursor.val (size - 1)
    omega
  | cons byte rest ih =>
    obtain ⟨here, later⟩ := List.forall_mem_cons.mp plain
    rw [putAll_cons, ih later, cursor_put here, List.length_cons]
    omega

/-- Plain bytes fill the cells from the cursor on; the corner keeps the last one. -/
theorem getElem?_cells_putAll (plain : ∀ byte ∈ bytes, Plain byte) {i : Nat} (inside : i < size) :
    (g.putAll bytes).cells[i]? =
      if g.cursor.val ≤ i ∧ i < g.cursor.val + bytes.length then
        (if i = size - 1 then bytes.getLast? else bytes[i - g.cursor.val]?).map stored
      else g.cells[i]? := by
  induction bytes using List.reverseRecOn with
  | nil =>
    rw [if_neg (by simp only [List.length_nil]; omega)]
    rfl
  | append_singleton bytes byte ih =>
    have earlier : ∀ other ∈ bytes, Plain other := fun other member => plain other (List.mem_append_left _ member)
    have last : Plain byte := plain byte (List.mem_append_right _ (List.mem_singleton_self _))
    have bound := g.cursor.isLt
    change (g.putAll (bytes ++ [byte])).cells[i]? = _
    rw [putAll_append, putAll_singleton, cells_put last, Vector.getElem?_set, cursor_putAll earlier,
      ih earlier, List.length_append, List.length_singleton, List.getLast?_concat]
    by_cases here : min (g.cursor.val + bytes.length) (size - 1) = i
    · have covered : g.cursor.val ≤ i ∧ i < g.cursor.val + (bytes.length + 1) := by omega
      have shown : (if i = size - 1 then some byte else (bytes ++ [byte])[i - g.cursor.val]?) = some byte := by
        split
        · rfl
        · rw [show i - g.cursor.val = bytes.length by omega, List.getElem?_concat_length]
      rw [if_pos here, if_pos covered, shown, Option.map_some]
    · rw [if_neg here]
      by_cases covered : g.cursor.val ≤ i ∧ i < g.cursor.val + bytes.length
      · have below : i ≠ size - 1 := by omega
        have covered' : g.cursor.val ≤ i ∧ i < g.cursor.val + (bytes.length + 1) := by omega
        rw [if_pos covered, if_pos covered', if_neg below, if_neg below, List.getElem?_append_left (by omega)]
      · rw [if_neg covered, if_neg (by omega)]

theorem plain_replicate {fill : UInt8} (plain : Plain fill) (count : Nat) :
    ∀ byte ∈ List.replicate count fill, Plain byte := by
  intro byte member
  rwa [List.eq_of_mem_replicate member]

/-- The same byte over and over fills the cells from the cursor on. -/
theorem getElem?_cells_putAll_replicate {fill : UInt8} (plain : Plain fill) (count : Nat) {i : Nat}
    (inside : i < size) :
    (g.putAll (List.replicate count fill)).cells[i]? =
      if g.cursor.val ≤ i ∧ i < g.cursor.val + count then some (stored fill) else g.cells[i]? := by
  rw [getElem?_cells_putAll (plain_replicate plain count) inside, List.length_replicate]
  by_cases covered : g.cursor.val ≤ i ∧ i < g.cursor.val + count
  · have nonzero : count ≠ 0 := by omega
    have behind : i - g.cursor.val < count := by omega
    rw [if_pos covered, if_pos covered, List.getLast?_replicate, if_neg nonzero, List.getElem?_replicate,
      if_pos behind, ite_self, Option.map_some]
  · rw [if_neg covered, if_neg covered]

/-! ### Flushing -/

/-- Filling stops behind a byte that was put on the corner. -/
theorem fillFrom_succ (fill : UInt8) (g : Grid) (count : Nat) :
    fillFrom fill g (count + 1) =
      if (g.put fill).1 = .full then (g.put fill).2 else fillFrom fill (g.put fill).2 count := by
  rw [fillFrom]
  split
  case h_1 next put => rw [put, if_pos rfl]
  case h_2 outcome next other put => rw [put, if_neg other]

/-- As long as there are cells, filling puts one byte for each. -/
theorem fillFrom_eq_putAll {fill : UInt8} (plain : Plain fill) {count : Nat}
    (room : g.cursor.val + count ≤ size) : fillFrom fill g count = g.putAll (List.replicate count fill) := by
  induction count generalizing g with
  | zero => rfl
  | succ count ih =>
    have cursor := cursor_put (g := g) plain
    rw [List.replicate_succ, putAll_cons, fillFrom_succ, outcome_put plain]
    split
    case isTrue full =>
      -- The corner is the last of the cells, so nothing is left to be put.
      have corner := outcomeAt_eq_full_iff.mp full
      obtain rfl : count = 0 := by omega
      rfl
    case isFalse => exact ih (by omega)

/-- Flushing stores one byte in every cell, whatever was there. -/
theorem cells_flush {fill : UInt8} (plain : Plain fill) (g : Grid) :
    (g.flush fill).cells = Vector.replicate size (stored fill) := by
  have cells_home (g : Grid) : g.home.cells = g.cells := rfl
  have start : g.home.cursor.val = 0 := rfl
  rw [flush, cells_home, fillFrom_eq_putAll plain (by omega)]
  apply Vector.ext
  intro i inside
  apply Option.some.inj
  rw [← Vector.getElem?_eq_getElem, getElem?_cells_putAll_replicate plain size inside, start, if_pos (by omega),
    Vector.getElem_replicate]

/-! ### The layout as a whole -/

/-- Plain bytes are laid out in a line from the cursor on and stop at the corner, which keeps the last one that
reaches it. Each put tells by its outcome where it was made. A flush with a plain byte leaves that byte in all
cells and the cursor on the first of them, whatever the screen was. -/
theorem bytes_laid_out (g : Grid) :
    (∀ bytes : List UInt8, (∀ byte ∈ bytes, Plain byte) →
      let p := g.cursor.val
      let n := bytes.length
      let filled := g.putAll bytes
      filled.cursor.val = min (p + n) (size - 1) ∧
        (∀ k (inside : k < n), p + k < size - 1 → filled.cells[p + k]? = some (stored bytes[k])) ∧
        (size ≤ p + n → filled.cells[size - 1]? = bytes.getLast?.map stored) ∧
        (∀ i, i < p ∨ p + n ≤ i → filled.cells[i]? = g.cells[i]?) ∧
        ∀ j (inside : j < n),
          ((g.putAll (bytes.take j)).put bytes[j]).1 = outcomeAt (min (p + j) (size - 1))) ∧
    ∀ fill, Plain fill →
      (g.flush fill).cells = Vector.replicate size (stored fill) ∧ (g.flush fill).cursor.val = 0 := by
  refine ⟨?_, fun fill plain => ⟨cells_flush plain g, rfl⟩⟩
  intro bytes plain p n filled
  refine ⟨cursor_putAll plain, ?_, ?_, ?_, ?_⟩
  · intro k inside below
    have covered : p ≤ p + k ∧ p + k < p + n := by omega
    rw [getElem?_cells_putAll plain (by omega), if_pos covered, if_neg (Nat.ne_of_lt below),
      Nat.add_sub_cancel_left, List.getElem?_eq_getElem inside, Option.map_some]
  · intro reached
    have start := g.cursor.isLt
    have covered : p ≤ size - 1 ∧ size - 1 < p + n := by omega
    rw [getElem?_cells_putAll plain (by decide), if_pos covered, if_pos rfl]
  · intro i outside
    by_cases inside : i < size
    · rw [getElem?_cells_putAll plain inside, if_neg (by omega)]
    · rw [Vector.getElem?_eq_none (by omega), Vector.getElem?_eq_none (by omega)]
  · intro j inside
    have earlier : ∀ byte ∈ bytes.take j, Plain byte := fun byte member => plain byte (List.mem_of_mem_take member)
    rw [outcome_put (plain _ (List.getElem_mem inside)), cursor_putAll earlier, List.length_take,
      Nat.min_eq_left (Nat.le_of_lt inside)]

/-- The last two bytes go to the corner, one over the other. A flush with NUL leaves spaces. -/
theorem bytes_laid_out_corner :
    let g := blank.placeCaret (some 78) (some 29)
    let bytes : List UInt8 := [0x41, 0x00, 0x42]
    let filled := g.putAll bytes
    (∀ byte ∈ bytes, Plain byte) ∧ Plain 0x00 ∧
      filled.cursor.val = 2399 ∧ filled.cells[2398]? = some 0x41 ∧ filled.cells[2399]? = some 0x42 ∧
      filled.cells[2397]? = g.cells[2397]? ∧ ((g.putAll [0x41]).put 0x00).1 = .full ∧
      (filled.flush 0x00).cells = Vector.replicate size 0x20 := by
  intro g bytes filled
  have plain : ∀ byte ∈ bytes, Plain byte := by
    simp only [bytes, List.forall_mem_cons, List.not_mem_nil, false_implies, implies_true]
    decide
  obtain ⟨cursor, line, corner, frame, outcome⟩ := (bytes_laid_out g).1 bytes plain
  have flushed := (bytes_laid_out filled).2 0x00 (by decide)
  have start : g.cursor.val = 2398 := by decide
  refine ⟨plain, by decide, ?_, ?_, ?_, frame 2397 (by omega), ?_, flushed.1⟩
  · exact cursor
  · exact line 0 (by decide) (by decide)
  · exact corner (by decide)
  · exact outcome 1 (by decide)

end Grid

end Mcs51
