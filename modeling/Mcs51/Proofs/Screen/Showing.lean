import Mathlib.Data.List.Sort
import Mcs51.Proofs.Screen.Filling
import Mcs51.Proofs.Text.Lines
import Mcs51.Proofs.Text.Plain

/-! # The screen as text

A glyph of the code page tells its byte, up to NUL, which looks like a space (`encodeChar_decode`). The text of the
screen is therefore a picture of its cells: it falls into the rows of the screen, and the glyphs of a row say what
its cells hold and where the cursor is drawn (`text_shows_cells`).
-/

namespace Mcs51

namespace Codepage

/-! ### Glyphs and bytes -/

theorem mem_glyphs (byte : UInt8) : decode byte ∈ glyphs.toList :=
  Array.mem_toList_iff.mpr (Array.getElem_mem (index byte).isLt)

private theorem val_index (byte : UInt8) : (index byte).val = byte.toNat := by
  rw [index]

theorem getElem?_glyphs (byte : UInt8) : glyphs.toList[byte.toNat]? = some (decode byte) := by
  rw [Array.getElem?_toList, ← val_index, Array.getElem?_eq_getElem (index byte).isLt, decode, Fin.getElem_fin]

private theorem nodup_glyphs : (glyphs.toList.drop 1).Nodup := by
  have ascending : ((glyphs.toList.drop 1).insertionSort (· ≤ ·)).IsChain (· < ·) := by decide +kernel
  have distinct : ((glyphs.toList.drop 1).insertionSort (· ≤ ·)).Nodup := by
    refine (List.isChain_iff_pairwise.mp ascending).imp ?_
    intro first second below
    exact Char.ne_of_lt below
  exact (List.perm_insertionSort _ _).nodup_iff.mp distinct

private theorem decode_injective {a b : UInt8} (left : a ≠ 0) (right : b ≠ 0) (same : decode a = decode b) : a = b := by
  have behind {c : UInt8} (known : c ≠ 0) : 1 + (c.toNat - 1) = c.toNat := by
    have positive : c.toNat ≠ 0 := fun zero => known (UInt8.toNat_inj.mp zero)
    omega
  have tail {c : UInt8} (known : c ≠ 0) : (glyphs.toList.drop 1)[c.toNat - 1]? = some (decode c) := by
    rw [List.getElem?_drop, behind known, getElem?_glyphs]
  have inside := (List.getElem?_eq_some_iff.mp (tail left)).1
  have position : a.toNat - 1 = b.toNat - 1 := by
    apply (List.getElem?_inj inside nodup_glyphs).mp
    rw [tail left, tail right, same]
  apply UInt8.toNat_inj.mp
  rw [← behind left, ← behind right, position]

/-- A glyph that is an ASCII character stands for the byte of that character, and so does the blank of NUL. -/
theorem toNat_decode {byte : UInt8} (low : (decode byte).toNat < 0x80) :
    (decode byte).toNat = (Grid.stored byte).toNat := by
  have each : ∀ entry ∈ glyphs.toList.zipIdx, entry.1.toNat < 0x80 →
      entry.1.toNat = (Grid.stored (UInt8.ofNat entry.2)).toNat := by decide +kernel
  have member : (decode byte, byte.toNat) ∈ glyphs.toList.zipIdx := by
    rw [List.mem_zipIdx_iff_getElem?, getElem?_glyphs]
  have here := each _ member low
  rwa [UInt8.ofNat_toNat] at here

/-- A glyph is encoded as the byte it stands for; the blank stands for a space. -/
theorem encodeChar_decode (byte : UInt8) : encodeChar (decode byte) = Grid.stored byte := by
  by_cases low : (decode byte).toNat < 0x80
  · rw [encodeChar, if_pos low, toNat_decode low, UInt8.ofNat_toNat]
  · have known : byte ≠ Control.nul.byte := by
      rintro rfl
      exact low (by decide)
    have here : glyphs[byte.toNat]? = some (decode byte) := by
      rw [← Array.getElem?_toList, getElem?_glyphs]
    obtain ⟨inside, shown⟩ := Array.getElem?_eq_some_iff.mp here
    have found : glyphs.findIdx? (· == decode byte) = some byte.toNat := by
      refine Array.findIdx?_eq_some_iff_getElem.mpr ⟨inside, beq_iff_eq.mpr shown, ?_⟩
      -- An earlier byte with this glyph would be the same byte.
      intro j before same
      have small : j < 256 := by
        have bound := byte.toNat_lt
        omega
      have value : (UInt8.ofNat j).toNat = j := UInt8.toNat_ofNat_of_lt' small
      have twin : decode (UInt8.ofNat j) = decode byte := by
        have there := getElem?_glyphs (UInt8.ofNat j)
        rw [value, Array.getElem?_toList, Array.getElem?_eq_getElem (Nat.lt_trans before inside)] at there
        exact (Option.some.inj there).symm.trans (beq_iff_eq.mp same)
      have other : UInt8.ofNat j ≠ 0 := by
        intro zero
        rw [zero] at twin
        exact low (twin ▸ by decide)
      have equal := decode_injective other known twin
      rw [← equal, value] at before
      exact Nat.lt_irrefl j before
    rw [encodeChar, if_neg low, found, Option.elim_some, UInt8.ofNat_toNat, Grid.stored, if_neg known]

/-- No glyph ends a line, not even the one of the line feed. -/
theorem decode_ne_feed (byte : UInt8) : decode byte ≠ '\n' ∧ decode byte ≠ '\r' := by
  have absent : '\n' ∉ glyphs.toList ∧ '\r' ∉ glyphs.toList := by decide +kernel
  exact ⟨ne_of_mem_of_not_mem (mem_glyphs byte) absent.1, ne_of_mem_of_not_mem (mem_glyphs byte) absent.2⟩

end Codepage

namespace Grid

open Codepage

variable {g : Grid}

/-! ### Rows -/

/-- The byte whose glyph is shown at a position. -/
def shown (g : Grid) (position : Nat) : UInt8 :=
  if g.showsCursor position then cursorGlyph else (g.cells[position]?).getD 0

def glyphRow (g : Grid) (row : Nat) : List Char :=
  (List.range width).map fun col => decode (g.shown (row * width + col))

theorem glyphRows_eq (g : Grid) : g.glyphRows = (List.range height).map g.glyphRow :=
  rfl

private theorem length_glyphRow (g : Grid) (row : Nat) : (g.glyphRow row).length = width := by
  rw [glyphRow, List.length_map, List.length_range]

theorem glyphRow_unbroken (g : Grid) (row : Nat) : '\n' ∉ g.glyphRow row ∧ '\r' ∉ g.glyphRow row := by
  constructor
  · intro member
    obtain ⟨col, _, feed⟩ := List.mem_map.mp member
    exact (decode_ne_feed _).1 feed
  · intro member
    obtain ⟨col, _, ret⟩ := List.mem_map.mp member
    exact (decode_ne_feed _).2 ret

/-- The lines of the text are the rows of the screen. -/
theorem lines_text (g : Grid) : Text.lines g.text = g.glyphRows := by
  apply Text.lines_flatMap_feed
  rw [glyphRows_eq]
  intro row member
  obtain ⟨r, _, rfl⟩ := List.mem_map.mp member
  exact g.glyphRow_unbroken r

/-- The cells of a row, one by one. -/
theorem row?_eq (g : Grid) (row : Fin height) :
    g.row? row = some ((List.range width).map fun col => (g.cells[row * width + col]?).getD 0) := by
  have inside := row.isLt
  rw [row?, if_pos inside]
  congr 1
  apply List.ext_getElem?
  intro col
  rw [List.getElem?_take, List.getElem?_drop, Vector.getElem?_toList, List.getElem?_map]
  split
  case isTrue short =>
    have present : row * width + col < size := by
      simp only [size, height, width] at *
      omega
    rw [List.getElem?_range short, Option.map_some, Vector.getElem?_eq_getElem present]
    rfl
  case isFalse long =>
    rw [List.getElem?_eq_none (by rw [List.length_range]; omega)]
    rfl

/-- Whether the cursor is drawn in a row: it is visible, stands there, and not on a taken corner. -/
def DrawsCursorIn (g : Grid) (row : Fin height) : Prop :=
  g.cursorVisible = true ∧ g.row = row ∧ g.cornerTaken = false

instance (g : Grid) (row : Fin height) : Decidable (g.DrawsCursorIn row) :=
  inferInstanceAs (Decidable (_ ∧ _))

/-- The cursor is drawn over one cell of its row. -/
theorem showsCursor_iff {row : Fin height} {col : Nat} (inside : col < width) :
    g.showsCursor (row * width + col) = true ↔ g.DrawsCursorIn row ∧ g.col.val = col := by
  have position : row * width + col = g.cursor.val ↔ g.row = row ∧ g.col.val = col := by
    rw [Fin.ext_iff, Grid.row, Grid.col]
    simp only [width] at *
    omega
  rw [showsCursor, Bool.and_eq_true, Bool.and_eq_true, beq_iff_eq, position, Bool.not_eq_true', DrawsCursorIn]
  constructor
  · rintro ⟨⟨visible, row, col⟩, free⟩
    exact ⟨⟨visible, row, free⟩, col⟩
  · rintro ⟨⟨visible, row, free⟩, col⟩
    exact ⟨⟨visible, row, col⟩, free⟩

/-- What is shown of a row: its cells, with NUL as a space, and the cursor over one of them if it is drawn there. -/
theorem map_stored_shown {row : Fin height} {cells : List UInt8} (held : g.row? row = some cells) :
    ((List.range width).map fun col => stored (g.shown (row * width + col))) =
      if g.DrawsCursorIn row then (cells.map stored).set g.col cursorGlyph else cells.map stored := by
  rw [row?_eq] at held
  obtain rfl := Option.some.inj held
  have column := g.col.isLt
  apply List.ext_getElem
  · split <;> simp only [List.length_map, List.length_set]
  · intro col inside _
    rw [List.length_map, List.length_range] at inside
    have cursor := @showsCursor_iff g row col inside
    by_cases drawn : g.DrawsCursorIn row
    · simp only [if_pos drawn, List.getElem_set, List.getElem_map, List.getElem_range]
      by_cases here : g.col.val = col
      · rw [if_pos here, shown, if_pos (cursor.mpr ⟨drawn, here⟩)]
        rfl
      · rw [if_neg here, shown, if_neg fun draws => here (cursor.mp draws).2]
    · simp only [if_neg drawn, List.getElem_map, List.getElem_range]
      rw [shown, if_neg fun draws => drawn (cursor.mp draws).1]

/-- The screen as text has a line for every row, of eighty glyphs that are no line feeds, each followed by a line
feed. Encoding a row gives back its cells, with NUL as a space and the cursor's glyph in place of the cell under the
cursor, if the cursor is visible and not on a taken corner. -/
theorem text_shows_cells (g : Grid) :
    (g.text = g.rows.flatMap fun row => row.toList ++ ['\n']) ∧
      (Text.lines g.text).map String.ofList = g.rows ∧ g.rows.length = height ∧
      ∀ r : Fin height, ∃ row cells, g.rows[r.val]? = some row ∧ g.row? r = some cells ∧
        row.length = width ∧ '\n' ∉ row.toList ∧
        encode row =
          if g.cursorVisible = true ∧ g.row = r ∧ g.cornerTaken = false then
            (cells.map stored).set g.col cursorGlyph
          else cells.map stored := by
  refine ⟨?_, ?_, ?_, fun r => ?_⟩
  · rw [text, rows, List.flatMap_map]
    simp only [String.toList_ofList]
  · rw [lines_text, rows]
  · rw [rows, glyphRows_eq, List.length_map, List.length_map, List.length_range]
  · have row : g.rows[r.val]? = some (String.ofList (g.glyphRow r)) := by
      rw [rows, glyphRows_eq, List.getElem?_map, List.getElem?_map, List.getElem?_range r.isLt]
      rfl
    refine ⟨_, _, row, g.row?_eq r, ?_, ?_, ?_⟩
    · rw [String.length_ofList, length_glyphRow]
    · rw [String.toList_ofList]
      exact (g.glyphRow_unbroken r).1
    · rw [encode, String.toList_ofList, glyphRow, List.map_map]
      calc _ = (List.range width).map fun col => stored (g.shown (r * width + col)) := by
            apply List.map_congr_left
            intro col _
            exact encodeChar_decode _
        _ = _ := map_stored_shown (g.row?_eq r)

end Grid

end Mcs51
