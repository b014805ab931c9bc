import Mcs51.Proofs.Widget.DataGrid
import Mcs51.Proofs.Widget.Sheet

/-! # Where the digits of a byte stand

A grid that shows hex digits without a template shows every byte in as many columns as a cursor step covers:
two digits and the separator, if there is one. So the digits of a byte stand at the place that belongs to a
cursor on that byte (`byte?_digit`). The step is fixed when a grid is made, the text is made anew from the bytes
each time: they agree whatever happens in between, as long as sizes stay in 64 bits and places in 32
(`caret_on_digits`). On the screen they do so as long as the separator is stored there; one that moves the cursor
takes all digits behind it elsewhere, and far from the origin of the screen a caret has no place
(`digit_off_caret_of_moving_separator`).
-/

namespace Mcs51

open Codepage Grid
open Surface (Fits32)

/-- In a list of pieces of one width, a place is a piece and an offset in it. -/
theorem getElem?_flatMap_of_width {α β : Type} {f : α → List β} {width : Nat} {items : List α}
    (uniform : ∀ a ∈ items, (f a).length = width) (i : Nat) {k : Nat} (inside : k < width) :
    (items.flatMap f)[width * i + k]? = items[i]?.bind fun a => (f a)[k]? := by
  induction items generalizing i with
  | nil => simp
  | cons a rest ih =>
    have first : (f a).length = width := uniform a (List.mem_cons_self ..)
    rw [List.flatMap_cons]
    cases i with
    | zero =>
      rw [Nat.mul_zero, Nat.zero_add, List.getElem?_append_left (by omega), List.getElem?_cons_zero,
        Option.bind_some]
    | succ i =>
      have later : width * (i + 1) + k = (f a).length + (width * i + k) := by
        rw [first, Nat.mul_succ]
        omega
      rw [later, List.getElem?_append_right (Nat.le_add_right _ _), Nat.add_sub_cancel_left,
        List.getElem?_cons_succ]
      exact ih (fun other member => uniform other (List.mem_cons_of_mem _ member)) i

namespace DataGrid

/-- A layout of hex digits in which a cursor step covers a byte and its separator. -/
structure Layout.ShowsDigits (l : Layout) : Prop where
  format : l.format = .hex
  template : l.template = none
  stride : l.shape.step = ⟨2 + l.separator.toList.length, 1⟩
  shown : l.shape.hidden = false

variable {g : DataGrid}

theorem getElem?_lines {r : Nat} (inside : r < g.surface.rows) : g.lines[r]? = some (g.line r) := by
  rw [lines, List.getElem?_map, List.getElem?_range inside]
  rfl

/-- The digits of a row, with their separators. -/
theorem line_of_hex (format : g.format = .hex) (template : g.template = none) (r : Nat) :
    g.line r = (g.row r).flatMap fun byte =>
      encode (Text.byteHex byte) ++ (g.separator.map encodeChar).toList := by
  simp only [line, template, format, CellFormat.render]

/-- Two digits, and the separator if there is one. -/
theorem length_digits (separator : Option Char) (byte : UInt8) :
    (encode (Text.byteHex byte) ++ (separator.map encodeChar).toList).length = 2 + separator.toList.length := by
  rw [List.length_append, length_encode, Text.length_byteHex]
  cases separator <;> rfl

theorem getElem?_line (format : g.format = .hex) (template : g.template = none) {r c : Nat}
    (inside : r < g.surface.rows ∧ c < g.surface.cols) {k : Nat} (half : k < 2) :
    (g.line r)[(2 + g.separator.toList.length) * c + k]? =
      (Text.byteDigits (g.surface.get r c))[k]?.map encodeChar := by
  rw [line_of_hex format template,
    getElem?_flatMap_of_width (fun byte _ => length_digits g.separator byte) c (by omega), DataGrid.row,
    Surface.getElem?_row inside, Option.bind_some, List.getElem?_append_left (by simpa [Text.byteHex] using half),
    encode, Text.byteHex, String.toList_ofList, List.getElem?_map]

/-- A digit is stored as it is. -/
theorem stored_hexDigit : ∀ n < 16, stored (encodeChar (Text.hexDigit n)) = encodeChar (Text.hexDigit n) := by
  decide

/-- The digits of a byte stand where the cursor of the grid is shown when it is on that byte. -/
theorem byte?_digit {a : Area} (fills : g.picture.Fills a) (digits : g.layout.ShowsDigits) {r c : Nat}
    (inside : r < g.surface.rows ∧ c < g.surface.cols) {k : Nat} (half : k < 2) :
    g.picture.byte? (a.top + r) (a.left + (2 + g.separator.toList.length) * c + k) =
      (Text.byteDigits (g.surface.get r c))[k]?.map encodeChar := by
  have shown : g.picture.hidden = false := digits.shown
  have line : g.picture.lines[r]? = some (g.line r) := getElem?_lines inside.1
  rw [fills.byte?_eq shown, if_pos (by omega), Nat.add_sub_cancel_left, line, Option.bind_some, Nat.add_assoc,
    Nat.add_sub_cancel_left, getElem?_line digits.format digits.template inside half, Option.map_map]
  have bound := (g.surface.get r c).toNat_lt
  rcases Nat.le_one_iff_eq_zero_or_eq_one.mp (Nat.le_of_lt_succ half) with rfl | rfl
  · exact congrArg some (stored_hexDigit _ (by omega))
  · exact congrArg some (stored_hexDigit _ (by omega))

/-! ### Grids in use -/

/-- Columns of a byte and its separator. -/
def stride (separator : Option Char) : Nat :=
  if separator.isSome then 3 else 2

theorem stride_eq (separator : Option Char) : stride separator = 2 + separator.toList.length := by
  cases separator <;> rfl

/-- A column is as near as its distance from the origin. -/
theorem fits32_of_stride {separator : Option Char} {c : Nat} (distance : Fits32 (c * stride separator)) :
    Fits32 c := by
  have covered : c ≤ c * stride separator :=
    Nat.le_mul_of_pos_right c (by rw [stride_eq]; exact Nat.add_pos_left Nat.two_pos _)
  obtain ⟨_, upper⟩ := distance
  rw [← Int.natCast_mul] at upper
  exact ⟨by omega, by omega⟩

/-- A change of a grid: of its surface, its format or its template. -/
inductive Change
  | surface (change : Surface.Change)
  | format (format : CellFormat)
  | template (source : String)
deriving DecidableEq, Repr

def change (g : DataGrid) : Change → DataGrid
  | .surface change => g.mapSurface (·.change change)
  | .format format => g.withFormat format
  | .template source => g.withTemplate source

def Change.surface? : Change → Option Surface.Change
  | .surface change => some change
  | .format _ | .template _ => none

/-- Sizes that 64 bits count: the cells of a grid, and three columns for each cell of a line, which are reserved
before it is written. -/
structure Counted (rows cols : Nat) : Prop where
  cells : rows * cols < UInt64.size
  line : cols * 3 < UInt64.size

/-- What no change of a grid touches. -/
structure MadeAs (g made : DataGrid) : Prop where
  shape : g.surface.shape = { made.surface.shape with hidden := g.surface.hidden }
  separator : g.separator = made.separator

variable {made : DataGrid}

theorem MadeAs.change (same : g.MadeAs made) (change : Change) : (g.change change).MadeAs made := by
  cases change with
  | surface change =>
    refine ⟨?_, same.separator⟩
    rw [DataGrid.change, surface_mapSurface, Surface.shape_change, same.shape]
  | format | template => exact ⟨same.shape, same.separator⟩

theorem MadeAs.foldl_change (same : g.MadeAs made) (changes : List Change) :
    (changes.foldl DataGrid.change g).MadeAs made := by
  induction changes generalizing g with
  | nil => exact same
  | cons change rest ih => exact ih (same.change change)

private theorem surface_foldl_change (changes : List Change) :
    (changes.foldl change g).surface = (changes.filterMap Change.surface?).foldl Surface.change g.surface := by
  induction changes generalizing g with
  | nil => rfl
  | cons change rest ih =>
    rw [List.foldl_cons, ih]
    cases change <;> rfl

/-- The bytes of a grid are found in a strip of the same extents. -/
theorem heldBy_foldl_change (row col : Int) {rows cols : Nat} (counted : Counted rows cols)
    (separator : Option Char) (changes : List Change) :
    ∃ t, (changes.filterMap Change.surface?).foldlM Strip.change (Strip.zero rows cols) = some t ∧
      (changes.foldl change (new row col rows cols separator)).surface.HeldBy t := by
  have held : (new row col rows cols separator).surface.HeldBy (Strip.zero rows cols) :=
    (Surface.heldBy_new row col counted.cells).congr rfl rfl rfl
  rw [surface_foldl_change]
  exact held.foldlM_change _

/-- The rectangle of a grid that shows hex digits. -/
theorem area_of_hex (digits : g.layout.ShowsDigits) :
    g.layout.area = ⟨g.surface.origin.row.toNat, g.surface.origin.col.toNat, g.surface.rows,
      g.surface.cols * (2 + g.separator.toList.length)⟩ := by
  simp only [Layout.area, Layout.lineWidth, digits.template, digits.format]
  rfl

/-- A hex grid inside the screen, drawn over anything, shows the digits of a byte where its cursor is shown when
it is on that byte. -/
theorem cell?_draw_digit (digits : g.layout.ShowsDigits) (top : 0 ≤ g.surface.origin.row)
    (left : 0 ≤ g.surface.origin.col) (onScreen : g.layout.area.OnScreen)
    (stored : ∀ between ∈ g.separator.toList, Plain (encodeChar between)) (session : Session) {r c : Nat}
    (inside : r < g.surface.rows ∧ c < g.surface.cols) {k : Nat} (half : k < 2) :
    (session.draw g.picture).grid.cell? (g.surface.origin.row.toNat + r)
        (g.surface.origin.col.toNat + (2 + g.separator.toList.length) * c + k) =
      (Text.byteDigits (g.surface.get r c))[k]?.map encodeChar := by
  have noPieces : ∀ template ∈ g.layout.template.toList, ∀ piece ∈ template.pieces,
      Template.Sound g.layout.shape.cols piece := by
    rw [digits.template]
    exact fun _ absent => absurd absent List.not_mem_nil
  have content : g.surface.All g.layout.Admits := by
    intro r c _
    rw [digits.format]
    trivial
  have fills := fills_area ⟨top, left, onScreen, stored, noPieces⟩ content
  have two : k < (Text.byteDigits (g.surface.get r c)).length := half
  have shown := byte?_digit fills digits inside half
  rw [area_of_hex digits] at shown
  rw [fills.cell?_draw, shown, List.getElem?_eq_getElem two, Option.map_some, Option.some_or]

/-- Whatever was done to a grid since it was made, as long as it shows hex digits without a template: the bytes of
each row are found, its line has as many columns for each byte as a cursor step covers, the first two of them with
the digits of the byte, and the caret of a cursor on the byte is where these columns begin, if 32-bit integers reach
that place. If the grid fits the screen and its separator is stored there, drawing it puts the first digit under
that caret. -/
theorem caret_on_digits (row col : Int) (rows cols : Nat) (counted : Counted rows cols) (separator : Option Char)
    (changes : List Change) :
    let g := changes.foldl change (new row col rows cols separator)
    let s := stride separator
    g.format = .hex → g.template = none → ∀ r < rows,
      (∃ t, (changes.filterMap Change.surface?).foldlM Strip.change (Strip.zero rows cols) = some t ∧
        t.row r = some (g.row r)) ∧
      ∃ text, g.lines[r]? = some text ∧ text.length = cols * s ∧ ∀ c < cols,
        let byte := g.surface.get r c
        text[c * s]? = some (encodeChar (Text.hexDigit (byte.toNat / 16))) ∧
        text[c * s + 1]? = some (encodeChar (Text.hexDigit (byte.toNat % 16))) ∧
        (g.surface.cursor = ⟨r, c⟩ → Fits32 r → Fits32 (c * s) → Fits32 (row + r) → Fits32 (col + c * s) →
          g.surface.caretPosition = ⟨col + c * s, row + r⟩ ∧
          g.surface.caretPosition? = some ⟨col + c * s, row + r⟩) ∧
        (g.surface.hidden = false → 0 ≤ row → 0 ≤ col → row + rows ≤ Grid.height → col + cols * s ≤ Grid.width →
          (∀ between ∈ separator, Plain (encodeChar between)) → ∀ session : Session,
            (session.draw g.picture).grid.cell? (row + r).toNat (col + c * s).toNat =
              some (encodeChar (Text.hexDigit (byte.toNat / 16)))) := by
  intro g s format template r inside
  have same : g.MadeAs (new row col rows cols separator) := MadeAs.foldl_change ⟨rfl, rfl⟩ changes
  have origin : g.surface.origin = ⟨col, row⟩ := congrArg Surface.Shape.origin same.shape
  have height : g.surface.rows = rows := congrArg Surface.Shape.rows same.shape
  have width : g.surface.cols = cols := congrArg Surface.Shape.cols same.shape
  have between : g.separator = separator := same.separator
  have covers : 2 + g.separator.toList.length = s := by rw [between]; exact (stride_eq separator).symm
  have step : g.surface.step = ⟨s, 1⟩ := by
    refine (congrArg Surface.Shape.step same.shape).trans ?_
    cases separator <;> rfl
  obtain ⟨t, found, held⟩ := heldBy_foldl_change row col counted separator changes
  refine ⟨⟨t, found, held.row r⟩, g.line r, getElem?_lines (by rwa [height]), ?_, ?_⟩
  · rw [length_line template (by rwa [height]) fun byte _ => by rw [format]; trivial, format, width]
    exact congrArg (cols * ·) covers
  intro c column byte
  have cell : r < g.surface.rows ∧ c < g.surface.cols := by rw [height, width]; exact ⟨inside, column⟩
  refine ⟨?_, ?_, ?_, ?_⟩
  · have first := getElem?_line format template cell (k := 0) (by decide)
    rwa [covers, Nat.mul_comm] at first
  · have second := getElem?_line format template cell (k := 1) (by decide)
    rwa [covers, Nat.mul_comm] at second
  · intro here down distance below right
    have unbounded : g.surface.caretPosition = ⟨col + c * s, row + r⟩ := by
      rw [Surface.caretPosition, here, origin, step]
      simp only [Int.mul_one]
    have place : g.surface.caretPosition? = some ⟨col + c * s, row + r⟩ := by
      rw [Surface.caretPosition?_eq_some_iff, here, origin, step]
      have across : Fits32 c := fits32_of_stride distance
      simp only [Int.mul_one]
      exact ⟨⟨⟨across, distance, right⟩, down, down, below⟩, unbounded⟩
    exact ⟨unbounded, place⟩
  · intro shown top left lower right plain session
    have digits : g.layout.ShowsDigits := ⟨format, template, step.trans (by rw [← covers]; rfl), shown⟩
    have columns : ((cols * s : Nat) : Int) = cols * s := Int.natCast_mul cols s
    have onScreen : g.layout.area.OnScreen := by
      rw [area_of_hex digits, origin, height, width, covers]
      exact ⟨by dsimp only; omega, by dsimp only; omega⟩
    have drawn := cell?_draw_digit digits (by rwa [origin]) (by rwa [origin]) onScreen
      (fun c member => plain c (by rwa [between, Option.mem_toList] at member)) session cell (k := 0) (by decide)
    have place : row.toNat + r = (row + r).toNat ∧ col.toNat + s * c + 0 = (col + c * s).toNat := by
      have distance : ((s * c : Nat) : Int) = c * s := by rw [Int.natCast_mul, Int.mul_comm]
      omega
    rwa [covers, origin, place.1, place.2] at drawn

/-- The cursor on A5h, in the middle of the second row of a grid that was shown in decimal for a while. -/
theorem caret_on_digits_spaced :
    let changes : List Change := [.format .decimal, .surface (.setRow 1 [0x00, 0xA5, 0x0F]), .surface (.move .right),
      .format .hex, .surface (.move .down)]
    let g := changes.foldl change (new 1 6 2 3 (some ' '))
    (Counted 2 3 ∧ g.format = .hex ∧ g.template = none ∧ 1 < 2 ∧ 1 < 3 ∧ g.surface.cursor = ⟨1, 1⟩ ∧
        Fits32 (1 : Nat) ∧ Fits32 ((1 : Nat) * (3 : Nat)) ∧ Fits32 (1 + (1 : Nat)) ∧
        Fits32 (6 + (1 : Nat) * (3 : Nat)) ∧ g.surface.hidden = false ∧ (0 : Int) ≤ 1 ∧ (0 : Int) ≤ 6 ∧ (1 : Int) + 2 ≤ Grid.height ∧
        (6 : Int) + 3 * 3 ≤ Grid.width ∧
        ∀ between ∈ some ' ', Plain (encodeChar between)) ∧
      (∃ t, (changes.filterMap Change.surface?).foldlM Strip.change (Strip.zero 2 3) = some t ∧
        t.row 1 = some [0x00, 0xA5, 0x0F]) ∧
      (∃ text, g.lines[1]? = some text ∧ text.length = 9 ∧ text[3]? = some 0x41 ∧ text[4]? = some 0x35) ∧
      g.surface.caretPosition = ⟨9, 2⟩ ∧ g.surface.caretPosition? = some ⟨9, 2⟩ ∧
      (Session.new.draw g.picture).grid.cell? 2 9 = some 0x41 := by
  intro changes g
  have plain : ∀ between ∈ some ' ', Plain (encodeChar between) := by
    rintro between ⟨⟩
    decide
  have counted : Counted 2 3 := ⟨by decide, by decide⟩
  obtain ⟨found, text, present, length, cells⟩ :=
    caret_on_digits 1 6 2 3 counted (some ' ') changes rfl rfl 1 (by decide)
  obtain ⟨first, second, caret, drawn⟩ := cells 1 (by decide)
  have byte : g.surface.get 1 1 = 0xA5 := by decide
  have high : encodeChar (Text.hexDigit ((0xA5 : UInt8).toNat / 16)) = 0x41 := by decide
  have low : encodeChar (Text.hexDigit ((0xA5 : UInt8).toNat % 16)) = 0x35 := by decide
  have shown := drawn rfl (by decide) (by decide) (by decide) (by decide) plain Session.new
  rw [byte, high] at first shown
  rw [byte, low] at second
  have bytes : g.row 1 = [0x00, 0xA5, 0x0F] := by decide
  rw [bytes] at found
  obtain ⟨unbounded, place⟩ := caret rfl (by decide) (by decide) (by decide) (by decide)
  exact ⟨⟨counted, rfl, rfl, by decide, by decide, rfl, by decide, by decide, by decide, by decide, rfl,
    by decide, by decide, by decide, by decide, plain⟩, found, ⟨text, present, length, first, second⟩, unbounded,
    place, shown⟩

/-- Hex dumps with a separator that moves the cursor, and their own cursor on the second byte. A line feed takes
the digits of that byte to the next row, a backspace takes them two columns back: the place of the caret stays
blank. A dump that begins in the last column that 32 bits reach has no place for that caret. -/
theorem digit_off_caret_of_moving_separator :
    let changes : List Change := [.surface (.setRow 0 [0x01, 0x02]), .surface (.move .right)]
    let fed := changes.foldl change (new 0 0 1 2 (some '\n'))
    let back := changes.foldl change (new 0 0 1 2 (some '\x08'))
    let far := changes.foldl change (new 0 0x7FFFFFFF 1 2 none)
    let digit := encodeChar (Text.hexDigit ((0x02 : UInt8).toNat / 16))
    (0 + 1 ≤ Grid.height ∧ 0 + 2 * stride (some '\n') ≤ Grid.width ∧ 0 + 2 * stride (some '\x08') ≤ Grid.width) ∧
      ((fed.format = .hex ∧ fed.template = none ∧ fed.surface.hidden = false) ∧
        fed.surface.get 0 1 = 0x02 ∧ fed.surface.cursor = ⟨0, 1⟩ ∧ fed.surface.caretPosition = ⟨3, 0⟩ ∧
        (Session.new.draw fed.picture).grid.cell? 0 3 ≠ some digit ∧
        (Session.new.draw fed.picture).grid.cell? 1 0 = some digit) ∧
      ((back.format = .hex ∧ back.template = none ∧ back.surface.hidden = false) ∧
        back.surface.get 0 1 = 0x02 ∧ back.surface.cursor = ⟨0, 1⟩ ∧ back.surface.caretPosition = ⟨3, 0⟩ ∧
        (Session.new.draw back.picture).grid.cell? 0 3 ≠ some digit ∧
        (Session.new.draw back.picture).grid.cell? 0 1 = some digit) ∧
      (far.format = .hex ∧ far.template = none) ∧ Fits32 far.surface.origin.col ∧ far.surface.cursor = ⟨0, 1⟩ ∧
        far.surface.caretPosition? = none := by
  decide +kernel

end DataGrid

end Mcs51
