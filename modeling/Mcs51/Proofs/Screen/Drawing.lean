import Mcs51.Proofs.Screen.Filling
import Mcs51.Widget.Picture

/-! # Drawing, cell by cell

The screen is read through `Grid.cell?`, and a picture through `Picture.byte?`, the byte that it leaves in
a cell. A picture inside the screen that holds no byte that moves the cursor changes the cells of its lines
only (`Fits.cell?_draw`), and nothing of the session but the grid (`Session.draw_paints`). If its lines have one
width, it fills a rectangle of the screen (`Picture.Fills`). Of several such pictures the last one that covers a
cell decides (`AllFill.cell?_draw`).
-/

namespace Mcs51

/-! ### Bytes -/

namespace Grid

variable {g : Grid} {bytes : List UInt8}

/-- Plain bytes fill the cells from the cursor on, as far as there are cells. -/
theorem cells_putAll (plain : ∀ byte ∈ bytes, Plain byte) (room : g.cursor.val + bytes.length ≤ size)
    (i : Nat) :
    (g.putAll bytes).cells[i]? =
      if g.cursor.val ≤ i ∧ i < g.cursor.val + bytes.length then
        bytes[i - g.cursor.val]?.map stored
      else g.cells[i]? := by
  by_cases inside : i < size
  · rw [getElem?_cells_putAll plain inside]
    by_cases covered : g.cursor.val ≤ i ∧ i < g.cursor.val + bytes.length
    · -- The corner is reached by the last byte, if at all.
      have last (corner : i = size - 1) : bytes.getLast? = bytes[i - g.cursor.val]? := by
        rw [List.getLast?_eq_getElem?, show bytes.length - 1 = i - g.cursor.val by omega]
      rw [if_pos covered, if_pos covered]
      split
      case isTrue corner => rw [last corner]
      case isFalse => rfl
    · rw [if_neg covered, if_neg covered]
  · rw [Vector.getElem?_eq_none (by omega), Vector.getElem?_eq_none (by omega), if_neg (by omega)]

theorem cursor_placeCaret (g : Grid) {top left : Nat} (inside : top < height ∧ left < width) :
    (g.placeCaret (some left) (some top)).cursor.val = top * width + left := by
  simp only [height, width] at inside
  simp only [placeCaret, position, Option.elim_some, clamp, height, width]
  omega

/-- Bytes drawn within a row change the cells below them only. -/
theorem cell?_putAll_placeCaret {top left : Nat} (plain : ∀ byte ∈ bytes, Plain byte) (inside : top < height)
    (room : left + bytes.length ≤ width) (row col : Nat) :
    ((g.placeCaret (some left) (some top)).putAll bytes).cell? row col =
      if row = top ∧ left ≤ col ∧ col < left + bytes.length then bytes[col - left]?.map stored
      else g.cell? row col := by
  simp only [height, width] at inside room
  cases bytes with
  | nil =>
    rw [if_neg (by simp only [List.length_nil]; omega)]
    rfl
  | cons byte rest =>
    have cursor : (g.placeCaret (some left) (some top)).cursor.val = top * width + left := by
      simp only [List.length_cons] at room
      exact g.cursor_placeCaret ⟨inside, show left < 80 by omega⟩
    unfold cell?
    by_cases onScreen : row < height ∧ col < width
    · rw [if_pos onScreen, if_pos onScreen,
        cells_putAll plain (by rw [cursor]; simp only [size, height, width]; omega), cursor]
      simp only [height, width] at onScreen ⊢
      by_cases below : row = top ∧ left ≤ col ∧ col < left + (byte :: rest).length
      · rw [if_pos below, if_pos (by omega), below.1,
          show top * 80 + col - (top * 80 + left) = col - left by omega]
      · rw [if_neg below, if_neg (by omega)]
        rfl
    · rw [if_neg onScreen, if_neg onScreen, if_neg (by simp only [height, width] at onScreen; omega)]

/-- A cursor that is placed inside the screen stands there. -/
theorem place_placeCaret (g : Grid) {row col : Nat} (inside : row < height ∧ col < width) :
    (g.placeCaret (some col) (some row)).row.val = row ∧ (g.placeCaret (some col) (some row)).col.val = col := by
  have cursor := g.cursor_placeCaret inside
  simp only [height, width] at inside
  simp only [Grid.row, Grid.col, cursor, width]
  omega

/-- Two grids that show the same bytes have the same cells. -/
theorem cells_eq_of_cell? {g h : Grid}
    (same : ∀ row < height, ∀ col < width, g.cell? row col = h.cell? row col) :
    g.cells = h.cells := by
  apply Vector.ext
  intro i bound
  have onScreen : i / width < height ∧ i % width < width := by
    simp only [size, height, width] at bound ⊢
    omega
  have cell := same _ onScreen.1 _ onScreen.2
  have split : i / width * width + i % width = i := Nat.div_add_mod' i width
  rw [cell?, cell?, if_pos onScreen, if_pos onScreen, split, Vector.getElem?_eq_getElem bound,
    Vector.getElem?_eq_getElem bound] at cell
  exact Option.some.inj cell

/-! ### Blank screens -/

/-- The byte of an empty cell. -/
def blankByte : UInt8 :=
  Control.space.byte

theorem cell?_congr {g h : Grid} (same : g.cells = h.cells) (row col : Nat) :
    g.cell? row col = h.cell? row col := by
  rw [cell?, cell?, same]

theorem cells_lineFeed (g : Grid) : g.lineFeed.cells = g.cells := by
  unfold lineFeed
  split <;> rfl

theorem cell?_of_blank {g : Grid} (blank : g.cells = Vector.replicate size blankByte) {row col : Nat}
    (inside : row < height ∧ col < width) : g.cell? row col = some blankByte := by
  have bound : row * width + col < size := (position ⟨row, inside.1⟩ ⟨col, inside.2⟩).isLt
  rw [cell?, if_pos inside, blank, Vector.getElem?_eq_getElem bound, Vector.getElem_replicate]

end Grid

/-! ### Rectangles -/

/-- A rectangle of cells. -/
structure Area where
  top : Nat
  left : Nat
  height : Nat
  width : Nat
deriving DecidableEq, Repr

namespace Area

def Has (a : Area) (row col : Nat) : Prop :=
  (a.top ≤ row ∧ row < a.top + a.height) ∧ a.left ≤ col ∧ col < a.left + a.width

instance (a : Area) (row col : Nat) : Decidable (a.Has row col) :=
  inferInstanceAs (Decidable (_ ∧ _))

def OnScreen (a : Area) : Prop :=
  a.top + a.height ≤ Grid.height ∧ a.left + a.width ≤ Grid.width

instance (a : Area) : Decidable a.OnScreen :=
  inferInstanceAs (Decidable (_ ∧ _))

/-- Whether the rectangle lies inside another one. -/
def Within (a b : Area) : Prop :=
  (b.top ≤ a.top ∧ a.top + a.height ≤ b.top + b.height) ∧
  b.left ≤ a.left ∧ a.left + a.width ≤ b.left + b.width

instance (a b : Area) : Decidable (a.Within b) :=
  inferInstanceAs (Decidable (_ ∧ _))

/-- Whether two rectangles are separated by a horizontal or a vertical line. -/
def Apart (a b : Area) : Prop :=
  (a.top + a.height ≤ b.top ∨ b.top + b.height ≤ a.top) ∨
  a.left + a.width ≤ b.left ∨ b.left + b.width ≤ a.left

instance (a b : Area) : Decidable (a.Apart b) :=
  inferInstanceAs (Decidable (_ ∨ _))

theorem Has.mono {a b : Area} {row col : Nat} (has : a.Has row col) (within : a.Within b) :
    b.Has row col := by
  simp only [Has, Within] at *
  omega

theorem Has.not_of_apart {a b : Area} {row col : Nat} (has : a.Has row col) (apart : a.Apart b) :
    ¬b.Has row col := by
  simp only [Has, Apart] at *
  omega

theorem Apart.symm {a b : Area} (apart : a.Apart b) : b.Apart a := by
  simp only [Apart] at *
  omega

end Area

/-! ### Pictures -/

namespace Picture

/-- The byte that a picture leaves in a cell of the screen; none where it draws nothing. -/
def byte? (p : Picture) (row col : Nat) : Option UInt8 :=
  if p.hidden then none
  else if p.origin.row ≤ row ∧ p.origin.col ≤ col then
    (p.lines[(row - p.origin.row).toNat]?).bind fun bytes =>
      (bytes[(col - p.origin.col).toNat]?).map Grid.stored
  else none

/-- A picture that fills a rectangle of the screen with plain bytes. -/
structure Fills (p : Picture) (a : Area) : Prop where
  origin : p.origin = ⟨a.left, a.top⟩
  height : p.lines.length = a.height
  width : ∀ line ∈ p.lines, line.length = a.width
  plain : ∀ line ∈ p.lines, ∀ byte ∈ line, Grid.Plain byte
  onScreen : a.OnScreen

variable {p : Picture} {a : Area} {row col : Nat}

theorem byte?_of_hidden (hidden : p.hidden = true) : p.byte? row col = none := by
  rw [byte?, if_pos hidden]

/-- A cell of a rectangle, in lines and columns counted from its corner. -/
theorem Fills.byte?_eq (fills : p.Fills a) (shown : p.hidden = false) :
    p.byte? row col =
      if a.top ≤ row ∧ a.left ≤ col then
        (p.lines[row - a.top]?).bind fun bytes => (bytes[col - a.left]?).map Grid.stored
      else none := by
  rw [byte?, if_neg (by simp only [shown, Bool.false_eq_true, not_false_eq_true]), fills.origin]
  simp only [Int.ofNat_le, Int.toNat_sub]

theorem Fills.isSome_byte? (fills : p.Fills a) (shown : p.hidden = false) :
    (p.byte? row col).isSome ↔ a.Has row col := by
  rw [fills.byte?_eq shown, Area.Has]
  by_cases corner : a.top ≤ row ∧ a.left ≤ col
  · rw [if_pos corner]
    cases found : p.lines[row - a.top]? with
    | none =>
      rw [List.getElem?_eq_none_iff, fills.height] at found
      simp only [Option.bind_none, Option.isSome_none, Bool.false_eq_true, false_iff]
      omega
    | some line =>
      have inside := (List.getElem?_eq_some_iff.mp found).1
      have width := fills.width line (List.mem_of_getElem? found)
      rw [fills.height] at inside
      simp only [Option.bind_some, Option.isSome_map, isSome_getElem?, width]
      omega
  · rw [if_neg corner]
    simp only [Option.isSome_none, Bool.false_eq_true, false_iff]
    omega

/-- Every byte that a picture leaves in a cell comes from one of its lines. -/
theorem exists_of_byte? {shown : UInt8} (found : p.byte? row col = some shown) :
    ∃ line ∈ p.lines, ∃ byte ∈ line, Grid.stored byte = shown := by
  unfold byte? at found
  split at found
  · contradiction
  · split at found
    · obtain ⟨line, present, found⟩ := Option.bind_eq_some_iff.mp found
      obtain ⟨byte, inside, rfl⟩ := Option.map_eq_some_iff.mp found
      exact ⟨line, List.mem_of_getElem? present, byte, List.mem_of_getElem? inside, rfl⟩
    · contradiction

/-- Lines below each other, as drawn by `Session.drawLines`. -/
theorem cell?_drawLines {top left : Nat} {lines : List (List UInt8)} (s : Session)
    (plain : ∀ line ∈ lines, ∀ byte ∈ line, Grid.Plain byte) (inside : top + lines.length ≤ Grid.height)
    (room : ∀ line ∈ lines, left + line.length ≤ Grid.width) (row col : Nat) :
    (s.drawLines left top lines).grid.cell? row col =
      ((if top ≤ row ∧ left ≤ col then
        (lines[row - top]?).bind fun bytes => (bytes[col - left]?).map Grid.stored
      else none).or (s.grid.cell? row col)) := by
  induction lines generalizing top s with
  | nil => simp [Session.drawLines]
  | cons line rest ih =>
    simp only [List.length_cons] at inside
    have below := @ih (top + 1) (((s.placeCaret (some left) (some top)).writeBytes line))
      (fun other member => plain other (List.mem_cons_of_mem _ member)) (by omega)
      (fun other member => room other (List.mem_cons_of_mem _ member))
    have here := Grid.cell?_putAll_placeCaret (g := s.grid) (plain line (List.mem_cons_self ..))
      (by omega : top < Grid.height) (room line (List.mem_cons_self ..)) row col
    simp only [Session.drawLines]
    rw [show ((top : Int) + 1) = ((top + 1 : Nat) : Int) from rfl, below]
    simp only [Session.writeBytes, Session.placeCaret]
    rw [here]
    by_cases right : left ≤ col
    · rcases Nat.lt_trichotomy row top with above | rfl | behind
      · rw [if_neg (by omega), if_neg (by omega), if_neg (by omega)]
      · rw [if_neg (by omega), Option.none_or, Nat.sub_self, List.getElem?_cons_zero, Option.bind_some]
        by_cases covered : col < left + line.length
        · rw [if_pos ⟨rfl, right, covered⟩, if_pos ⟨Nat.le_refl _, right⟩,
            List.getElem?_eq_getElem (by omega)]
          rfl
        · rw [if_neg (by omega), if_pos ⟨Nat.le_refl _, right⟩, List.getElem?_eq_none (by omega)]
          rfl
      · rw [if_pos ⟨behind, right⟩, if_neg (by omega), if_pos ⟨Nat.le_of_lt behind, right⟩,
          show row - top = row - (top + 1) + 1 by omega, List.getElem?_cons_succ]
    · rw [if_neg (by omega), if_neg (by omega), if_neg (by omega)]

/-- A picture that is drawn inside the screen by bytes that do not move the cursor. Its lines may differ in
width. -/
structure Fits (p : Picture) : Prop where
  row : 0 ≤ p.origin.row
  col : 0 ≤ p.origin.col
  height : p.lines.length ≤ (Grid.height : Int) - p.origin.row
  width : ∀ line ∈ p.lines, line.length ≤ (Grid.width : Int) - p.origin.col
  plain : ∀ line ∈ p.lines, ∀ byte ∈ line, Grid.Plain byte

theorem Fills.fits (fills : p.Fills a) : p.Fits where
  row := by rw [fills.origin]; exact Int.natCast_nonneg _
  col := by rw [fills.origin]; exact Int.natCast_nonneg _
  height := by
    have inside := fills.onScreen.1
    rw [fills.origin, fills.height]
    dsimp only
    omega
  width line member := by
    have room := fills.onScreen.2
    rw [fills.origin, fills.width line member]
    dsimp only
    omega
  plain := fills.plain

/-- Drawing a picture changes the cells of its lines, and no others. -/
theorem Fits.cell?_draw (fits : p.Fits) (s : Session) (row col : Nat) :
    (s.draw p).grid.cell? row col = (p.byte? row col).or (s.grid.cell? row col) := by
  unfold Session.draw
  cases hidden : p.hidden with
  | true => rw [if_pos rfl, byte?_of_hidden hidden, Option.none_or]
  | false =>
    obtain ⟨row_nonneg, col_nonneg, height, width, plain⟩ := fits
    obtain ⟨⟨_, _⟩, _, lines⟩ := p
    obtain ⟨top, rfl⟩ := Int.eq_ofNat_of_zero_le row_nonneg
    obtain ⟨left, rfl⟩ := Int.eq_ofNat_of_zero_le col_nonneg
    dsimp only at height width hidden ⊢
    have inside : top + lines.length ≤ Grid.height := by omega
    have room : ∀ line ∈ lines, left + line.length ≤ Grid.width := by
      intro line member
      have here := width line member
      omega
    have drawn := cell?_drawLines s plain inside room row col
    rw [if_neg Bool.false_ne_true, byte?, if_neg (by rw [hidden]; exact Bool.false_ne_true), drawn]
    simp only [Int.ofNat_le, Int.toNat_sub]

/-- A picture leaves the bytes of its lines at their places. -/
theorem Fits.byte?_eq_some (fits : p.Fits) (shown : p.hidden = false) {i k : Nat} {bytes : List UInt8} {byte : UInt8}
    (present : p.lines[i]? = some bytes) (inside : bytes[k]? = some byte) :
    p.byte? (p.origin.row.toNat + i) (p.origin.col.toNat + k) = some (Grid.stored byte) := by
  have row := Int.toNat_of_nonneg fits.row
  have col := Int.toNat_of_nonneg fits.col
  rw [byte?, if_neg (by rw [shown]; exact Bool.false_ne_true), if_pos (by omega),
    show (((p.origin.row.toNat + i : Nat) : Int) - p.origin.row).toNat = i by omega,
    show (((p.origin.col.toNat + k : Nat) : Int) - p.origin.col).toNat = k by omega, present, Option.bind_some, inside,
    Option.map_some]

/-- A picture leaves nothing where none of its lines has a byte. -/
theorem Fits.byte?_eq_none (fits : p.Fits)
    (outside : ∀ i (line : List UInt8), p.lines[i]? = some line → row = p.origin.row.toNat + i →
      col < p.origin.col.toNat ∨ p.origin.col.toNat + line.length ≤ col) :
    p.byte? row col = none := by
  have top := Int.toNat_of_nonneg fits.row
  have left := Int.toNat_of_nonneg fits.col
  unfold byte?
  split
  · rfl
  · split
    case isFalse => rfl
    case isTrue corner =>
      cases present : p.lines[((row : Int) - p.origin.row).toNat]? with
      | none => rfl
      | some line =>
        have behind : line.length ≤ ((col : Int) - p.origin.col).toNat := by
          have beside := outside _ line present (by omega)
          omega
        rw [Option.bind_some, List.getElem?_eq_none behind, Option.map_none]

theorem Fills.cell?_draw (fills : p.Fills a) (s : Session) (row col : Nat) :
    (s.draw p).grid.cell? row col = (p.byte? row col).or (s.grid.cell? row col) :=
  fills.fits.cell?_draw s row col

/-- The byte that the last of several pictures leaves in a cell. -/
def last? (pictures : List Picture) (row col : Nat) : Option UInt8 :=
  match pictures with
  | [] => none
  | p :: rest => (last? rest row col).or (p.byte? row col)

theorem last?_append (first second : List Picture) :
    last? (first ++ second) row col = (last? second row col).or (last? first row col) := by
  induction first with
  | nil => simp only [List.nil_append, last?, Option.or_none]
  | cons p rest ih => simp only [List.cons_append, last?, ih, Option.or_assoc]

theorem last?_eq_none_iff {pictures : List Picture} :
    last? pictures row col = none ↔ ∀ p ∈ pictures, p.byte? row col = none := by
  induction pictures with
  | nil => simp only [last?, List.not_mem_nil, false_implies, implies_true]
  | cons p rest ih => rw [last?, Option.or_eq_none_iff, ih, List.forall_mem_cons, and_comm]

private theorem exists_of_last? {pictures : List Picture} {byte : UInt8} (found : last? pictures row col = some byte) :
    ∃ p ∈ pictures, p.byte? row col = some byte := by
  induction pictures with
  | nil => contradiction
  | cons p rest ih =>
    rcases Option.or_eq_some_iff.mp found with later | ⟨_, here⟩
    · obtain ⟨q, member, shown⟩ := ih later
      exact ⟨q, List.mem_cons_of_mem _ member, shown⟩
    · exact ⟨p, List.mem_cons_self .., here⟩

/-- If all pictures that cover a cell put the same byte there, the cell shows that byte. -/
theorem last?_eq_some {pictures : List Picture} {byte : UInt8}
    (covered : ∃ p ∈ pictures, p.byte? row col = some byte)
    (agree : ∀ p ∈ pictures, ∀ other ∈ p.byte? row col, other = byte) : last? pictures row col = some byte := by
  cases found : last? pictures row col with
  | none =>
    obtain ⟨p, member, shown⟩ := covered
    rw [last?_eq_none_iff.mp found p member] at shown
    contradiction
  | some other =>
    obtain ⟨p, member, shown⟩ := exists_of_last? found
    rw [agree p member other shown]

/-- Hidden pictures draw nothing. -/
theorem foldl_draw_visible (pictures : List Picture) (s : Session) :
    (pictures.filter fun p => !p.hidden).foldl Session.draw s = pictures.foldl Session.draw s := by
  induction pictures generalizing s with
  | nil => rfl
  | cons p rest ih =>
    cases hidden : p.hidden with
    | true =>
      have same : s.draw p = s := if_pos hidden
      rw [List.filter_cons_of_neg (by rw [hidden]; decide), ih, List.foldl_cons, same]
    | false => rw [List.filter_cons_of_pos (by rw [hidden]; decide), List.foldl_cons, ih, List.foldl_cons]

/-- Visible pictures that fill rectangles cover the cells of these rectangles. -/
theorem isSome_last?_map {α : Type} {picture : α → Picture} {area : α → Area} {items : List α}
    (fills : ∀ item ∈ items, (picture item).Fills (area item) ∧ (picture item).hidden = false) :
    (last? (items.map picture) row col).isSome ↔ ∃ a ∈ items.map area, a.Has row col := by
  induction items with
  | nil => simp only [List.map_nil, last?, Option.isSome_none, Bool.false_eq_true, List.not_mem_nil,
      false_and, exists_false]
  | cons item rest ih =>
    have first := fills item (List.mem_cons_self ..)
    have tail := ih fun other member => fills other (List.mem_cons_of_mem _ member)
    simp only [List.map_cons, last?, Option.isSome_or, Bool.or_eq_true, tail,
      first.1.isSome_byte? first.2, List.mem_cons, or_and_right, exists_or, exists_eq_left, or_comm]

/-- Every picture of a list fills some rectangle of the screen. -/
def AllFill (pictures : List Picture) : Prop :=
  ∀ p ∈ pictures, ∃ a, p.Fills a

/-- Drawing pictures in turn leaves in a cell what the last picture that covers it puts there. -/
theorem AllFill.cell?_draw {pictures : List Picture} (fill : AllFill pictures) (s : Session) (row col : Nat) :
    (pictures.foldl Session.draw s).grid.cell? row col =
      (last? pictures row col).or (s.grid.cell? row col) := by
  induction pictures generalizing s with
  | nil => rfl
  | cons p rest ih =>
    obtain ⟨a, fills⟩ := fill p (List.mem_cons_self ..)
    have tail := ih (fun other member => fill other (List.mem_cons_of_mem _ member)) (s.draw p)
    rw [List.foldl_cons, tail, fills.cell?_draw, last?, Option.or_assoc]

end Picture

namespace Session

/-- Drawing changes nothing but the grid. -/
theorem draw_eq (s : Session) (p : Picture) : s.draw p = { s with grid := (s.draw p).grid } := by
  have lines (s : Session) (col row : Int) (lines : List (List UInt8)) :
      s.drawLines col row lines = { s with grid := (s.drawLines col row lines).grid } := by
    induction lines generalizing s row with
    | nil => rfl
    | cons line rest ih => rw [drawLines, ih]; rfl
  unfold draw
  split
  · rfl
  · exact lines s _ _ _

theorem foldl_draw_eq (s : Session) (pictures : List Picture) :
    pictures.foldl draw s = { s with grid := (pictures.foldl draw s).grid } := by
  induction pictures generalizing s with
  | nil => rfl
  | cons p rest ih => rw [List.foldl_cons, ih, draw_eq]

/-- A visible picture that fits the screen paints its lines from its origin on, each byte in a cell of its own
and NUL as a space, up to the edge and the corner of the screen. All other cells, and all of the session but its
grid, stay as they were. A hidden picture changes nothing. -/
theorem draw_paints (s : Session) (p : Picture) :
    let drawn := s.draw p
    (p.hidden = true → drawn = s) ∧
      (p.hidden = false → p.Fits →
        (∀ i (bytes : List UInt8), p.lines[i]? = some bytes → ∀ k (byte : UInt8), bytes[k]? = some byte →
          drawn.grid.cell? (p.origin.row.toNat + i) (p.origin.col.toNat + k) = some (Grid.stored byte)) ∧
        (∀ row col, (∀ i (line : List UInt8), p.lines[i]? = some line → row = p.origin.row.toNat + i →
            col < p.origin.col.toNat ∨ p.origin.col.toNat + line.length ≤ col) →
          drawn.grid.cell? row col = s.grid.cell? row col) ∧
        drawn = { s with grid := drawn.grid }) := by
  intro drawn
  refine ⟨fun hidden => if_pos hidden, fun shown fits => ⟨?_, ?_, s.draw_eq p⟩⟩
  · intro i bytes present k byte inside
    rw [fits.cell?_draw, fits.byte?_eq_some shown present inside, Option.some_or]
  · intro row col outside
    rw [fits.cell?_draw, fits.byte?_eq_none outside, Option.none_or]

/-- A line that ends on the corner, with NUL in it, below a shorter one. -/
theorem draw_paints_corner :
    let p : Picture := ⟨⟨77, 28⟩, false, [[0x41], [0x42, 0x00, 0x43]]⟩
    let drawn := new.startLine.draw p
    (p.hidden = false ∧ p.Fits) ∧ drawn.grid.cell? 28 77 = some 0x41 ∧ drawn.grid.cell? 29 78 = some 0x20 ∧
      drawn.grid.cell? 29 79 = some 0x43 ∧ drawn.grid.cell? 28 78 = new.grid.cell? 28 78 ∧ drawn.capturing = true ∧
      (new.draw { p with hidden := true }).grid = new.grid := by
  intro p drawn
  have shown : p.hidden = false := rfl
  have plain : ∀ line ∈ p.lines, ∀ byte ∈ line, Grid.Plain byte := by
    simp only [p, List.forall_mem_cons, List.not_mem_nil, false_implies, implies_true, and_true]
    decide
  have fits : p.Fits := ⟨by decide, by decide, by decide, by decide, plain⟩
  obtain ⟨cells, frame, rest⟩ := (draw_paints new.startLine p).2 shown fits
  have top := cells 0 [0x41] rfl 0 0x41 rfl
  have nul := cells 1 [0x42, 0x00, 0x43] rfl 1 0x00 rfl
  have corner := cells 1 [0x42, 0x00, 0x43] rfl 2 0x43 rfl
  have beside := frame 28 78 fun i line present row => by
    obtain rfl : i = 0 := Nat.add_left_cancel row.symm
    obtain rfl : [0x41] = line := Option.some.inj present
    exact .inr (Nat.le_refl _)
  exact ⟨⟨shown, fits⟩, top, nul, corner, beside, congrArg Session.capturing rest,
    congrArg Session.grid ((draw_paints new { p with hidden := true }).1 rfl)⟩

/-! ### Echo -/

variable (s : Session)

@[simp] theorem echo_printControl (code : Control) : (s.printControl code).echo = s.echo := by
  unfold printControl endLine
  cases code with
  | lineFeed =>
    dsimp only
    split <;> rfl
  | _ => rfl

@[simp] theorem echo_printChar (char : Char) : (s.printChar char).echo = s.echo := by
  unfold printChar
  dsimp only
  split
  · exact s.echo_printControl .stx
  · split
    · exact s.echo_printControl .lineFeed
    · split <;> rfl

theorem echo_captureByte (byte : UInt8) : (s.captureByte byte).echo = s.echo := by
  unfold captureByte
  split
  · exact s.echo_printControl .stx
  · exact s.echo_printControl .lineFeed
  · split
    · exact s.echo_printChar _
    · rfl
  · split
    · exact s.echo_printChar _
    · rfl
  · rfl

end Session

end Mcs51
