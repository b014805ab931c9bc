import Mcs51.Screen.Codepage
import Mcs51.Screen.Control

/-! # Character grid

Thirty rows of eighty bytes with a write cursor. The cells are one sequence, row after row, and the
cursor is a position in it. A byte is stored at the cursor, which then moves on; on the last cell, the
corner, it stays. Line feed and backspace move the cursor instead.

Once the corner holds something other than a blank, the cursor is no longer drawn over it and a
backspace clears it in place.
-/

namespace Mcs51

namespace Grid

abbrev height : Nat := 30

abbrev width : Nat := 80

abbrev size : Nat := height * width

end Grid

/-- The character grid. -/
structure Grid where
  cells : Vector UInt8 Grid.size
  cursor : Fin Grid.size
  cursorVisible : Bool
deriving DecidableEq

/-- A place on the screen, which may lie outside the grid. The coordinates have no bound: places that are kept in 32
bits are the same where their arithmetic does not overflow (`Surface.caretPosition?`). -/
structure Coord where
  col : Int
  row : Int
deriving DecidableEq, Repr

/-- What became of a byte. -/
inductive PutOutcome
  /-- The cursor moved within the row, or a control byte was applied. -/
  | advanced
  /-- The cursor moved to the start of the next row. -/
  | wrapped
  /-- The cursor is on the corner and stays there. -/
  | full
deriving DecidableEq, Repr

namespace Grid

/-- The position of a row and column inside the grid. -/
def position (row : Fin height) (col : Fin width) : Fin size :=
  ⟨row.val * width + col.val, by
    have h := Nat.mul_le_mul_right width (Nat.le_of_lt_succ row.isLt)
    have := col.isLt
    simp only [size, height, width] at *
    omega⟩

def row (g : Grid) : Fin height :=
  ⟨g.cursor.val / width, by have := g.cursor.isLt; simp only [size, height, width] at *; omega⟩

def col (g : Grid) : Fin width :=
  ⟨g.cursor.val % width, Nat.mod_lt _ (by decide)⟩

/-- The cell in a row and column; none outside the grid. -/
def cell? (g : Grid) (row col : Nat) : Option UInt8 :=
  if row < height ∧ col < width then g.cells[row * width + col]? else none

/-- The cells of a row; none outside the grid. -/
def row? (g : Grid) (row : Nat) : Option (List UInt8) :=
  if row < height then some (g.cells.toList.drop (row * width) |>.take width) else none

def isFull (g : Grid) : Bool :=
  g.cursor.val == size - 1

def isBlank (byte : UInt8) : Bool :=
  byte == 0x00 || byte == 0x20

/-- Whether the cell under the cursor holds something other than a blank. -/
def isOccupied (g : Grid) : Bool :=
  !isBlank g.cells[g.cursor]

/-- Whether the cursor is on the corner and the corner is taken. -/
def cornerTaken (g : Grid) : Bool :=
  g.isFull && g.isOccupied

/-- Write the cell under the cursor. -/
def write (g : Grid) (byte : UInt8) : Grid :=
  { g with cells := g.cells.set g.cursor byte }

/-- Move the cursor to the next cell, if there is one. -/
def advance (g : Grid) : PutOutcome × Grid :=
  if h : g.cursor.val + 1 < size then
    (if (g.cursor.val + 1) % width = 0 then .wrapped else .advanced,
      { g with cursor := ⟨g.cursor.val + 1, h⟩ })
  else (.full, g)

/-- Move the cursor to the previous cell, if there is one. -/
def retreat (g : Grid) : Grid :=
  { g with cursor := ⟨g.cursor.val - 1, Nat.lt_of_le_of_lt (Nat.sub_le _ _) g.cursor.isLt⟩ }

/-- Move the cursor to the start of the next row, if there is one. -/
def lineFeed (g : Grid) : Grid :=
  if h : (g.cursor.val / width + 1) * width < size then
    { g with cursor := ⟨(g.cursor.val / width + 1) * width, h⟩ }
  else g

/-- Step back and clear the cell; a taken corner is cleared in place. -/
def backspace (g : Grid) : Grid :=
  (if g.cornerTaken then g else g.retreat).write 0x00

/-- Write one byte at the cursor. NUL is stored as a space; line feed and backspace move the cursor; all
other bytes are stored as they are. -/
def put (g : Grid) (byte : UInt8) : PutOutcome × Grid :=
  if byte = Control.lineFeed.byte then (.advanced, g.lineFeed)
  else if byte = Control.backspace.byte then (.advanced, g.backspace)
  else (g.write (if byte = Control.nul.byte then Control.space.byte else byte)).advance

/-- Write bytes in turn. -/
def putAll (g : Grid) (bytes : List UInt8) : Grid :=
  bytes.foldl (fun g byte => (g.put byte).2) g

/-- A coordinate moved into `0 … n`. -/
def clamp (n : Nat) (x : Int) : Fin (n + 1) :=
  ⟨min x.toNat n, by omega⟩

/-- Move the cursor. Each axis is moved into the grid on its own; an absent axis is kept. -/
def placeCaret (g : Grid) (col row : Option Int) : Grid :=
  { g with
    cursor := position (row.elim g.row (clamp (height - 1))) (col.elim g.col (clamp (width - 1))) }

/-- Put a byte up to `n` times, until the corner is reached. -/
def fillFrom (fill : UInt8) (g : Grid) : Nat → Grid
  | 0 => g
  | n + 1 =>
    match g.put fill with
    | (.full, g) => g
    | (_, g) => fillFrom fill g n

def home (g : Grid) : Grid :=
  { g with cursor := ⟨0, by decide⟩ }

/-- Fill the screen with a byte, by putting it from the first cell on, and home the cursor. A byte that
never reaches the corner is put once per cell. -/
def flush (g : Grid) (fill : UInt8) : Grid :=
  (fillFrom fill g.home size).home

/-- A grid of spaces with a hidden cursor on the first cell. -/
def blank : Grid where
  cells := Vector.replicate size Control.space.byte
  cursor := ⟨0, by decide⟩
  cursorVisible := false

/-- The byte drawn in place of the cell under a visible cursor. -/
def cursorGlyph : UInt8 := 0xDB

/-- Whether the cursor is drawn over the cell at a position. -/
def showsCursor (g : Grid) (position : Nat) : Bool :=
  g.cursorVisible && position == g.cursor.val && !g.cornerTaken

/-- The glyphs of the screen, row by row. -/
def glyphRows (g : Grid) : List (List Char) :=
  (List.range height).map fun row =>
    (List.range width).map fun col =>
      let p := row * width + col
      Codepage.decode (if g.showsCursor p then cursorGlyph else (g.cells[p]?).getD 0)

/-- The rows of the screen as text. -/
def rows (g : Grid) : List String :=
  g.glyphRows.map String.ofList

/-- The screen as one text: its glyphs row by row, with a line feed behind every row. -/
def text (g : Grid) : List Char :=
  g.glyphRows.flatMap fun row => row ++ ['\n']

end Grid

end Mcs51
