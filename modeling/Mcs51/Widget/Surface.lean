import Mcs51.Screen.Grid

/-! # Surfaces

A rectangle of bytes with a place on the screen and a cursor of its own. Reading outside the rectangle
gives 0 and writing outside it does nothing. The cursor never leaves the rectangle; `caretPosition` is
the place on the screen that belongs to it.

Extents and places are numbers without a bound. Where sizes and indices are counted in 64 bits, the cells are
still those of a surface as long as `rows * cols < 2 ^ 64`; where places are 32-bit integers, the caret is
`caretPosition` as long as nothing on the way to it overflows, which `caretPosition?` checks.
-/

namespace Mcs51

/-- Direction of a cursor move. -/
inductive Direction
  | left
  | right
  | up
  | down
deriving DecidableEq, Repr

inductive CursorMove
  | moved
  /-- The cursor was already on that edge and stays there. -/
  | boundary
deriving DecidableEq, Repr

/-- A cell inside a surface. -/
structure CellPos where
  row : Nat
  col : Nat
deriving DecidableEq, Repr

/-- A rectangle of bytes. Every cell of the extents is there; a count in 64 bits finds all of them as long as
`rows * cols < 2 ^ 64`. -/
structure Surface where
  /-- Place of the top-left cell on the screen. -/
  origin : Coord
  rows : Nat
  cols : Nat
  cells : Vector UInt8 (rows * cols)
  cursor : CellPos
  /-- Screen columns and rows that one cursor step covers. -/
  step : Coord
  hidden : Bool
deriving DecidableEq

namespace Surface

/-- A zeroed surface at a row and column of the screen. The count of its cells is the product itself, not its
remainder in 64 bits. -/
def new (row col : Int) (rows cols : Nat) : Surface where
  origin := ⟨col, row⟩
  rows := rows
  cols := cols
  cells := Vector.replicate (rows * cols) 0
  cursor := ⟨0, 0⟩
  step := ⟨1, 1⟩
  hidden := false

def index (s : Surface) (row col : Nat) (inside : row < s.rows ∧ col < s.cols) : Fin (s.rows * s.cols) :=
  ⟨row * s.cols + col, by
    have := Nat.mul_le_mul_right s.cols inside.1
    have := inside.2
    rw [Nat.succ_mul] at *
    omega⟩

/-- A cell; 0 outside the surface. -/
def get (s : Surface) (row col : Nat) : UInt8 :=
  if inside : row < s.rows ∧ col < s.cols then s.cells[s.index row col inside] else 0

/-- Write a cell; nothing happens outside the surface. -/
def set (s : Surface) (row col : Nat) (byte : UInt8) : Surface :=
  if inside : row < s.rows ∧ col < s.cols then
    { s with cells := s.cells.set (s.index row col inside) byte }
  else s

/-- The cells of a row; empty outside the surface. -/
def row (s : Surface) (row : Nat) : List UInt8 :=
  if row < s.rows then (List.range s.cols).map (s.get row) else []

def allRows (s : Surface) : List (List UInt8) :=
  (List.range s.rows).map s.row

/-- Write bytes into a row from a column on; what lies outside the surface is dropped. -/
def setFrom (s : Surface) (row col : Nat) : List UInt8 → Surface
  | [] => s
  | byte :: rest => (s.set row col byte).setFrom row (col + 1) rest

/-- Write bytes into a row from its start on. -/
def setRow (s : Surface) (row : Nat) (bytes : List UInt8) : Surface :=
  s.setFrom row 0 bytes

def setRowsFrom (s : Surface) (row : Nat) : List (List UInt8) → Surface
  | [] => s
  | bytes :: rest => (s.setRow row bytes).setRowsFrom (row + 1) rest

/-- Zero every cell. -/
def clear (s : Surface) : Surface :=
  { s with cells := Vector.replicate (s.rows * s.cols) 0 }

/-- Hide or show. -/
def setHidden (s : Surface) (hidden : Bool) : Surface :=
  { s with hidden }

/-- Set the screen columns and rows of one cursor step. -/
def withStep (s : Surface) (cols rows : Int) : Surface :=
  { s with step := ⟨cols, rows⟩ }

/-- Put the cursor on the first cell. -/
def resetCursor (s : Surface) : Surface :=
  { s with cursor := ⟨0, 0⟩ }

/-- The cell next to the cursor in a direction, if it is inside. -/
def neighbour? (s : Surface) : Direction → Option CellPos
  | .left => if 0 < s.cursor.col then some { s.cursor with col := s.cursor.col - 1 } else none
  | .right => if s.cursor.col + 1 < s.cols then some { s.cursor with col := s.cursor.col + 1 } else none
  | .up => if 0 < s.cursor.row then some { s.cursor with row := s.cursor.row - 1 } else none
  | .down => if s.cursor.row + 1 < s.rows then some { s.cursor with row := s.cursor.row + 1 } else none

def moveCursor (s : Surface) (direction : Direction) : CursorMove × Surface :=
  match s.neighbour? direction with
  | some next => (.moved, { s with cursor := next })
  | none => (.boundary, s)

/-- The place of the cursor on the screen, in integers without a bound. -/
def caretPosition (s : Surface) : Coord where
  col := s.origin.col + s.cursor.col * s.step.col
  row := s.origin.row + s.cursor.row * s.step.row

/-- Whether 32 bits hold an integer. -/
def Fits32 (n : Int) : Prop :=
  -0x80000000 ≤ n ∧ n < 0x80000000

instance (n : Int) : Decidable (Fits32 n) :=
  inferInstanceAs (Decidable (_ ∧ _))

/-- An integer, if 32 bits hold it. -/
def int32? (n : Int) : Option Int :=
  if Fits32 n then some n else none

/-- One axis of a place in 32-bit integers: the index, its distance from the origin, and their sum. -/
def axis? (origin : Int) (index : Nat) (step : Int) : Option Int := do
  let index ← int32? index
  let distance ← int32? (index * step)
  int32? (origin + distance)

/-- `caretPosition` in 32-bit integers; none where one of them overflows. -/
def caretPosition? (s : Surface) : Option Coord := do
  let col ← axis? s.origin.col s.cursor.col s.step.col
  let row ← axis? s.origin.row s.cursor.row s.step.row
  return ⟨col, row⟩

end Surface

end Mcs51
