import Mcs51.Widget.Picture
import Mcs51.Widget.Surface

/-! # Frames

A box of single lines with a title laid over its top edge from the second column on. The border is drawn
into the surface once, so that single cells can be marked afterwards; the title is applied when the frame
is shown.
-/

namespace Mcs51

/-- A titled box. -/
structure Frame where
  surface : Surface
  /-- The bytes of the title. -/
  titleBytes : List UInt8
deriving DecidableEq

namespace Frame

/-- The glyph of a box at a cell, if the cell lies on the border. Where a box has a single row or column,
the corners that come first win: top left, top right, bottom left, bottom right. -/
def borderGlyph? (rows cols row col : Nat) : Option Char :=
  let lastRow := row + 1 = rows
  let lastCol := col + 1 = cols
  if row = 0 ∧ col = 0 then some '┌'
  else if row = 0 ∧ lastCol then some '┐'
  else if lastRow ∧ col = 0 then some '└'
  else if lastRow ∧ lastCol then some '┘'
  else if row = 0 ∨ lastRow then some '─'
  else if col = 0 ∨ lastCol then some '│'
  else none

def drawBorder (s : Surface) : Surface :=
  (List.range s.rows).foldl (fun s row =>
    (List.range s.cols).foldl (fun s col =>
      match borderGlyph? s.rows s.cols row col with
      | some glyph => s.set row col (Codepage.encodeChar glyph)
      | none => s) s) s

/-- A frame at a row and column of the screen. -/
def new (row col : Int) (title : String) (rows cols : Nat) : Frame where
  surface := drawBorder (Surface.new row col rows cols)
  titleBytes := Codepage.encode title

def title (f : Frame) : String :=
  Codepage.decodeAll f.titleBytes

def setTitle (f : Frame) (title : String) : Frame :=
  { f with titleBytes := Codepage.encode title }

def mapSurface (f : Frame) (g : Surface → Surface) : Frame :=
  { f with surface := g f.surface }

/-- Overwrite a cell. -/
def mark (f : Frame) (row col : Nat) (glyph : Char) : Frame :=
  f.mapSurface (·.set row col (Codepage.encodeChar glyph))

/-- Zero the surface and draw the border again. -/
def redraw (f : Frame) : Frame :=
  f.mapSurface fun s => drawBorder s.clear

/-- Lay the title over the top edge; it is cut at the end of the edge. -/
def overlay (title : List UInt8) : List UInt8 → List UInt8
  | [] => []
  | corner :: edge => corner :: (title.take edge.length ++ edge.drop title.length)

/-- The bytes that show all rows. -/
def lines (f : Frame) : List (List UInt8) :=
  match f.surface.allRows with
  | [] => []
  | top :: rest => overlay f.titleBytes top :: rest

def picture (f : Frame) : Picture :=
  ⟨f.surface.origin, f.surface.hidden, f.lines⟩

end Frame

end Mcs51
