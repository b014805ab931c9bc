import Mcs51.Text.Hex
import Mcs51.Text.Template
import Mcs51.Widget.Picture
import Mcs51.Widget.Surface

/-! # Data grids

A surface whose bytes are shown as hex digits, as decimal numbers or as glyphs, each followed by the
separator if there is one. A template takes the place of format and separator: its slots are filled with
the hex digits of the row. A cursor step covers a byte's two digits and its separator.
-/

namespace Mcs51

/-- How a byte is shown. -/
inductive CellFormat
  /-- Two upper-case hex digits. -/
  | hex
  /-- A decimal number without padding. -/
  | decimal
  /-- The byte's own glyph. -/
  | glyph
deriving DecidableEq, Repr

/-- The bytes that show a byte. -/
def CellFormat.render : CellFormat → UInt8 → List UInt8
  | hex, byte => Codepage.encode (Text.byteHex byte)
  | decimal, byte => Codepage.encode (toString byte.toNat)
  | glyph, byte => [byte]

structure DataGrid where
  surface : Surface
  separator : Option Char
  format : CellFormat
  template : Option Template
deriving DecidableEq

namespace DataGrid

/-- A grid of hex bytes at a row and column of the screen. -/
def new (row col : Int) (rows cols : Nat) (separator : Option Char) : DataGrid where
  surface := (Surface.new row col rows cols).withStep (if separator.isSome then 3 else 2) 1
  separator := separator
  format := .hex
  template := none

def withFormat (g : DataGrid) (format : CellFormat) : DataGrid :=
  { g with format }

/-- Show rows through a template. -/
def withTemplate (g : DataGrid) (source : String) : DataGrid :=
  { g with template := some (Template.parse source) }

def mapSurface (g : DataGrid) (f : Surface → Surface) : DataGrid :=
  { g with surface := f g.surface }

/-- Hide or show. -/
def setHidden (g : DataGrid) (hidden : Bool) : DataGrid :=
  g.mapSurface (·.setHidden hidden)

/-- Write a byte. -/
def set (g : DataGrid) (row col : Nat) (byte : UInt8) : DataGrid :=
  g.mapSurface (·.set row col byte)

/-- Write bytes into a row from its start on. -/
def setRow (g : DataGrid) (row : Nat) (bytes : List UInt8) : DataGrid :=
  g.mapSurface (·.setRow row bytes)

/-- Write text into a row, one glyph per cell. -/
def setText (g : DataGrid) (row : Nat) (text : String) : DataGrid :=
  g.setRow row (Codepage.encode text)

def row (g : DataGrid) (row : Nat) : List UInt8 :=
  g.surface.row row

/-- Zero every byte. -/
def clear (g : DataGrid) : DataGrid :=
  g.mapSurface Surface.clear

/-- Put the cursor on the first byte. -/
def resetCursor (g : DataGrid) : DataGrid :=
  g.mapSurface Surface.resetCursor

def moveCursor (g : DataGrid) (direction : Direction) : CursorMove × DataGrid :=
  let (outcome, surface) := g.surface.moveCursor direction
  (outcome, { g with surface })

/-- The bytes that show a row. -/
def line (g : DataGrid) (row : Nat) : List UInt8 :=
  match g.template with
  | some template => Codepage.encode (template.render ((g.row row).map Text.byteHex))
  | none =>
    (g.row row).flatMap fun byte =>
      g.format.render byte ++ (g.separator.map Codepage.encodeChar).toList

/-- The bytes that show all rows. -/
def lines (g : DataGrid) : List (List UInt8) :=
  (List.range g.surface.rows).map g.line

def picture (g : DataGrid) : Picture :=
  ⟨g.surface.origin, g.surface.hidden, g.lines⟩

end DataGrid

end Mcs51
