import Mcs51.Widget.DataGrid

/-! # History trails

A grid that keeps the last snapshots of a row, oldest first. Each push moves every row up by one and
writes the snapshot into the bottom row, cut or padded with zeros to the width of the grid.
-/

namespace Mcs51

/-- The last snapshots of a row. -/
structure Trail where
  grid : DataGrid
deriving DecidableEq

namespace Trail

/-- Number of snapshots kept. -/
def depth (t : Trail) : Nat :=
  t.grid.surface.rows

def mapSurface (t : Trail) (f : Surface → Surface) : Trail :=
  ⟨t.grid.mapSurface f⟩

/-- A snapshot cut or padded with zeros to a width. -/
def fitRow (width : Nat) (snapshot : List UInt8) : List UInt8 :=
  snapshot.take width ++ List.replicate (width - snapshot.length) 0

/-- Append a snapshot and drop the oldest row. -/
def push (t : Trail) (snapshot : List UInt8) : Trail :=
  t.mapSurface fun s => s.setRowsFrom 0 (s.allRows.drop 1 ++ [fitRow s.cols snapshot])

/-- A snapshot, oldest first; empty beyond the depth. -/
def entry (t : Trail) (index : Nat) : List UInt8 :=
  t.grid.row index

/-- Overwrite a snapshot from its start on. -/
def setEntry (t : Trail) (index : Nat) (bytes : List UInt8) : Trail :=
  t.mapSurface (·.setRow index bytes)

/-- All snapshots, oldest first. -/
def entries (t : Trail) : List (List UInt8) :=
  t.grid.surface.allRows

/-- Zero every snapshot. -/
def clear (t : Trail) : Trail :=
  t.mapSurface Surface.clear

def picture (t : Trail) : Picture :=
  t.grid.picture

end Trail

end Mcs51
