import Mcs51.Proofs.Text.Plain
import Mcs51.Proofs.Widget.Surface
import Mcs51.Widget.DataGrid

/-! # Data grids on the screen

The layout of a grid is everything but its bytes and its cursor. It fixes the rectangle that the grid
covers on the screen, whatever the bytes are, as long as they are ones that the format shows in its fixed
width (`Layout.Admits`). Main statement: a grid with a sound layout and admitted bytes fills the rectangle
of its layout (`fills_area`).
-/

namespace Mcs51

open Codepage Grid

/-! ### Templates -/

namespace Template

/-- The width of a rendered piece, where every argument has two characters. -/
def pieceWidth : TemplatePiece → Nat
  | .literal _ => 1
  | .slot _ => 2

/-- The width of a rendered line, where every argument has two characters. -/
def width (t : Template) : Nat :=
  t.pieces.foldr (fun piece rest => pieceWidth piece + rest) 0

/-- Whether a piece has plain text and, if it is a slot, an argument among the first `count`. -/
def Sound (count : Nat) : TemplatePiece → Prop
  | .literal c => Plain (encodeChar c)
  | .slot index => index < count

instance (count : Nat) (piece : TemplatePiece) : Decidable (Sound count piece) :=
  match piece with
  | .literal c => inferInstanceAs (Decidable (Plain (encodeChar c)))
  | .slot index => inferInstanceAs (Decidable (index < count))

variable {bytes : List UInt8} {piece : TemplatePiece} {t : Template}

theorem renderPiece_slot {index : Nat} (present : index < bytes.length) :
    renderPiece (bytes.map Text.byteHex) (.slot index) = Text.byteDigits bytes[index] := by
  simp only [renderPiece, List.getElem?_map, List.getElem?_eq_getElem present, Option.map_some,
    Option.getD_some, Text.byteHex, String.toList_ofList]

private theorem length_renderPiece (sound : Sound bytes.length piece) :
    (renderPiece (bytes.map Text.byteHex) piece).length = pieceWidth piece := by
  cases piece with
  | literal c => rfl
  | slot index => rw [renderPiece_slot sound, Text.length_byteDigits, pieceWidth]

private theorem plain_renderPiece (sound : Sound bytes.length piece) :
    ∀ c ∈ renderPiece (bytes.map Text.byteHex) piece, Plain (encodeChar c) := by
  cases piece with
  | literal c =>
    intro other member
    rwa [List.mem_singleton.mp member]
  | slot index =>
    rw [renderPiece_slot sound]
    intro c member
    exact plainText_byteHex bytes[index] c (by rwa [Text.byteHex, String.toList_ofList])

theorem length_render (sound : ∀ piece ∈ t.pieces, Sound bytes.length piece) :
    (t.render (bytes.map Text.byteHex)).length = t.width := by
  rw [render, String.length_ofList, width]
  generalize t.pieces = pieces at sound
  induction pieces with
  | nil => rfl
  | cons piece rest ih =>
    rw [List.flatMap_cons, List.length_append, length_renderPiece (sound piece (List.mem_cons_self ..)),
      ih fun other member => sound other (List.mem_cons_of_mem _ member), List.foldr_cons]

private theorem plainText_render (sound : ∀ piece ∈ t.pieces, Sound bytes.length piece) :
    PlainText (t.render (bytes.map Text.byteHex)) := by
  apply plainText_ofList
  intro c member
  obtain ⟨piece, present, inside⟩ := List.mem_flatMap.mp member
  exact plain_renderPiece (sound piece present) c inside

end Template

/-! ### Cells -/

namespace CellFormat

def width : CellFormat → Nat
  | hex => 2
  | decimal | glyph => 1

/-- Whether a format shows a byte in its width, by plain bytes. -/
def Admits : CellFormat → UInt8 → Prop
  | hex, _ => True
  | decimal, byte => byte < 10
  | glyph, byte => Plain byte

theorem admits_zero (format : CellFormat) : format.Admits 0 := by
  cases format with
  | hex => trivial
  | decimal => exact (by decide : (0 : UInt8) < 10)
  | glyph => exact (by decide : Plain 0)

theorem length_render {format : CellFormat} {byte : UInt8} (admits : format.Admits byte) :
    (format.render byte).length = format.width := by
  cases format with
  | hex => rw [render, length_encode, Text.length_byteHex, width]
  | decimal =>
    have bound : byte.toNat < 10 := UInt8.lt_iff_toNat_lt.mp admits
    rw [render, length_encode, Nat.toString_eq_repr, Nat.repr_of_lt bound, String.length_singleton, width]
  | glyph => rfl

private theorem plain_render {format : CellFormat} {byte : UInt8} (admits : format.Admits byte) :
    ∀ shown ∈ format.render byte, Plain shown := by
  cases format with
  | hex => exact (plainText_byteHex byte).encode
  | decimal => exact (plainText_toString _).encode
  | glyph =>
    intro shown member
    rwa [List.mem_singleton.mp member]

end CellFormat

/-! ### Layout -/

namespace DataGrid

/-- Everything about a grid but its bytes and its cursor. -/
structure Layout where
  shape : Surface.Shape
  separator : Option Char
  format : CellFormat
  template : Option Template
deriving DecidableEq

def layout (g : DataGrid) : Layout :=
  ⟨g.surface.shape, g.separator, g.format, g.template⟩

variable (g : DataGrid)

@[simp] theorem surface_mapSurface (f : Surface → Surface) :
    (g.mapSurface f).surface = f g.surface := rfl

theorem layout_mapSurface {f : Surface → Surface} (keeps : (f g.surface).shape = g.surface.shape) :
    (g.mapSurface f).layout = g.layout := by
  simp only [layout, mapSurface, keeps]

@[simp] theorem layout_set (row col : Nat) (byte : UInt8) :
    (g.set row col byte).layout = g.layout :=
  g.layout_mapSurface (Surface.shape_set ..)

@[simp] theorem layout_setRow (row : Nat) (bytes : List UInt8) :
    (g.setRow row bytes).layout = g.layout :=
  g.layout_mapSurface (Surface.shape_setRow ..)

@[simp] theorem layout_setRowsFrom (row : Nat) (lines : List (List UInt8)) :
    (g.mapSurface (·.setRowsFrom row lines)).layout = g.layout :=
  g.layout_mapSurface (Surface.shape_setRowsFrom ..)

@[simp] theorem layout_clear : g.clear.layout = g.layout := rfl

@[simp] theorem layout_resetCursor : g.resetCursor.layout = g.layout := rfl

@[simp] theorem layout_moveCursor (direction : Direction) :
    (g.moveCursor direction).2.layout = g.layout :=
  g.layout_mapSurface (f := fun s => (s.moveCursor direction).2) (Surface.shape_moveCursor ..)

/-- Grids of one layout with the same rows show the same. -/
theorem picture_congr {g h : DataGrid} (same : g.layout = h.layout) (rows : ∀ r, g.row r = h.row r) :
    g.picture = h.picture := by
  simp only [layout, Surface.shape, Layout.mk.injEq, Surface.Shape.mk.injEq] at same
  obtain ⟨⟨origin, height, _, _, hidden⟩, separator, format, template⟩ := same
  have line : g.line = h.line := by
    funext r
    simp only [DataGrid.line, rows, separator, format, template]
  simp only [picture, lines, origin, height, hidden, line]

namespace Layout

def lineWidth (l : Layout) : Nat :=
  match l.template with
  | some template => template.width
  | none => l.shape.cols * (l.format.width + l.separator.toList.length)

def area (l : Layout) : Area :=
  ⟨l.shape.origin.row.toNat, l.shape.origin.col.toNat, l.shape.rows, l.lineWidth⟩

/-- Whether a grid has plain separators, a sound template and a place inside the screen. -/
structure Sound (l : Layout) : Prop where
  row : 0 ≤ l.shape.origin.row
  col : 0 ≤ l.shape.origin.col
  onScreen : l.area.OnScreen
  separator : ∀ c ∈ l.separator.toList, Plain (encodeChar c)
  template : ∀ template ∈ l.template.toList, ∀ piece ∈ template.pieces, Template.Sound l.shape.cols piece

instance (l : Layout) : Decidable (∀ c ∈ l.separator.toList, Plain (encodeChar c)) :=
  List.decidableBAll _ l.separator.toList

instance (l : Layout) : Decidable l.Sound :=
  decidable_of_iff (((0 ≤ l.shape.origin.row ∧ 0 ≤ l.shape.origin.col) ∧ l.area.OnScreen) ∧
      (∀ c ∈ l.separator.toList, Plain (encodeChar c)) ∧
      ∀ template ∈ l.template.toList, ∀ piece ∈ template.pieces, Template.Sound l.shape.cols piece)
    ⟨fun ⟨⟨⟨row, col⟩, onScreen⟩, separator, template⟩ => ⟨row, col, onScreen, separator, template⟩,
      fun sound => ⟨⟨⟨sound.row, sound.col⟩, sound.onScreen⟩, sound.separator, sound.template⟩⟩

/-- Whether a grid shows a byte in a fixed width. A template shows all bytes in hex. -/
def Admits (l : Layout) (byte : UInt8) : Prop :=
  l.template = none → l.format.Admits byte

theorem admits_zero (l : Layout) : l.Admits 0 :=
  fun _ => l.format.admits_zero

end Layout

variable {g}

/-- Without a template, bytes of a fixed width make lines of a fixed width. -/
theorem length_line (template : g.template = none) {r : Nat} (inside : r < g.surface.rows)
    (admits : ∀ byte ∈ g.row r, g.format.Admits byte) :
    (g.line r).length = g.surface.cols * (g.format.width + g.separator.toList.length) := by
  have width : ∀ byte ∈ g.row r, (g.format.render byte ++ (g.separator.map encodeChar).toList).length =
      g.format.width + g.separator.toList.length := by
    intro byte member
    rw [List.length_append, CellFormat.length_render (admits byte member)]
    cases g.separator <;> rfl
  have count : (g.row r).length = g.surface.cols := Surface.length_row inside
  simp only [line, template]
  rw [List.length_flatMap, List.map_congr_left width, List.map_const', List.sum_replicate_nat, count]

/-- A line is as wide as the layout says, and plain. -/
theorem line_spec (sound : g.layout.Sound) (content : g.surface.All g.layout.Admits) {r : Nat}
    (inside : r < g.surface.rows) :
    (g.line r).length = g.layout.lineWidth ∧ ∀ byte ∈ g.line r, Plain byte := by
  have count : (g.row r).length = g.surface.cols := Surface.length_row inside
  unfold line Layout.lineWidth
  cases found : g.template with
  | some t =>
    have pieces : ∀ piece ∈ t.pieces, Template.Sound (g.row r).length piece := by
      rw [count]
      exact sound.template t (by simp only [layout, found, Option.toList_some, List.mem_singleton])
    simp only [layout, found, length_encode]
    exact ⟨Template.length_render pieces, (Template.plainText_render pieces).encode⟩
  | none =>
    have shown : ∀ byte ∈ g.row r, g.format.Admits byte :=
      fun byte member => Surface.All.of_mem_row content byte member found
    have length := length_line found inside shown
    simp only [line, found] at length
    simp only [layout, found]
    constructor
    · exact length
    · intro byte member
      obtain ⟨cell, present, part⟩ := List.mem_flatMap.mp member
      rcases List.mem_append.mp part with part | part
      · exact CellFormat.plain_render (shown cell present) byte part
      · have separator := sound.separator
        simp only [layout] at separator
        cases between : g.separator with
        | none =>
          rw [between] at part
          contradiction
        | some c =>
          rw [between] at part separator
          rw [List.mem_singleton.mp part]
          exact separator c (List.mem_singleton_self c)

/-- A grid fills the rectangle of its layout. -/
theorem fills_area (sound : g.layout.Sound) (content : g.surface.All g.layout.Admits) :
    g.picture.Fills g.layout.area where
  origin := by
    have row := Int.toNat_of_nonneg sound.row
    have col := Int.toNat_of_nonneg sound.col
    simp only [picture, Layout.area, row, col]
    rfl
  height := by simp only [picture, lines, List.length_map, List.length_range]; rfl
  width line member := by
    obtain ⟨r, inside, rfl⟩ := List.mem_map.mp member
    exact (line_spec sound content (List.mem_range.mp inside)).1
  plain line member := by
    obtain ⟨r, inside, rfl⟩ := List.mem_map.mp member
    exact (line_spec sound content (List.mem_range.mp inside)).2
  onScreen := sound.onScreen

end DataGrid

end Mcs51
