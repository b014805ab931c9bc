import Mcs51.Proofs.Text.Plain
import Mcs51.Proofs.Widget.Surface
import Mcs51.Widget.Frame

/-! # Frames on the screen

A frame covers its whole rectangle: the border, the title over it, and blanks inside. Its shape is fixed
when it is made; marks and titles change bytes only.
-/

namespace Mcs51.Frame

open Codepage Grid

def area (f : Frame) : Area :=
  ⟨f.surface.origin.row.toNat, f.surface.origin.col.toNat, f.surface.rows, f.surface.cols⟩

private theorem plain_borderGlyph {rows cols row col : Nat} {glyph : Char}
    (border : borderGlyph? rows cols row col = some glyph) : Plain (encodeChar glyph) := by
  unfold borderGlyph? at border
  dsimp only at border
  repeat' split at border
  all_goals cases border
  all_goals decide

/-- The border keeps the shape of a surface, and its glyphs are plain. -/
theorem drawBorder_spec {s : Surface} (plain : s.All Plain) :
    (drawBorder s).shape = s.shape ∧ (drawBorder s).All Plain := by
  unfold drawBorder
  refine List.foldlRecOn (motive := fun t : Surface => t.shape = s.shape ∧ t.All Plain) _ _ ⟨rfl, plain⟩ ?_
  intro t kept row _
  refine List.foldlRecOn (motive := fun t : Surface => t.shape = s.shape ∧ t.All Plain) _ _ kept ?_
  intro t kept col _
  split
  · rename_i glyph border
    exact ⟨(t.shape_set ..).trans kept.1, kept.2.set (plain_borderGlyph border)⟩
  · exact kept

/-- A frame that is shown inside the screen, and whose bytes are plain. -/
structure Sound (f : Frame) : Prop where
  surface : f.surface.All Plain
  title : ∀ byte ∈ f.titleBytes, Plain byte
  shown : f.surface.hidden = false
  row : 0 ≤ f.surface.origin.row
  col : 0 ≤ f.surface.origin.col
  onScreen : f.area.OnScreen

theorem shape_new (row col : Int) (title : String) (rows cols : Nat) :
    (Frame.new row col title rows cols).surface.shape = ⟨⟨col, row⟩, rows, cols, ⟨1, 1⟩, false⟩ :=
  (drawBorder_spec (Surface.all_of_zeroed rfl (by decide))).1

theorem setTitle_new (row col : Int) (old title : String) (rows cols : Nat) :
    (Frame.new row col old rows cols).setTitle title = Frame.new row col title rows cols :=
  rfl

@[simp] theorem shape_mark (f : Frame) (row col : Nat) (glyph : Char) :
    (f.mark row col glyph).surface.shape = f.surface.shape :=
  f.surface.shape_set ..

/-- The rectangle follows from the shape. -/
theorem area_of_shape {f : Frame} {shape : Surface.Shape} (is : f.surface.shape = shape) :
    f.area = ⟨shape.origin.row.toNat, shape.origin.col.toNat, shape.rows, shape.cols⟩ := by
  subst is
  rfl

theorem area_new (row col : Int) (title : String) (rows cols : Nat) :
    (Frame.new row col title rows cols).area = ⟨row.toNat, col.toNat, rows, cols⟩ :=
  area_of_shape (shape_new ..)

@[simp] theorem area_mark (f : Frame) (row col : Nat) (glyph : Char) :
    (f.mark row col glyph).area = f.area :=
  area_of_shape (f.shape_mark ..)

theorem sound_new {top left rows cols : Nat} {title : String} (plain : PlainText title)
    (onScreen : Area.OnScreen ⟨top, left, rows, cols⟩) :
    (Frame.new top left title rows cols).Sound where
  surface := (drawBorder_spec (Surface.all_of_zeroed rfl (by decide))).2
  title := plain.encode
  shown := congrArg Surface.Shape.hidden (shape_new ..)
  row := by rw [show (Frame.new top left title rows cols).surface.origin = _ from
    congrArg Surface.Shape.origin (shape_new ..)]; exact Int.natCast_nonneg top
  col := by rw [show (Frame.new top left title rows cols).surface.origin = _ from
    congrArg Surface.Shape.origin (shape_new ..)]; exact Int.natCast_nonneg left
  onScreen := by rw [area_new]; exact onScreen

theorem Sound.mark {f : Frame} (sound : f.Sound) (row col : Nat) {glyph : Char}
    (plain : Plain (encodeChar glyph)) :
    (f.mark row col glyph).Sound := by
  have shape := f.shape_mark row col glyph
  have origin : (f.mark row col glyph).surface.origin = f.surface.origin :=
    congrArg Surface.Shape.origin shape
  exact
    { surface := sound.surface.set plain
      title := sound.title
      shown := (congrArg Surface.Shape.hidden shape).trans sound.shown
      row := by rw [origin]; exact sound.row
      col := by rw [origin]; exact sound.col
      onScreen := by rw [area_mark]; exact sound.onScreen }

private theorem length_overlay (title line : List UInt8) : (overlay title line).length = line.length := by
  cases line with
  | nil => rfl
  | cons corner edge =>
    simp only [overlay, List.length_cons, List.length_append, List.length_take, List.length_drop]
    omega

private theorem plain_overlay {title line : List UInt8} (titlePlain : ∀ byte ∈ title, Plain byte)
    (linePlain : ∀ byte ∈ line, Plain byte) : ∀ byte ∈ overlay title line, Plain byte := by
  cases line with
  | nil => exact linePlain
  | cons corner edge =>
    intro byte member
    rcases List.mem_cons.mp member with rfl | member
    · exact linePlain byte (List.mem_cons_self ..)
    rcases List.mem_append.mp member with member | member
    · exact titlePlain byte (List.mem_of_mem_take member)
    · exact linePlain byte (List.mem_cons_of_mem _ (List.mem_of_mem_drop member))

/-- Every line of a frame is a row of its surface, the first one under the title. -/
theorem mem_lines {f : Frame} {line : List UInt8} (member : line ∈ f.lines) :
    ∃ r < f.surface.rows, line = f.surface.row r ∨ line = overlay f.titleBytes (f.surface.row r) := by
  have source : ∀ row ∈ f.surface.allRows, ∃ r < f.surface.rows, row = f.surface.row r := by
    intro row present
    obtain ⟨r, inside, rfl⟩ := List.mem_map.mp present
    exact ⟨r, List.mem_range.mp inside, rfl⟩
  unfold lines at member
  cases rows : f.surface.allRows with
  | nil =>
    rw [rows] at member
    contradiction
  | cons top rest =>
    rw [rows] at member source
    rcases List.mem_cons.mp member with rfl | member
    · obtain ⟨r, inside, rfl⟩ := source top (List.mem_cons_self ..)
      exact ⟨r, inside, .inr rfl⟩
    · obtain ⟨r, inside, rfl⟩ := source line (List.mem_cons_of_mem _ member)
      exact ⟨r, inside, .inl rfl⟩

private theorem length_lines (f : Frame) : f.lines.length = f.surface.rows := by
  rw [← f.surface.length_allRows]
  unfold lines
  cases f.surface.allRows <;> rfl

/-- A frame fills the rectangle of its surface. -/
theorem Sound.fills {f : Frame} (sound : f.Sound) : f.picture.Fills f.area where
  origin := by simp only [picture, area, Int.toNat_of_nonneg sound.row, Int.toNat_of_nonneg sound.col]
  height := f.length_lines
  width line member := by
    obtain ⟨r, inside, rfl | rfl⟩ := mem_lines member
    · exact Surface.length_row inside
    · exact (length_overlay ..).trans (Surface.length_row inside)
  plain line member := by
    obtain ⟨r, _, rfl | rfl⟩ := mem_lines member
    · exact sound.surface.of_mem_row
    · exact plain_overlay sound.title sound.surface.of_mem_row
  onScreen := sound.onScreen

end Mcs51.Frame
