import Mathlib.Data.List.Pairwise
import Mcs51.Proofs.Console.Frames
import Mcs51.Proofs.Widget.Digits

/-! # The caret and the digit below it

In every frame the caret stands on the digit that the next typed digit replaces, and the screen shows there
the present value of that digit (`caret_paint_replay`). The panels do not overlap, so nothing else is drawn
over the digit (`cell?_drawFrame_focused`).
-/

namespace Mcs51

open Codepage Grid

private theorem Nibble.index_lt (nibble : Nibble) : nibble.index < 2 := by
  cases nibble <;> decide

private theorem Nibble.getElem?_byteDigits (nibble : Nibble) (byte : UInt8) :
    (Text.byteDigits byte)[nibble.index]? = some (Text.hexDigit (nibble.digit byte)) := by
  cases nibble <;> rfl

/-! ### Rectangles -/

namespace Panels

variable {p : Panels}

private theorem apart_layouts (visible : Bool) :
    (blank visible).layouts.Pairwise fun l m => l.area.Apart m.area := by
  cases visible <;> decide +kernel

private theorem infoArea_apart (visible : Bool) : ∀ l ∈ (blank visible).layouts, Console.infoArea.Apart l.area := by
  cases visible <;> decide +kernel

/-- Different grids stand in rectangles apart from each other. -/
theorem WellFormed.apart (wf : p.WellFormed) {g h : DataGrid} (member : g ∈ p.grids) (member' : h ∈ p.grids)
    (different : g ≠ h) : g.layout.area.Apart h.layout.area := by
  have pairwise := apart_layouts p.asciiVisible
  rw [← wf.layouts, Panels.layouts, List.pairwise_map] at pairwise
  have symm : Std.Symm fun g h : DataGrid => g.layout.area.Apart h.layout.area := ⟨fun _ _ apart => apart.symm⟩
  exact pairwise.forall member member' different

/-- The information lines stand apart from every grid. -/
theorem WellFormed.info_apart (wf : p.WellFormed) {g : DataGrid} (member : g ∈ p.grids) :
    Console.infoArea.Apart g.layout.area := by
  apply infoArea_apart p.asciiVisible
  rw [← wf.layouts]
  exact List.mem_map_of_mem member

private theorem showsDigits_editLayout (focus : Focus) : (editLayout focus).ShowsDigits := by
  cases focus <;> exact ⟨rfl, rfl, rfl, rfl⟩

end Panels

namespace Console

variable {c : Console}

/-! ### The digit under the caret -/

/-- Nothing that is drawn in a frame covers the grid in focus. -/
theorem cell?_drawFrame_focused (wf : c.panels.WellFormed) {row col : Nat} {byte : UInt8}
    (shown : c.focused.picture.byte? row col = some byte) :
    c.drawFrame.session.grid.cell? row col = some byte := by
  have member : c.focused ∈ c.panels.grids := by
    rw [focused_eq]
    exact c.panels.grid_mem c.focus
  have visible : c.focused.picture.hidden = false := by
    by_contra hidden
    rw [Picture.byte?_of_hidden (Bool.not_eq_false _ ▸ hidden)] at shown
    contradiction
  have inside : c.focused.layout.area.Has row col := by
    rw [← (wf.fills member).isSome_byte? visible, shown]
    rfl
  rw [cell?_drawFrame wf, Picture.last?_eq_some, Option.some_or]
  · refine ⟨c.focused.picture, List.mem_cons_of_mem _ (List.mem_filter.mpr ⟨?_, ?_⟩), shown⟩
    · rw [Panels.elements_eq]
      exact List.mem_map_of_mem member
    · rw [visible]
      rfl
  · intro picture drawn other found
    rcases List.mem_cons.mp drawn with rfl | drawn
    · have covered := (c.fills_infoPicture.isSome_byte? rfl).mp (Option.isSome_of_mem found)
      exact absurd inside (covered.not_of_apart (wf.info_apart member))
    · obtain ⟨present, here⟩ := List.mem_filter.mp drawn
      rw [Panels.elements_eq] at present
      obtain ⟨g, member', rfl⟩ := List.mem_map.mp present
      by_cases same : g = c.focused
      · rw [same, shown] at found
        exact (Option.some.inj found).symm
      · have covered := ((wf.fills member').isSome_byte? (Bool.not_eq_true' _ |>.mp here)).mp
          (Option.isSome_of_mem found)
        exact absurd inside (covered.not_of_apart (wf.apart member' member same))

/-- The grid in focus shows the digits of the byte under its cursor where the caret aims. -/
theorem byte?_aim (editable : c.panels.Editable) (nibble : Nibble) :
    c.focused.picture.byte? (c.aim nibble).row (c.aim nibble).col =
      some (encodeChar (Text.hexDigit (nibble.digit
        (c.focused.surface.get c.focused.surface.cursor.row c.focused.surface.cursor.col)))) := by
  have layout : c.focused.layout = Panels.editLayout c.focus := by
    rw [focused_eq]
    exact editable.wellFormed.layout_grid c.focus
  have fills := editable.wellFormed.fills (c.panels.grid_mem c.focus)
  have inside := editable.inside c.focus
  have digits := Panels.showsDigits_editLayout c.focus
  rw [← focused_eq] at fills inside
  rw [← layout] at digits
  rw [aim_eq editable, ← layout]
  exact (DataGrid.byte?_digit fills digits inside nibble.index_lt).trans
    (congrArg _ (nibble.getElem?_byteDigits _))

/-- A frame shows the present value of the byte under the cursor where the caret aims. -/
theorem cell?_paint_aim (poised : c.Poised) (nibble : Nibble) :
    c.paint.session.grid.cell? (c.aim nibble).row (c.aim nibble).col =
      some (encodeChar (Text.hexDigit (nibble.digit (c.readTarget c.pointed)))) := by
  have editable : c.refresh.panels.Editable := editable_refresh poised.editable
  have digit := byte?_aim editable nibble
  have cursor : c.refresh.focused.surface.cursor = c.focused.surface.cursor := congrArg Position.cursor c.position_refresh
  rw [aim_congr c.position_refresh, cursor, get_refresh_cursor poised.editable] at digit
  exact @cell?_drawFrame_focused c.refresh.pointAtCursor editable.wellFormed _ _ _ digit

private theorem readTarget_paint (c : Console) : c.paint.readTarget = c.readTarget := by
  rw [paint, drawFrame_eq]
  exact readTarget_congr rfl rfl

/-- The cursor of the terminal stands where the caret was placed. -/
theorem place_drawFrame {row col : Nat} (caret : c.caret = ⟨col, row⟩) (inside : row < height ∧ col < width) :
    c.drawFrame.session.grid.row.val = row ∧ c.drawFrame.session.grid.col.val = col := by
  rw [drawFrame_eq, caret]
  exact place_placeCaret _ inside

theorem inside_of_cell? {g : Grid} {row col : Nat} {byte : UInt8} (found : g.cell? row col = some byte) :
    row < height ∧ col < width := by
  unfold cell? at found
  split at found
  · assumption
  · contradiction

/-- In every frame, whatever happened before, the byte under the cursor is pointed at, its two digits stand in
their cells with their present values, and the caret stands on the digit that the next typed digit replaces. -/
theorem caret_paint_replay (machine : Machine) (clock : Clock) (history : List Event) :
    let c := ((Console.new machine clock).replay history).paint
    let cell := digitCell c.windowBase c.pointed
    c.edit.target = some c.pointed ∧
      c.caret = ⟨(cell c.edit.next).col, (cell c.edit.next).row⟩ ∧
      (c.session.grid.row.val = (cell c.edit.next).row ∧ c.session.grid.col.val = (cell c.edit.next).col) ∧
      ∀ nibble, c.session.grid.cell? (cell nibble).row (cell nibble).col =
        some (encodeChar (Text.hexDigit (nibble.digit (c.readTarget c.pointed)))) := by
  have poised := poised_replay (rested_new machine clock).poised history
  generalize (Console.new machine clock).replay history = before at poised
  intro c cell
  have aimed : c.Aimed := (aimed_pointAtCursor poised).redrawn (redrawn_drawFrame _)
  have position : c.position = before.position := (redrawn_drawFrame _).position.trans before.position_refresh
  have value : c.readTarget c.pointed = before.readTarget before.pointed := by
    rw [pointed_congr position]
    exact congrFun (readTarget_paint before) _
  have shown (nibble : Nibble) : c.session.grid.cell? (c.aim nibble).row (c.aim nibble).col =
      some (encodeChar (Text.hexDigit (nibble.digit (c.readTarget c.pointed)))) := by
    rw [aim_congr position, value]
    exact cell?_paint_aim poised nibble
  have inside := inside_of_cell? (shown c.edit.next)
  exact ⟨aimed.target, aimed.caret, place_drawFrame aimed.caret inside, shown⟩

end Console

end Mcs51
