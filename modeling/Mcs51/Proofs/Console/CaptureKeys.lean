import Mcs51.Proofs.Console.Caret
import Mcs51.Proofs.Console.Capture

/-! # Capture keys on the screen

A control code is drawn where the cursor of the terminal stands. In a frame the cursor is placed on the caret,
on a cell that every frame draws, so an STX printed there is drawn over by the next frame. A command or a message
behind the picture of a frame draws elsewhere and leaves the cursor there: behind the prompt, behind a message or
behind its eraser (`DrawnOn`), on cells that no frame draws. An STX printed then stays on the screen
(`rendered_capture_keys`). A line feed only moves the cursor.
-/

namespace Mcs51

open Codepage

/-! ### The cursor of the terminal -/

namespace Grid

variable {g : Grid} {byte : UInt8} {row col : Nat}

theorem place_eq_iff (inside : row < height ∧ col < width) :
    row * width + col = g.cursor.val ↔ row = g.row.val ∧ col = g.col.val := by
  simp only [height, width] at inside
  simp only [Grid.row, Grid.col, width]
  omega

theorem place_inside (g : Grid) : g.row.val < height ∧ g.col.val < width :=
  ⟨g.row.isLt, g.col.isLt⟩

/-- A byte that is written changes the cell under the cursor. -/
theorem cell?_write (inside : row < height ∧ col < width) :
    (g.write byte).cell? row col =
      if row = g.row.val ∧ col = g.col.val then some byte else g.cell? row col := by
  rw [cell?, if_pos inside, write, Vector.getElem?_set]
  by_cases here : row = g.row.val ∧ col = g.col.val
  · rw [if_pos here, if_pos ((place_eq_iff inside).mpr here).symm]
  · rw [if_neg here, if_neg fun same => here ((place_eq_iff inside).mp same.symm), cell?, if_pos inside]

theorem cell?_cursor (g : Grid) : g.cell? g.row.val g.col.val = g.cells[g.cursor.val]? := by
  have place := (place_eq_iff (g := g) g.place_inside).mpr ⟨rfl, rfl⟩
  rw [cell?, if_pos g.place_inside, place]

end Grid

open Grid

namespace Console

variable {c d : Console} {row col : Nat}

/-! ### What the next frame draws -/

/-- The cells of the screen that a frame at a time renders. -/
def rendered (c : Console) (time : Float) : Vector UInt8 Grid.size :=
  (c.paint.render time).session.grid.cells

/-- Whether every frame draws the cell under the cursor of the terminal. -/
def CursorLive (c : Console) : Prop :=
  ∃ a ∈ liveAreas c.panels.asciiVisible, a.Has c.session.grid.row.val c.session.grid.col.val

/-- Blinking changes neither the cells nor the place of the cursor. -/
theorem grid_render (c : Console) (time : Float) :
    ∃ cursorVisible, (c.render time).session.grid = { c.session.grid with cursorVisible } := by
  unfold render Session.tick Session.blink
  split
  · dsimp only
    split
    · exact ⟨_, rfl⟩
    · exact ⟨_, rfl⟩
  · exact ⟨_, rfl⟩

theorem rendered_eq (c : Console) (time : Float) : c.rendered time = c.paint.session.grid.cells := by
  obtain ⟨_, same⟩ := c.paint.grid_render time
  rw [rendered, same]

private theorem asciiVisible_refresh (c : Console) : c.refresh.panels.asciiVisible = c.panels.asciiVisible := by
  rw [refresh]
  dsimp only
  rw [asciiVisible_refreshPanels]
  split <;> rfl

/-- A frame draws its pictures over what was on the screen. -/
theorem cell?_paint (editable : c.panels.Editable) (row col : Nat) :
    c.paint.session.grid.cell? row col =
      (Picture.last? c.refresh.pointAtCursor.livePictures row col).or (c.session.grid.cell? row col) :=
  @cell?_drawFrame c.refresh.pointAtCursor (editable_refresh editable).wellFormed row col

/-- The pictures of a frame cover the live rectangles. -/
theorem isSome_refreshed (editable : c.panels.Editable) :
    (Picture.last? c.refresh.pointAtCursor.livePictures row col).isSome ↔
      ∃ a ∈ liveAreas c.panels.asciiVisible, a.Has row col := by
  have live := @isSome_live row col c.refresh.pointAtCursor (editable_refresh editable).wellFormed
  rw [← c.asciiVisible_refresh]
  exact live

/-- Two screens are the same after the next frame if and only if they are where that frame draws nothing. -/
theorem rendered_eq_iff (editable : c.panels.Editable) (s : Session) (time : Float) :
    { c with session := s }.rendered time = c.rendered time ↔
      ∀ row < height, ∀ col < width, (¬∃ a ∈ liveAreas c.panels.asciiVisible, a.Has row col) →
        s.grid.cell? row col = c.session.grid.cell? row col := by
  have drawn := cell?_paint editable
  have drawn' : ∀ row col, { c with session := s }.paint.session.grid.cell? row col =
      (Picture.last? c.refresh.pointAtCursor.livePictures row col).or (s.grid.cell? row col) :=
    @cell?_paint { c with session := s } editable
  rw [rendered_eq, rendered_eq]
  constructor
  · intro same row inside col inside' dead
    have cell := cell?_congr same row col
    rw [← isSome_refreshed editable, Option.not_isSome_iff_eq_none] at dead
    rw [drawn, drawn', dead, Option.none_or, Option.none_or] at cell
    exact cell
  · intro same
    apply cells_eq_of_cell?
    intro row inside col inside'
    rw [drawn, drawn']
    cases live : Picture.last? c.refresh.pointAtCursor.livePictures row col with
    | some byte => rw [Option.some_or, Option.some_or]
    | none =>
      rw [Option.none_or, Option.none_or]
      apply same row inside col inside'
      rw [← isSome_refreshed editable, live]
      decide

/-- A line feed leaves no mark. -/
theorem rendered_lineFeed (editable : c.panels.Editable) (time : Float) :
    (c.printControl .lineFeed).rendered time = c.rendered time := by
  apply (rendered_eq_iff editable _ time).mpr
  intro row _ col _ _
  apply cell?_congr
  unfold Session.printControl Session.endLine
  dsimp only
  split <;> exact cells_lineFeed _

/-- An STX leaves no mark if and only if the next frame draws the cell under the cursor, or that cell shows the
glyph of STX already. -/
theorem rendered_stx_iff (editable : c.panels.Editable) (time : Float) :
    (c.printControl .stx).rendered time = c.rendered time ↔
      c.CursorLive ∨ c.session.grid.cells[c.session.grid.cursor] = Control.stx.byte := by
  have plain : Plain Control.stx.byte := by decide
  have put : (c.session.printControl .stx).grid = (c.session.grid.write Control.stx.byte).advance.2 :=
    congrArg Prod.snd (put_of_plain plain)
  have printed {row col : Nat} (inside : row < height ∧ col < width) :
      (c.session.printControl .stx).grid.cell? row col =
        if row = c.session.grid.row.val ∧ col = c.session.grid.col.val then some Control.stx.byte
        else c.session.grid.cell? row col := by
    rw [put, cell?_congr cells_advance, cell?_write inside]
  have held : c.session.grid.cells[c.session.grid.cursor.val]? = some c.session.grid.cells[c.session.grid.cursor] :=
    Vector.getElem?_eq_getElem c.session.grid.cursor.isLt
  refine (rendered_eq_iff editable _ time).trans ?_
  constructor
  · intro same
    by_cases live : c.CursorLive
    · exact .inl live
    · right
      obtain ⟨inside, inside'⟩ := c.session.grid.place_inside
      have cell := same _ inside _ inside' live
      rw [printed ⟨inside, inside'⟩, if_pos ⟨rfl, rfl⟩, cell?_cursor, held] at cell
      exact (Option.some.inj cell).symm
  · rintro harmless row inside col inside' dead
    rw [printed ⟨inside, inside'⟩]
    split
    case isTrue here =>
      obtain ⟨rfl, rfl⟩ := here
      rw [cell?_cursor, held, harmless.resolve_left dead]
    case isFalse => rfl

/-! ### What is drawn behind a frame -/

/-- Where drawing leaves the cursor: behind the prompt, behind a message and behind the eraser of one. -/
def drawnEnds : List (Nat × Nat) :=
  [(29, 49), (28, 46), (28, 48)]

/-- No frame draws there. -/
theorem not_live_of_drawnEnds (visible : Bool) :
    ∀ place ∈ drawnEnds, ¬∃ a ∈ liveAreas visible, a.Has place.1 place.2 := by
  cases visible <;> decide +kernel

/-- The row and column of the cursor of the terminal. -/
def cursorPlace (c : Console) : Nat × Nat :=
  (c.session.grid.row.val, c.session.grid.col.val)

/-- A console whose message and whose captured line can be drawn in the slot for messages. -/
structure Legible (c : Console) : Prop where
  message : MessageFits c.message
  captured : ∀ glyph ∈ c.session.captured, Plain (encodeChar glyph)

/-- What commands and announcements do to a screen: they draw nothing, or the cursor is left behind what they
drew. The captured line stays, and a message that they show fits. -/
structure DrawnOn (c d : Console) : Prop where
  grid : d.session.grid = c.session.grid ∧ d.panels.asciiVisible = c.panels.asciiVisible ∨ d.cursorPlace ∈ drawnEnds
  message : d.message = c.message ∨ MessageFits d.message
  captured : d.session.captured = c.session.captured

theorem DrawnOn.refl (c : Console) : DrawnOn c c :=
  ⟨.inl ⟨rfl, rfl⟩, .inl rfl, rfl⟩

theorem DrawnOn.trans {e : Console} (first : DrawnOn c d) (second : DrawnOn d e) : DrawnOn c e where
  grid := by
    rcases second.grid with ⟨same, visible⟩ | left
    · rcases first.grid with ⟨same', visible'⟩ | left
      · exact .inl ⟨same.trans same', visible.trans visible'⟩
      · rw [cursorPlace, ← same] at left
        exact .inr left
    · exact .inr left
  message := by
    rcases second.message with same | fits
    · rw [same]
      exact first.message
    · exact .inr fits
  captured := second.captured.trans first.captured

theorem Legible.drawnOn (legible : c.Legible) (drawn : DrawnOn c d) : d.Legible where
  message := by
    rcases drawn.message with same | fits
    · rw [same]
      exact legible.message
    · exact fits
  captured := by
    rw [drawn.captured]
    exact legible.captured

/-- Afterwards a frame draws the cell under the cursor if and only if nothing was drawn and it did before. -/
theorem DrawnOn.cursorLive_iff (drawn : DrawnOn c d) :
    d.CursorLive ↔ d.session.grid = c.session.grid ∧ c.CursorLive := by
  rcases drawn.grid with ⟨same, visible⟩ | left
  · rw [CursorLive, CursorLive, same, visible, and_iff_right rfl]
  · have dead (visible : Bool) := not_live_of_drawnEnds visible _ left
    constructor
    · intro live
      exact absurd live (dead _)
    · rintro ⟨same, live⟩
      rw [cursorPlace, same] at dead
      exact absurd live (dead _)

/-! ### Drawing -/

private theorem place_of_cursor {g : Grid} (cursor : g.cursor.val = row * width + col)
    (inside : row < height ∧ col < width) :
    (g.row.val, g.col.val) = (row, col) := by
  obtain ⟨here, here'⟩ := (place_eq_iff inside).mp cursor.symm
  rw [← here, ← here']

/-- Text leaves the cursor behind it. -/
theorem cursorPlace_writeAt (c : Console) {text : String} (plain : PlainText text) (inside : row < height)
    (room : col + text.length < width) :
    (c.writeAt row col text).cursorPlace = (row, col + text.length) := by
  have onScreen : row < height ∧ col < width := ⟨inside, by omega⟩
  have start := c.session.grid.cursor_placeCaret onScreen
  simp only [height, width] at inside room
  have space : row * width + col + text.length < size := by
    simp only [size, height, width]
    omega
  apply place_of_cursor
  · change ((c.session.grid.placeCaret (some col) (some row)).putAll (encode text)).cursor.val = _
    rw [cursor_putAll plain.encode, start, length_encode]
    omega
  · exact ⟨inside, room⟩

theorem cursorPlace_redraw (c : Console) : c.redraw.cursorPlace = (29, 49) := by
  have plain : PlainText prompt := by decide
  have length : prompt.length = 49 := by decide
  have place (d : Console) := @cursorPlace_writeAt 29 0 d prompt plain (by decide) (by rw [length]; decide)
  rw [length] at place
  exact place _

/-- Text in the slot for messages starts where a message of a given length does, and leaves the cursor behind it. -/
theorem cursorPlace_writeAt_message (c : Console) {text : String} {n : Nat} (short : n ≤ 24) (plain : PlainText text)
    (room : 46 - n + text.length < width) :
    (c.writeAt messageRow (messageEnd - n) text).cursorPlace = (28, 46 - n + text.length) := by
  have column : messageEnd - n = ((46 - n : Nat) : Int) := by
    rw [messageEnd]
    omega
  rw [column]
  exact @cursorPlace_writeAt 28 (46 - n) c text plain (by decide) room

/-- After a redraw it does not matter what the panels were. -/
theorem drawnOn_redraw (message : d.message = c.message) (captured : d.session.captured = c.session.captured) :
    DrawnOn c d.redraw where
  grid := by
    rw [cursorPlace_redraw]
    exact .inr (by decide)
  message := by
    rw [redraw_eq]
    exact .inl message
  captured := by
    obtain ⟨_, _, _, _, _, same⟩ := redrawn_redraw d
    rw [same]
    exact captured

private theorem drawnOn_clearMessage (fits : MessageFits c.message) : DrawnOn c c.clearMessage := by
  obtain ⟨_, same⟩ := c.clearMessage_drawn
  have cleared : c.clearMessage.message = none := c.message_clearMessage
  refine ⟨?_, .inr ?_, by rw [same]⟩
  · cases present : c.message with
    | none =>
      left
      simp only [clearMessage, present, and_self]
    | some old =>
      have short : old.length ≤ 24 := (fits old present).short
      have length : (Text.spaces (old.length + 2)).length = old.length + 2 := by
        rw [Text.spaces, String.length_ofList, List.length_replicate]
      have left := c.cursorPlace_writeAt_message short (plainText_spaces (old.length + 2))
        (by rw [length]; simp only [width]; omega)
      have bare (d : Console) : { d with message := none }.cursorPlace = d.cursorPlace := rfl
      right
      simp only [clearMessage, present, bare]
      rw [left, length, ← Nat.add_assoc, Nat.sub_add_cancel (by omega)]
      decide
  · rw [cleared]
    exact fun _ member => absurd member (Option.not_mem_none _)

theorem drawnOn_showMessage (c : Console) {text : String} (fits : Fits text) : DrawnOn c (c.showMessage text) := by
  obtain ⟨_, same⟩ := c.showMessage_drawn text
  have shown : (c.showMessage text).message = some text := rfl
  refine ⟨.inr ?_, .inr ?_, by rw [same]⟩
  · have short : text.length ≤ 24 := fits.short
    have left (d : Console) := d.cursorPlace_writeAt_message short fits.plain (by simp only [width]; omega)
    have bare (d : Console) : { d with message := some text }.cursorPlace = d.cursorPlace := rfl
    simp only [showMessage, bare]
    rw [left, Nat.sub_add_cancel (by omega)]
    decide
  · rw [shown]
    intro other member
    rw [← Option.some.inj member]
    exact fits

/-- What draws nothing at all. -/
theorem DrawnOn.of_session (session : d.session = c.session)
    (visible : d.panels.asciiVisible = c.panels.asciiVisible) (message : d.message = c.message) : DrawnOn c d :=
  ⟨.inl ⟨by rw [session], visible⟩, .inl message, by rw [session]⟩

theorem drawnOn_mapFocused (c : Console) (f : DataGrid → DataGrid) : DrawnOn c (c.mapFocused f) :=
  .of_session rfl (c.asciiVisible_mapFocused f) rfl

theorem drawnOn_enter (c : Console) (focus : Focus) : DrawnOn c (c.enter focus) :=
  drawnOn_redraw rfl rfl

/-! ### Commands -/

private theorem drawnOn_toggleRun (fits : MessageFits c.message) : DrawnOn c c.toggleRun := by
  have left : DrawnOn c (if c.focus = .addressInput then c.enter .memory else c) := by
    split
    · exact drawnOn_enter c .memory
    · exact .refl c
  have still : MessageFits (if c.focus = .addressInput then c.enter .memory else c).message := by
    rcases left.message with same | fits
    · rw [same]
      exact fits
    · exact fits
  have stopped := left.trans (drawnOn_clearMessage still)
  exact stopped.trans (.of_session rfl rfl rfl)

private theorem drawnOn_toggleAddressInput (c : Console) : DrawnOn c c.toggleAddressInput := by
  unfold toggleAddressInput
  split
  · exact drawnOn_enter c .memory
  · have stopped : DrawnOn c { c with machine := c.machine.setRunning false } := .of_session rfl rfl rfl
    exact stopped.trans (drawnOn_enter _ .addressInput)

/-- Another machine and a message. -/
theorem drawnOn_report (c : Console) (machine : Machine) {text : String} (fits : Fits text) :
    DrawnOn c ({ c with machine }.showMessage text) := by
  have changed : DrawnOn c { c with machine } := .of_session rfl rfl rfl
  exact changed.trans (drawnOn_showMessage _ fits)

private theorem drawnOn_go (c : Console) : DrawnOn c c.go := by
  unfold go
  split
  · exact drawnOn_report c _ ⟨by decide, by decide⟩
  · exact .refl c

private theorem drawnOn_toggleBreakpoint (c : Console) : DrawnOn c c.toggleBreakpoint := by
  unfold toggleBreakpoint
  split
  · split
    · exact drawnOn_report c _ ⟨by decide, by decide⟩
    · exact drawnOn_report c _ ⟨by decide, by decide⟩
  · exact .refl c

private theorem drawnOn_move (c : Console) (direction : Direction) : DrawnOn c (c.move direction) := by
  unfold move
  split
  · exact drawnOn_mapFocused c _
  · split
    · exact drawnOn_enter c _
    · exact drawnOn_enter c _
    · exact .of_session rfl rfl rfl
    · split
      · exact .of_session rfl rfl rfl
      · exact .refl c
    · exact .refl c

theorem drawnOn_run (fits : MessageFits c.message) (command : Command) : DrawnOn c (c.run command) := by
  cases command with
  | switchMemory => exact drawnOn_redraw rfl rfl
  | toggleRun => exact drawnOn_toggleRun fits
  | toggleAddressInput => exact drawnOn_toggleAddressInput c
  | go => exact drawnOn_go c
  | toggleBreakpoint => exact drawnOn_toggleBreakpoint c
  | reset => exact .of_session rfl rfl rfl
  | wipe => exact .of_session rfl rfl rfl
  | toggleAscii => exact drawnOn_redraw rfl rfl
  | move direction => exact drawnOn_move c direction
  | cycleFocus => exact drawnOn_enter c _
  | step => exact .of_session rfl rfl rfl
  | faster => exact .of_session rfl rfl rfl
  | slower => exact .of_session rfl rfl rfl
  | digit value => exact .of_session rfl rfl rfl

private theorem drawnOn_dispatch (fits : MessageFits c.message) (key : UInt8) : DrawnOn c (c.dispatch key) := by
  have cancelled : DrawnOn c { c with edit := c.edit.cancel } := .of_session rfl rfl rfl
  unfold dispatch
  split
  · exact drawnOn_run fits _
  · exact cancelled.trans (@drawnOn_run { c with edit := c.edit.cancel } fits _)
  · exact cancelled

private theorem drawnOn_commitDigit (c : Console) (digit : Fin 16) : DrawnOn c (c.commitDigit digit) := by
  have written (edit : Edit) (caret : Coord) (target : EditTarget) (value : UInt8) :
      DrawnOn c { ({ c with edit }.writeTarget target value) with caret } := by
    cases target <;> exact .of_session rfl rfl rfl
  unfold commitDigit
  split
  · exact .refl c
  · dsimp only
    split
    · exact (written _ _ _ _).trans (drawnOn_mapFocused _ _)
    · exact written _ _ _ _

/-! ### Frames and clock polls -/

/-- Drawing the picture of a frame leaves messages and captured lines alone. -/
theorem legible_paint (legible : c.Legible) (time : Float) : (c.paint.render time).Legible := by
  obtain ⟨_, drawn⟩ := c.refresh.pointAtCursor.drawFrame_drawn
  obtain ⟨_, _, _, rendered⟩ := c.paint.render_drawn time
  rw [rendered, paint, drawn]
  exact ⟨legible.message, legible.captured⟩

/-- A captured line is cut so that it fits as a message. -/
theorem fits_captured (legible : c.Legible) :
    Fits (String.ofList (c.session.captured.reverse.take lineMessageWidth)) where
  plain := by
    apply TextOf.ofList
    intro glyph member
    exact legible.captured glyph (List.mem_reverse.mp (List.mem_of_mem_take member))
  short := by
    rw [String.length_ofList]
    exact List.length_take_le _ _

private theorem drawnOn_showLine (legible : c.Legible) : DrawnOn c c.showLine := by
  unfold showLine Session.readLine
  cases c.session.lineReady with
  | false => exact .refl c
  | true =>
    have read : DrawnOn c { c with session := { c.session with lineReady := false } } :=
      ⟨.inl ⟨rfl, rfl⟩, .inl rfl, rfl⟩
    have shown := read.trans (drawnOn_showMessage _ (fits_captured legible))
    simp only [↓reduceIte, String.toList_ofList]
    exact shown

private theorem drawnOn_ready (legible : c.Legible) (time : Float) : DrawnOn (c.paint.render time) (c.ready time) := by
  have shown := drawnOn_showLine (legible_paint legible time)
  have taken : DrawnOn (c.shown time) (c.ready time) := ⟨.inl ⟨rfl, rfl⟩, .inl rfl, rfl⟩
  exact shown.trans taken

/-- Behind its picture a frame shows a captured line and runs a command. -/
theorem drawnOn_tick (poised : c.Poised) (legible : c.Legible) (time : Float) :
    DrawnOn (c.paint.render time) (c.tick time) := by
  have ready := drawnOn_ready legible time
  cases waits : c.session.pending with
  | none =>
    rw [tick_of_idle poised waits]
    exact ready
  | some key =>
    by_cases digit : ∃ value, key ∈ Command.digitKeys value
    · obtain ⟨value, digit⟩ := digit
      rw [tick_of_digit poised waits digit]
      exact ready.trans (drawnOn_commitDigit _ value)
    · rw [not_exists] at digit
      rw [tick_of_other poised waits digit]
      exact ready.trans (drawnOn_dispatch ((legible_paint legible time).drawnOn ready).message key)

private theorem drawnOn_clockTick (c : Console) : DrawnOn c c.clockTick := by
  have ticked (machine : Machine) (elapsedMs : Float) : DrawnOn c { c with machine, elapsedMs } :=
    .of_session rfl rfl rfl
  unfold clockTick
  dsimp only
  split
  · exact (ticked _ _).trans (drawnOn_showMessage _ ⟨by decide, by decide⟩)
  · exact ticked _ _

private theorem drawnOn_clockTicks (c : Console) (ticks : Nat) : DrawnOn c (c.clockTicks ticks) := by
  induction ticks generalizing c with
  | zero => exact .refl c
  | succ ticks ih => exact (drawnOn_clockTick c).trans (ih c.clockTick)

theorem drawnOn_runClock (c : Console) (now : Duration) : DrawnOn c (c.runClock now).2 := by
  have polled : DrawnOn c { c with clock := (c.clock.poll now).2 } := .of_session rfl rfl rfl
  exact polled.trans (drawnOn_clockTicks _ _)

/-! ### Histories -/

/-- A byte that joins a captured line is drawn as it stands. -/
theorem plain_of_joinsLine {byte : UInt8} (joins : joinsLine byte = true) : Plain (encodeChar (decode byte)) := by
  have check : ∀ entry ∈ glyphs.toList.zipIdx,
      joinsLine (UInt8.ofNat entry.2) = true → entry.1 ∉ ['\n', '\x08', '◘', '◙'] := by decide +kernel
  have member : (decode byte, byte.toNat) ∈ glyphs.toList.zipIdx := by
    rw [List.mem_zipIdx_iff_getElem?, Array.getElem?_toList]
    exact Array.getElem?_eq_getElem (index byte).isLt
  apply plain_encodeChar_iff.mpr
  apply check _ member
  rw [UInt8.ofNat_toNat]
  exact joins

theorem captured_printControl (legible : c.Legible) (code : Control) :
    ∀ glyph ∈ (c.session.printControl code).captured, Plain (encodeChar glyph) := by
  have ended : c.session.endLine.captured = c.session.captured := by
    unfold Session.endLine
    split <;> rfl
  cases code with
  | stx => exact fun _ member => absurd member List.not_mem_nil
  | lineFeed =>
    intro glyph member
    exact legible.captured glyph (ended ▸ member)
  | _ => exact legible.captured

private theorem legible_push (mute : c.session.echo = false) (legible : c.Legible) (byte : UInt8) :
    (c.push byte).Legible := by
  refine ⟨legible.message, ?_⟩
  change ∀ glyph ∈ (c.session.push byte).captured, Plain (encodeChar glyph)
  rw [c.session.push_of_mute mute]
  split
  case isFalse => exact legible.captured
  case isTrue =>
    by_cases feed : byte = Control.lineFeed.byte
    · rw [feed]
      exact captured_printControl legible .lineFeed
    · rw [c.session.captureByte_of_mute mute feed]
      split
      · exact captured_printControl legible .stx
      · split
        case isTrue joins =>
          intro glyph member
          rcases List.mem_cons.mp member with rfl | member
          · exact plain_of_joinsLine joins
          · exact legible.captured glyph member
        case isFalse => exact legible.captured

private theorem legible_after (poised : c.Poised) (legible : c.Legible) (event : Event) : (c.after event).Legible := by
  cases event with
  | push byte => exact legible_push poised.mute legible byte
  | control code => exact ⟨legible.message, captured_printControl legible code⟩
  | clock now => exact legible.drawnOn (drawnOn_runClock c now)
  | frame time => exact (legible_paint legible time).drawnOn (drawnOn_tick poised legible time)

private theorem legible_replay (poised : c.Poised) (legible : c.Legible) (history : List Event) :
    (c.replay history).Legible := by
  induction history generalizing c with
  | nil => exact legible
  | cons event rest ih => exact ih (poised_after poised event) (legible_after poised legible event)

private theorem legible_new (machine : Machine) (clock : Clock) : (Console.new machine clock).Legible := by
  have blank : MessageFits none := fun _ member => absurd member (Option.not_mem_none _)
  exact Legible.drawnOn ⟨blank, fun _ member => absurd member List.not_mem_nil⟩ (drawnOn_redraw rfl rfl)

/-! ### The caret -/

/-- Every frame draws the grid in focus. -/
theorem live_of_focused (wf : c.panels.WellFormed) {byte : UInt8}
    (shown : c.focused.picture.byte? row col = some byte) :
    ∃ a ∈ liveAreas c.panels.asciiVisible, a.Has row col := by
  rw [← isSome_live wf, ← Option.ne_none_iff_isSome]
  intro missed
  have visible : (!c.focused.picture.hidden) = true := by
    by_contra hidden
    rw [Picture.byte?_of_hidden (by simpa using hidden)] at shown
    contradiction
  have member : c.focused.picture ∈ c.panels.elements := by
    rw [Panels.elements_eq, focused_eq]
    exact List.mem_map_of_mem (c.panels.grid_mem c.focus)
  have drawn : c.focused.picture ∈ c.livePictures := List.mem_cons_of_mem _ (List.mem_filter.mpr ⟨member, visible⟩)
  rw [Picture.last?_eq_none_iff.mp missed _ drawn] at shown
  contradiction

/-- In a frame the cursor stands on the caret, on a cell that every frame draws. -/
theorem cursorLive_render (poised : c.Poised) (time : Float) : (c.paint.render time).CursorLive := by
  have editable : c.refresh.pointAtCursor.panels.Editable := editable_refresh poised.editable
  have aimed : c.refresh.pointAtCursor.Aimed := aimed_pointAtCursor poised
  have shown := byte?_aim editable c.refresh.pointAtCursor.edit.next
  have inside := inside_of_cell? (cell?_drawFrame_focused editable.wellFormed shown)
  obtain ⟨row, col⟩ := place_drawFrame aimed.caret inside
  have live := live_of_focused editable.wellFormed shown
  obtain ⟨_, same⟩ := c.paint.grid_render time
  rw [← row, ← col] at live
  rw [CursorLive, same]
  exact live

/-- Whatever happened to a console, a line feed printed between two frames leaves no mark on the next one, and an
STX leaves none if and only if that frame draws the cell under the cursor of the terminal, or the cell shows the
glyph of STX already. After a frame that draws nothing behind its picture the cursor is on such a cell, and after
any other frame it is not; clock polls that draw nothing leave it where it is, others leave it elsewhere. -/
theorem rendered_capture_keys (machine : Machine) (clock : Clock) (history : List Event) (time : Float) :
    let c := (Console.new machine clock).replay history
    (c.printControl .lineFeed).rendered time = c.rendered time ∧
      ((c.printControl .stx).rendered time = c.rendered time ↔
        c.CursorLive ∨ c.session.grid.cells[c.session.grid.cursor] = Control.stx.byte) ∧
      ((c.tick time).CursorLive ↔ (c.tick time).session.grid = (c.paint.render time).session.grid) ∧
      ∀ now, ((c.runClock now).2.CursorLive ↔ (c.runClock now).2.session.grid = c.session.grid ∧ c.CursorLive) := by
  intro c
  have poised : c.Poised := poised_replay (rested_new machine clock).poised history
  have legible : c.Legible := legible_replay (rested_new machine clock).poised (legible_new machine clock) history
  refine ⟨rendered_lineFeed poised.editable time, rendered_stx_iff poised.editable time, ?_, ?_⟩
  · rw [(drawnOn_tick poised legible time).cursorLive_iff, and_iff_left (cursorLive_render poised time)]
  · exact fun now => (drawnOn_runClock c now).cursorLive_iff

/-- The corner of the frame around the character view, behind the prompt. -/
theorem corner_chrome (space : Space) (focus : Focus) : Picture.last? (chrome space focus) 29 49 = some 0xC0 := by
  have corner : Panels.asciiFrame.picture.byte? 29 49 = some 0xC0 := by decide +kernel
  have hints : Picture.last? ((hintLabels focus).map Label.picture) 29 49 = none := by
    rw [← Option.not_isSome_iff_eq_none,
      Picture.isSome_last?_map fun l present => ⟨fills_hintLabels focus l present, rfl⟩, areas_hintLabels]
    decide
  rw [chrome, Picture.last?_append, hints, Option.none_or, framePictures, frames_new]
  simp only [List.map_cons, List.map_nil, Picture.last?, corner, Option.none_or, Option.some_or]

/-- When the key `t` has shown or hidden the character view, an STX takes the place of that corner. -/
theorem rendered_stx_ne_of_toggle (listens : c.Listens) (tidy : c.Tidy) (time time' : Float) :
    let d := c.replay [.push 0x74, .frame time]
    (d.printControl .stx).rendered time' ≠ d.rendered time' := by
  have poised := poised_push listens.poised 0x74
  have waits : (c.push 0x74).session.pending = some 0x74 := by
    rw [push_of_listens listens]
  simp only [replay, List.foldl_cons, List.foldl_nil, after]
  have after := poised_tick poised time
  have shows := (tidy_tick (tidy_push tidy 0x74) time).shows
  have toggled : ((c.push 0x74).tick time).cursorPlace = (29, 49) := by
    rw [tick_of_other poised waits (by decide)]
    exact cursorPlace_redraw _
  generalize (c.push 0x74).tick time = d at after shows toggled
  have corner (visible : Bool) : ¬∃ a ∈ liveAreas visible, a.Has 29 49 :=
    not_live_of_drawnEnds visible (29, 49) (by decide)
  have shown := shows.chrome 29 49 0xC0 (corner _) (corner_chrome _ _)
  have cell := d.session.grid.cell?_cursor
  obtain ⟨row, col⟩ := Prod.mk.inj toggled
  rw [row, col, shown, Vector.getElem?_eq_getElem d.session.grid.cursor.isLt] at cell
  rw [Ne, rendered_stx_iff after.editable, not_or, CursorLive, row, col, Fin.getElem_fin, ← Option.some.inj cell]
  exact ⟨corner _, by decide⟩

/-- The key `t`, a frame and the capture key, on a new console. -/
theorem rendered_capture_keys_toggle :
    let c := (Console.new (Machine.new 16 16 128) (Clock.new .middle 1000)).replay [.push 0x74, .frame 0.0]
    (c.printControl .stx).rendered 0.5 ≠ c.rendered 0.5 :=
  rendered_stx_ne_of_toggle (listens_new _ _) (tidy_new _ _) 0.0 0.5

end Console

end Mcs51
