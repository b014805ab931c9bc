import Mcs51.Proofs.Console.Chrome

/-! # Tidy screens

A screen is tidy if every cell outside the live rectangles already shows what a screen drawn from nothing
would show there: the frames, the hints and the prompt, between them the status message, and blanks
elsewhere. Drawing the frames again makes a screen tidy, and messages keep it so.
-/

namespace Mcs51

open Codepage Grid

namespace Console

/-- Nothing is captured or echoed, so that only the console itself draws. -/
structure Quiet (s : Session) : Prop where
  capturing : s.capturing = false
  lineReady : s.lineReady = false
  echo : s.echo = false

theorem Quiet.draw {s : Session} (quiet : Quiet s) (pictures : List Picture) :
    Quiet (pictures.foldl Session.draw s) := by
  rw [Session.foldl_draw_eq]
  exact ⟨quiet.capturing, quiet.lineReady, quiet.echo⟩

/-! ### The invariant -/

/-- What holds even while the frames and the hints wait to be drawn again: the panels are well-formed, the
frame has the title of its memory, and outside all that is framed there is the message or nothing. -/
structure Framable (panels : Panels) (space : Space) (message : Option String) (session : Session) :
    Prop where
  wellFormed : panels.WellFormed
  frame : panels.memoryFrame = Frame.new 0 0 space.title 10 31
  fits : MessageFits message
  quiet : Quiet session
  margin : ∀ row < height, ∀ col < width, (¬∃ a ∈ chromeAreas, a.Has row col) →
    session.grid.cell? row col = some ((Picture.last? (messagePictures message) row col).getD blankByte)

/-- Every cell of the frames and the hints that is not drawn on every frame shows them. -/
structure Shows (asciiVisible : Bool) (space : Space) (focus : Focus) (session : Session) : Prop where
  chrome : ∀ row col byte, (¬∃ a ∈ liveAreas asciiVisible, a.Has row col) →
    Picture.last? (chrome space focus) row col = some byte → session.grid.cell? row col = some byte

/-- A console whose screen needs nothing but the panels to be drawn. -/
structure Tidy (c : Console) : Prop where
  framable : Framable c.panels c.space c.message c.session
  shows : Shows c.panels.asciiVisible c.space c.focus c.session

variable {c : Console} {panels : Panels} {space : Space} {message : Option String} {focus : Focus}
  {s t : Session}
  {visible : Bool}

theorem Framable.of_cells (framable : Framable panels space message s) (cells : t.grid.cells = s.grid.cells)
    (quiet : Quiet t) : Framable panels space message t where
  wellFormed := framable.wellFormed
  frame := framable.frame
  fits := framable.fits
  quiet := quiet
  margin row inside col inside' outside := by
    rw [cell?_congr cells]
    exact framable.margin row inside col inside' outside

theorem Shows.of_cells (shows : Shows visible space focus s) (cells : t.grid.cells = s.grid.cells) :
    Shows visible space focus t where
  chrome row col byte dead covered := by
    rw [cell?_congr cells]
    exact shows.chrome row col byte dead covered

/-- Only the cells of the screen matter. -/
theorem Tidy.of_cells (tidy : c.Tidy) (cells : s.grid.cells = c.session.grid.cells) (quiet : Quiet s) :
    { c with session := s }.Tidy :=
  ⟨tidy.framable.of_cells cells quiet, tidy.shows.of_cells cells⟩

/-- Panels may be replaced by well-formed ones with the same frame and the same view. -/
theorem Framable.of_panels (framable : Framable panels space message s) {p : Panels}
    (wellFormed : p.WellFormed)
    (frame : p.memoryFrame = panels.memoryFrame) : Framable p space message s where
  wellFormed := wellFormed
  frame := frame.trans framable.frame
  fits := framable.fits
  quiet := framable.quiet
  margin := framable.margin

/-- Drawing inside the frames and the hints keeps the margin. -/
theorem Framable.draw (framable : Framable panels space message s) {pictures : List Picture}
    (fill : Picture.AllFill pictures)
    (within : ∀ row col, (Picture.last? pictures row col).isSome → ∃ a ∈ chromeAreas, a.Has row col) :
    Framable panels space message (pictures.foldl Session.draw s) where
  wellFormed := framable.wellFormed
  frame := framable.frame
  fits := framable.fits
  quiet := framable.quiet.draw pictures
  margin row inside col inside' outside := by
    have missed : Picture.last? pictures row col = none := by
      rw [← Option.not_isSome_iff_eq_none]
      exact fun covered => outside (within row col covered)
    rw [fill.cell?_draw, missed, Option.none_or]
    exact framable.margin row inside col inside' outside

theorem Tidy.of_panels (tidy : c.Tidy) {p : Panels} (wellFormed : p.WellFormed)
    (frame : p.memoryFrame = c.panels.memoryFrame) (same : p.asciiVisible = c.panels.asciiVisible) :
    { c with panels := p }.Tidy where
  framable := tidy.framable.of_panels wellFormed frame
  shows := by
    change Shows p.asciiVisible c.space c.focus c.session
    rw [same]
    exact tidy.shows

/-! ### Drawing what stays -/

/-- Drawing frames and hints again is drawing the pictures of the frames and the labels. -/
theorem redraw_eq (c : Console) :
    c.redraw =
      { c with
        session := (c.panels.frames.map Frame.picture ++ (hintLabels c.focus).map Label.picture).foldl
          Session.draw c.session } := by
  rw [List.foldl_append]
  obtain ⟨_, _, _, _, focus, _, _, _, _, _, _, _, _, _⟩ := c
  cases focus <;> rfl

private theorem redraw_eq_chrome (framable : Framable c.panels c.space c.message c.session) :
    c.redraw = { c with session := (chrome c.space c.focus).foldl Session.draw c.session } := by
  have frames : c.panels.frames = (Panels.new c.space.title).frames := by
    rw [Panels.frames, framable.frame]
    rfl
  rw [redraw_eq, frames, chrome, framePictures]

/-- After a redraw the screen is tidy. -/
theorem tidy_redraw (framable : Framable c.panels c.space c.message c.session) : c.redraw.Tidy := by
  have draws := allFill_chrome c.space c.focus
  have kept := framable.draw draws fun _ _ covered => (isSome_chrome c.space c.focus).mp covered
  have drawn := draws.cell?_draw c.session
  rw [redraw_eq_chrome framable]
  generalize (chrome c.space c.focus).foldl Session.draw c.session = s at kept drawn
  refine ⟨kept, ⟨fun row col byte _ covered => ?_⟩⟩
  rw [drawn, covered, Option.some_or]

/-! ### The status message -/

/-- The blanks that erase a message and the mark behind it. -/
def eraser (old : String) : Label :=
  ⟨28, 46 - old.length, Text.spaces (old.length + 2)⟩

private theorem clearMessage_eq {old : String} (fits : Fits old) (present : c.message = some old) :
    c.clearMessage = { c with session := c.session.draw (eraser old).picture, message := none } := by
  have short : old.length ≤ 24 := fits.short
  have place : messageEnd - old.length = ((46 - old.length : Nat) : Int) := by
    rw [messageEnd]
    omega
  rw [clearMessage, present]
  dsimp only
  rw [place]
  rfl

/-- The eraser covers the message, and nothing outside the slot. -/
theorem last?_message_of_erased {old : String} (fits : Fits old) {row col : Nat}
    (kept : ¬(eraser old).area.Has row col) :
    Picture.last? (messagePictures (some old)) row col = none := by
  have fills := @fills_messageLabels (some old) fun text same => Option.some.inj same ▸ fits
  have short : old.length ≤ 24 := fits.short
  rw [← Option.not_isSome_iff_eq_none, messagePictures,
    Picture.isSome_last?_map fun l present => ⟨(fills l present).1, rfl⟩]
  rintro ⟨a, member, has⟩
  apply kept
  have width : (Text.spaces (old.length + 2)).length = old.length + 2 := by
    rw [Text.spaces, String.length_ofList, List.length_replicate]
  simp only [messageLabels, List.map_cons, List.map_nil, List.mem_cons, List.not_mem_nil, or_false] at member
  simp only [eraser, Label.area, Area.Has, width]
  rcases member with rfl | rfl
  · have mark : "<".length = 1 := by decide
    simp only [Label.area, Area.Has, mark] at has
    omega
  · simp only [Label.area, Area.Has] at has
    omega

theorem eraser_within {old : String} (fits : Fits old) : (eraser old).area.Within messageSlot := by
  have short : old.length ≤ 24 := fits.short
  have width : (Text.spaces (old.length + 2)).length = old.length + 2 := by
    rw [Text.spaces, String.length_ofList, List.length_replicate]
  simp only [eraser, Label.area, messageSlot, Area.Within, width]
  omega

private theorem fills_eraser {old : String} (fits : Fits old) :
    (eraser old).picture.Fills (eraser old).area := by
  apply Label.fills_area (plainText_spaces _)
  have within := eraser_within fits
  simp only [messageSlot, Area.Within, Area.OnScreen, height, width] at within ⊢
  omega

private theorem blank_of_eraser {old : String} {row col : Nat} {byte : UInt8}
    (found : (eraser old).picture.byte? row col = some byte) : byte = blankByte := by
  obtain ⟨line, member, other, inside, rfl⟩ := Picture.exists_of_byte? found
  rw [List.mem_singleton.mp member] at inside
  obtain ⟨c, present, rfl⟩ := List.mem_map.mp inside
  rw [eraser, Text.spaces, String.toList_ofList] at present
  rw [List.eq_of_mem_replicate present]
  decide

/-- Erasing the message leaves blanks in its slot and touches nothing else. -/
theorem tidy_clearMessage (tidy : c.Tidy) : c.clearMessage.Tidy := by
  cases present : c.message with
  | none =>
    rw [clearMessage, present]
    exact tidy
  | some old =>
    have framable := tidy.framable
    rw [present] at framable
    have fits : Fits old := framable.fits old rfl
    have fills := fills_eraser fits
    have drawn := fills.cell?_draw c.session
    have quiet := framable.quiet.draw [(eraser old).picture]
    have erased (row col : Nat) :
        ((eraser old).picture.byte? row col).isSome ↔ (eraser old).area.Has row col :=
      fills.isSome_byte? rfl
    rw [clearMessage_eq fits present]
    rw [List.foldl_cons, List.foldl_nil] at quiet
    generalize c.session.draw (eraser old).picture = s at drawn quiet
    constructor
    · refine ⟨framable.wellFormed, framable.frame, fun _ member => (Option.not_mem_none _ member).elim,
        quiet, ?_⟩
      intro row inside col inside' outside
      rw [drawn, messagePictures, messageLabels, List.map_nil, Picture.last?, Option.getD_none]
      cases found : (eraser old).picture.byte? row col with
      | some byte => rw [Option.some_or, blank_of_eraser found]
      | none =>
        have kept : ¬(eraser old).area.Has row col := by
          rw [← erased, found]
          decide
        rw [Option.none_or, framable.margin row inside col inside' outside,
          last?_message_of_erased fits kept, Option.getD_none]
    · constructor
      intro row col byte dead covered
      have framed : ∃ a ∈ chromeAreas, a.Has row col := by
        rw [← isSome_chrome c.space c.focus, covered]
        rfl
      have missed : (eraser old).picture.byte? row col = none := by
        rw [← Option.not_isSome_iff_eq_none, erased]
        intro has
        obtain ⟨a, member, inside⟩ := framed
        exact (has.mono (eraser_within fits)).not_of_apart (messageSlot_apart a member) inside
      rw [drawn, missed, Option.none_or]
      exact tidy.shows.chrome row col byte dead covered

theorem message_clearMessage (c : Console) : c.clearMessage.message = none := by
  unfold clearMessage
  split
  · assumption
  · rfl

private theorem showMessage_eq {text : String} (fits : Fits text) :
    c.showMessage text =
      { c.clearMessage with
        session := (messagePictures (some text)).foldl Session.draw c.clearMessage.session
        message := some text } := by
  have short : text.length ≤ 24 := fits.short
  have place : messageEnd - text.length = ((46 - text.length : Nat) : Int) := by
    rw [messageEnd]
    omega
  have row : messageRow = ((28 : Nat) : Int) := rfl
  have mark : messageEnd + 1 = ((47 : Nat) : Int) := rfl
  simp only [showMessage, place, row, mark, messagePictures, messageLabels, List.map_cons, List.map_nil,
    List.foldl_cons, List.foldl_nil, Label.draw_picture, writeAt]

/-- A message is drawn into blanks, outside all that stays. -/
theorem tidy_showMessage (tidy : c.Tidy) {text : String} (fits : Fits text) :
    (c.showMessage text).Tidy := by
  have cleared := tidy_clearMessage tidy
  have empty := c.message_clearMessage
  have shown : MessageFits (some text) := fun other same => Option.some.inj same ▸ fits
  have drawn := (allFill_message shown).cell?_draw c.clearMessage.session
  have quiet := cleared.framable.quiet.draw (messagePictures (some text))
  have margin := cleared.framable.margin
  rw [empty] at margin
  rw [showMessage_eq fits]
  generalize (messagePictures (some text)).foldl Session.draw c.clearMessage.session = s at drawn quiet
  constructor
  · refine ⟨cleared.framable.wellFormed, cleared.framable.frame, shown, quiet, ?_⟩
    intro row inside col inside' outside
    rw [drawn, margin row inside col inside' outside]
    cases Picture.last? (messagePictures (some text)) row col with
    | none => rfl
    | some byte => rfl
  · constructor
    intro row col byte dead covered
    have framed : ∃ a ∈ chromeAreas, a.Has row col := by
      rw [← isSome_chrome c.clearMessage.space c.clearMessage.focus, covered]
      rfl
    rw [drawn, message_of_chrome shown framed, Option.none_or]
    exact cleared.shows.chrome row col byte dead covered

end Console

end Mcs51
