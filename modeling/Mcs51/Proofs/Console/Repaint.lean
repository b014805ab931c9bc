import Mcs51.Proofs.Console.Tidy

/-! # The screen has no history

The frames, the hints and the message are drawn when they change, the panels on every frame, always over
what was there. Every command and every event keeps the screen tidy, so a painted frame equals a screen
drawn from nothing (`cells_paint_replay`): no cell keeps residue of an earlier message, title, view or
focus.
-/

namespace Mcs51

open Codepage Grid

namespace Console

variable {c : Console}

/-! ### Focus and cursor -/

/-- Giving a grid another cursor keeps the panels well-formed. -/
theorem wellFormed_mapFocused (c : Console) (wf : c.panels.WellFormed) {f : DataGrid → DataGrid}
    (keeps : ∀ g, (f g).layout = g.layout) : (c.mapFocused f).panels.WellFormed := by
  unfold mapFocused
  cases c.focus with
  | memory => exact wf.of_same (by simp only [Panels.layouts, Panels.grids, List.map_cons, keeps]) rfl rfl rfl
  | registers => exact wf.of_same (by simp only [Panels.layouts, Panels.grids, List.map_cons, keeps]) rfl rfl rfl
  | dataPointer => exact wf.of_same (by simp only [Panels.layouts, Panels.grids, List.map_cons, keeps]) rfl rfl rfl
  | addressInput => exact wf.of_same (by simp only [Panels.layouts, Panels.grids, List.map_cons, keeps]) rfl rfl rfl

theorem frame_mapFocused (c : Console) (f : DataGrid → DataGrid) :
    (c.mapFocused f).panels.memoryFrame = c.panels.memoryFrame := by
  unfold mapFocused
  cases c.focus <;> rfl

theorem asciiVisible_mapFocused (c : Console) (f : DataGrid → DataGrid) :
    (c.mapFocused f).panels.asciiVisible = c.panels.asciiVisible := by
  unfold mapFocused
  cases c.focus <;> rfl

private theorem tidy_mapFocused (tidy : c.Tidy) {f : DataGrid → DataGrid} (keeps : ∀ g, (f g).layout = g.layout) :
    (c.mapFocused f).Tidy :=
  tidy.of_panels (c.wellFormed_mapFocused tidy.framable.wellFormed keeps) (c.frame_mapFocused f)
    (c.asciiVisible_mapFocused f)

theorem tidy_moveFocused (tidy : c.Tidy) (direction : Direction) : (c.moveFocused direction).Tidy :=
  tidy_mapFocused tidy fun g => g.layout_moveCursor direction

/-- Whatever has the focus, entering a part of the screen draws its hints. -/
theorem tidy_enter (tidy : c.Tidy) (focus : Focus) : (c.enter focus).Tidy := by
  let entered := { c with focus }.mapFocused DataGrid.resetCursor
  have wf : entered.panels.WellFormed :=
    wellFormed_mapFocused { c with focus } tidy.framable.wellFormed DataGrid.layout_resetCursor
  have frame : entered.panels.memoryFrame = c.panels.memoryFrame := frame_mapFocused { c with focus } _
  have framable : Framable entered.panels c.space c.message c.session :=
    tidy.framable.of_panels wf frame
  exact @tidy_redraw { entered with edit := entered.edit.restart } framable

/-! ### Commands -/

private theorem tidy_switchMemory (tidy : c.Tidy) : c.switchMemory.Tidy := by
  apply tidy_redraw
  have framable := tidy.framable
  refine ⟨framable.wellFormed.of_same rfl rfl rfl rfl, ?_, framable.fits, framable.quiet, framable.margin⟩
  change c.panels.memoryFrame.setTitle c.space.next.title = _
  rw [framable.frame, Frame.setTitle_new]

private theorem tidy_toggleRun (tidy : c.Tidy) : c.toggleRun.Tidy := by
  have left : (if c.focus = .addressInput then c.enter .memory else c).Tidy := by
    split
    · exact tidy_enter tidy .memory
    · exact tidy
  have cleared := tidy_clearMessage left
  exact ⟨cleared.framable, cleared.shows⟩

private theorem tidy_toggleAddressInput (tidy : c.Tidy) : c.toggleAddressInput.Tidy := by
  unfold toggleAddressInput
  split
  · exact tidy_enter tidy .memory
  · exact @tidy_enter { c with machine := c.machine.setRunning false } ⟨tidy.framable, tidy.shows⟩ .addressInput

private theorem tidy_go (tidy : c.Tidy) : c.go.Tidy := by
  unfold go
  split
  · exact @tidy_showMessage { c with machine := c.machine.setPc c.address } ⟨tidy.framable, tidy.shows⟩ _
      ⟨by decide, by decide⟩
  · exact tidy

private theorem tidy_toggleBreakpoint (tidy : c.Tidy) : c.toggleBreakpoint.Tidy := by
  have shown (m : Machine) {text : String} (fits : Fits text) :
      ({ c with machine := m }.showMessage text).Tidy :=
    @tidy_showMessage { c with machine := m } ⟨tidy.framable, tidy.shows⟩ text fits
  unfold toggleBreakpoint
  split
  · split
    · exact shown _ ⟨by decide, by decide⟩
    · exact shown _ ⟨by decide, by decide⟩
  · exact tidy

theorem tidy_reset (tidy : c.Tidy) (wipe : Bool) : (c.reset wipe).Tidy := by
  cases wipe with
  | false => exact ⟨tidy.framable, tidy.shows⟩
  | true =>
    have wiped := tidy.of_panels tidy.framable.wellFormed.wipe rfl rfl
    exact ⟨wiped.framable, wiped.shows⟩

private theorem tidy_toggleAscii (tidy : c.Tidy) : c.toggleAscii.Tidy := by
  apply tidy_redraw
  exact tidy.framable.of_panels (tidy.framable.wellFormed.setAsciiHidden _) rfl

private theorem tidy_move (tidy : c.Tidy) (direction : Direction) : (c.move direction).Tidy := by
  unfold move
  split
  · exact tidy_moveFocused tidy direction
  · split
    · exact tidy_enter tidy _
    · exact tidy_enter tidy _
    · exact ⟨tidy.framable, tidy.shows⟩
    · split
      · exact ⟨tidy.framable, tidy.shows⟩
      · exact tidy
    · exact tidy

/-- Every command leaves the screen tidy. -/
theorem tidy_run (tidy : c.Tidy) (command : Command) : (c.run command).Tidy := by
  cases command with
  | switchMemory => exact tidy_switchMemory tidy
  | toggleRun => exact tidy_toggleRun tidy
  | toggleAddressInput => exact tidy_toggleAddressInput tidy
  | go => exact tidy_go tidy
  | toggleBreakpoint => exact tidy_toggleBreakpoint tidy
  | step => exact ⟨tidy.framable, tidy.shows⟩
  | faster => exact ⟨tidy.framable, tidy.shows⟩
  | slower => exact ⟨tidy.framable, tidy.shows⟩
  | reset => exact tidy_reset tidy false
  | wipe => exact tidy_reset tidy true
  | toggleAscii => exact tidy_toggleAscii tidy
  | move direction => exact tidy_move tidy direction
  | cycleFocus => exact tidy_enter tidy _
  | digit value => exact ⟨tidy.framable, tidy.shows⟩

private theorem tidy_dispatch (tidy : c.Tidy) (byte : UInt8) : (c.dispatch byte).Tidy := by
  have cancelled : { c with edit := c.edit.cancel }.Tidy := ⟨tidy.framable, tidy.shows⟩
  unfold dispatch
  split
  · exact tidy_run tidy _
  · exact tidy_run cancelled _
  · exact cancelled

/-! ### Editing -/

/-- Writing a byte changes a panel at most where the data pointer is shown. -/
theorem tidy_writeTarget (tidy : c.Tidy) (target : EditTarget) (value : UInt8) :
    (c.writeTarget target value).Tidy := by
  cases target with
  | memory space addr => exact ⟨tidy.framable, tidy.shows⟩
  | register index => exact ⟨tidy.framable, tidy.shows⟩
  | addressInput half => exact ⟨tidy.framable, tidy.shows⟩
  | dataPointer half =>
    let live := c.panels.dataPointer.live.set 0 half value
    let p := { c.panels with dataPointer := { c.panels.dataPointer with live } }
    have layouts : p.layouts = c.panels.layouts := by
      simp only [Panels.layouts, Panels.grids, List.map_cons, p, live, DataGrid.layout_set]
    have written := tidy.of_panels (tidy.framable.wellFormed.of_same layouts rfl rfl rfl) rfl rfl
    exact ⟨written.framable, written.shows⟩

private theorem tidy_commitDigit (tidy : c.Tidy) (digit : Fin 16) : (c.commitDigit digit).Tidy := by
  unfold commitDigit
  cases c.edit.target with
  | none => exact tidy
  | some target =>
    have edited (edit : Edit) : { c with edit }.Tidy := ⟨tidy.framable, tidy.shows⟩
    have written (edit : Edit) (value : UInt8) := tidy_writeTarget (edited edit) target value
    have moved (edit : Edit) (value : UInt8) (caret : Coord) :
        { ({ c with edit }.writeTarget target value) with caret }.Tidy :=
      ⟨(written edit value).framable, (written edit value).shows⟩
    dsimp only
    split
    · exact tidy_moveFocused (moved _ _ _) .right
    · exact moved _ _ _

/-! ### Frames and events -/

private theorem tidy_showLine (tidy : c.Tidy) : c.showLine.Tidy := by
  have nothing : c.session.readLine = (none, c.session) := by
    rw [Session.readLine, tidy.framable.quiet.lineReady]
    rfl
  rw [showLine, nothing]
  exact tidy

private theorem tidy_handleInput (tidy : c.Tidy) : c.handleInput.Tidy := by
  have quiet := tidy.framable.quiet
  have taken : { c with session := c.session.take.2 }.Tidy :=
    tidy.of_cells rfl ⟨quiet.capturing, quiet.lineReady, quiet.echo⟩
  unfold handleInput
  dsimp only
  split
  · exact tidy_dispatch taken _
  · exact taken

private theorem tidy_applyQueued (tidy : c.Tidy) : c.applyQueued.Tidy := by
  have taken : { c with edit := c.edit.takeQueued.2 }.Tidy := ⟨tidy.framable, tidy.shows⟩
  unfold applyQueued
  dsimp only
  split
  · exact tidy_commitDigit taken _
  · exact taken

private theorem tidy_render (tidy : c.Tidy) (time : Float) : (c.render time).Tidy := by
  have quiet := tidy.framable.quiet
  have blink : (c.session.blink time).grid.cells = c.session.grid.cells ∧ Quiet (c.session.blink time) := by
    unfold Session.blink
    split
    · constructor
      · dsimp only
        split <;> rfl
      · exact ⟨quiet.capturing, quiet.lineReady, quiet.echo⟩
    · exact ⟨rfl, quiet⟩
  exact tidy.of_cells blink.1 ⟨blink.2.capturing, blink.2.lineReady, blink.2.echo⟩

private theorem tidy_clockTick (tidy : c.Tidy) : c.clockTick.Tidy := by
  have ticked (m : Machine) (elapsedMs : Float) : { c with machine := m, elapsedMs }.Tidy :=
    ⟨tidy.framable, tidy.shows⟩
  unfold clockTick
  dsimp only
  split
  · exact tidy_showMessage (ticked _ _) ⟨by decide, by decide⟩
  · exact ticked _ _

private theorem tidy_clockTicks (tidy : c.Tidy) (ticks : Nat) : (c.clockTicks ticks).Tidy := by
  induction ticks generalizing c with
  | zero => exact tidy
  | succ ticks ih => exact ih (tidy_clockTick tidy)

private theorem tidy_runClock (tidy : c.Tidy) (now : Duration) : (c.runClock now).2.Tidy :=
  @tidy_clockTicks { c with clock := (c.clock.poll now).2 } ⟨tidy.framable, tidy.shows⟩ _

theorem tidy_push (tidy : c.Tidy) (byte : UInt8) : (c.push byte).Tidy := by
  have quiet := tidy.framable.quiet
  have waits : c.session.push byte = { c.session with pending := some byte } := by
    simp only [Session.push, quiet.capturing, quiet.echo, Bool.false_eq_true, ↓reduceIte]
  rw [push, waits]
  exact tidy.of_cells rfl ⟨quiet.capturing, quiet.lineReady, quiet.echo⟩

/-- A line feed moves the cursor of the terminal and ends no capture, as none has begun. -/
theorem tidy_lineFeed (tidy : c.Tidy) : (c.printControl .lineFeed).Tidy := by
  have quiet := tidy.framable.quiet
  have ends : c.session.endLine = c.session := by
    rw [Session.endLine, quiet.capturing]
    rfl
  apply tidy.of_cells
  · simp only [Session.printControl, ends, Session.put, Grid.put, ↓reduceIte, Grid.cells_lineFeed]
  · simp only [Session.printControl, ends, Session.put]
    exact ⟨quiet.capturing, quiet.lineReady, quiet.echo⟩

/-! ### Painting -/

theorem drawFrame_eq (c : Console) :
    c.drawFrame =
      { c with
        session := (c.livePictures.foldl Session.draw c.session).placeCaret
          (some c.caret.col) (some c.caret.row) } := by
  rw [livePictures, List.foldl_cons, Picture.foldl_draw_visible]
  rfl

/-- The cells of a frame: what is drawn on every frame, over what was there. -/
theorem cell?_drawFrame (wf : c.panels.WellFormed) (row col : Nat) :
    c.drawFrame.session.grid.cell? row col =
      (Picture.last? c.livePictures row col).or (c.session.grid.cell? row col) := by
  have caret (s : Session) (col row : Option Int) : (s.placeCaret col row).grid.cells = s.grid.cells :=
    rfl
  rw [drawFrame_eq, ← (allFill_live wf).cell?_draw]
  exact cell?_congr (caret _ _ _) row col

private theorem tidy_drawFrame (tidy : c.Tidy) : c.drawFrame.Tidy := by
  have wf := tidy.framable.wellFormed
  have fill := allFill_live wf
  have drawn := tidy.framable.draw fill fun _ _ covered => chrome_of_live ((isSome_live wf).mp covered)
  have cell := cell?_drawFrame wf
  rw [drawFrame_eq] at cell ⊢
  generalize c.livePictures.foldl Session.draw c.session = s at drawn cell
  constructor
  · exact drawn.of_cells rfl ⟨drawn.quiet.capturing, drawn.quiet.lineReady, drawn.quiet.echo⟩
  · constructor
    intro row col byte dead covered
    have missed : Picture.last? c.livePictures row col = none := by
      rw [← Option.not_isSome_iff_eq_none, isSome_live wf]
      exact dead
    rw [cell, missed, Option.none_or]
    exact tidy.shows.chrome row col byte dead covered

theorem tidy_refresh (tidy : c.Tidy) : c.refresh.Tidy := by
  have wf := tidy.framable.wellFormed
  have advanced : (if c.lastCycles < c.machine.cycles then c.panels.advance else c.panels).WellFormed ∧
      (if c.lastCycles < c.machine.cycles then c.panels.advance else c.panels).memoryFrame = c.panels.memoryFrame ∧
      (if c.lastCycles < c.machine.cycles then c.panels.advance else c.panels).asciiVisible =
        c.panels.asciiVisible := by
    split
    · exact ⟨wf.advance, rfl, rfl⟩
    · exact ⟨wf, rfl, rfl⟩
  rw [refresh]
  generalize (if c.lastCycles < c.machine.cycles then c.panels.advance else c.panels) = p at advanced
  have filled := tidy.of_panels (c.wellFormed_refreshPanels advanced.1)
    ((c.memoryFrame_refreshPanels p).trans advanced.2.1) ((c.asciiVisible_refreshPanels p).trans advanced.2.2)
  exact ⟨filled.framable, filled.shows⟩

theorem tidy_pointAtCursor (tidy : c.Tidy) : c.pointAtCursor.Tidy :=
  ⟨tidy.framable, tidy.shows⟩

private theorem tidy_paint (tidy : c.Tidy) : c.paint.Tidy :=
  tidy_drawFrame (tidy_pointAtCursor (tidy_refresh tidy))

theorem tidy_tick (tidy : c.Tidy) (time : Float) : (c.tick time).Tidy :=
  tidy_applyQueued (tidy_handleInput (tidy_showLine (tidy_render (tidy_paint tidy) time)))

/-- A new console starts from a blank screen. -/
theorem tidy_new (machine : Machine) (clock : Clock) : (Console.new machine clock).Tidy := by
  apply tidy_redraw
  refine ⟨Panels.wellFormed_new _, rfl, fun _ member => (Option.not_mem_none _ member).elim,
    ⟨rfl, rfl, rfl⟩, ?_⟩
  intro row inside col inside' _
  exact cell?_of_blank (@cells_flush Control.nul.byte (by decide) Grid.blank) ⟨inside, inside'⟩

/-! ### Histories -/

/-- The events of a running console: of the control codes, only line feeds are printed. -/
def Event.Ordinary : Event → Prop
  | .control code => code = .lineFeed
  | _ => True

instance (event : Event) : Decidable event.Ordinary :=
  match event with
  | .control code => inferInstanceAs (Decidable (code = .lineFeed))
  | .push _ | .clock _ | .frame _ => .isTrue trivial

private theorem tidy_after (tidy : c.Tidy) {event : Event} (ordinary : event.Ordinary) :
    (c.after event).Tidy := by
  cases event with
  | push byte => exact tidy_push tidy byte
  | control code =>
    rw [show code = .lineFeed from ordinary]
    exact tidy_lineFeed tidy
  | clock now => exact tidy_runClock tidy now
  | frame time => exact tidy_tick tidy time

private theorem tidy_replay (tidy : c.Tidy) {history : List Event} (ordinary : ∀ event ∈ history, event.Ordinary) :
    (c.replay history).Tidy := by
  induction history generalizing c with
  | nil => exact tidy
  | cons event rest ih =>
    exact ih (tidy_after tidy (ordinary event (List.mem_cons_self ..)))
      (fun other member => ordinary other (List.mem_cons_of_mem _ member))

/-! ### Nothing but the present state is shown -/

/-- What a refresh writes depends on the machine, the memory, the window and the address input. -/
theorem refreshPanels_congr {c d : Console} (machine : d.machine = c.machine) (space : d.space = c.space)
    (windowBase : d.windowBase = c.windowBase) (addressBytes : d.addressBytes = c.addressBytes) :
    d.refreshPanels = c.refreshPanels := by
  obtain ⟨_, _, _, _, _, _, _, _, _, _, _, _, _, _⟩ := c
  obtain ⟨_, _, _, _, _, _, _, _, _, _, _, _, _, _⟩ := d
  dsimp only at machine space windowBase addressBytes
  subst machine space windowBase addressBytes
  rfl

private theorem freshScreen_of_session (c : Console) (s : Session) :
    { c with session := s }.freshScreen = c.freshScreen := by
  obtain ⟨_, _, _, _, _, _, _, _, _, _, _, _, _, _⟩ := c
  rfl

private theorem withTrails_refreshPanels (c : Console) (q p : Panels) :
    q.withTrails (c.refreshPanels p) = q.withTrails p := by
  simp only [Panels.withTrails, refreshPanels, Tracked.trail_setRow]

/-- Panels filled over what they held show what blank panels filled now would show. -/
theorem visible_refreshPanels {p : Panels} (wf : p.WellFormed) (panels : c.panels = c.refreshPanels p) :
    (c.panels.elements.filter fun picture => !picture.hidden) =
      c.freshPanels.elements.filter fun picture => !picture.hidden := by
  have visible : c.panels.asciiVisible = p.asciiVisible := by rw [panels, asciiVisible_refreshPanels]
  let blank := Panels.new c.space.title
  let start := { blank with ascii := blank.ascii.setHidden !p.asciiVisible }
  have wf' : start.WellFormed := (Panels.wellFormed_new c.space.title).setAsciiHidden _
  have shown : start.asciiVisible = p.asciiVisible := Bool.not_not _
  have layouts : p.layouts = start.layouts := by rw [wf.layouts, wf'.layouts, shown]
  have congruent := c.elements_refreshPanels_congr wf wf' layouts
  rw [freshPanels, visible]
  conv => rhs; rw [panels, withTrails_refreshPanels]
  rw [panels]
  exact congruent

private theorem livePictures_of_panels (c : Console) (p : Panels) :
    { c with panels := p, pointedValue := c.pointedValue }.livePictures =
      c.infoPicture :: p.elements.filter fun picture => !picture.hidden := by
  obtain ⟨_, _, _, _, _, _, _, _, _, _, _, _, _, _⟩ := c
  rfl

/-- The value shown is the one under the cursor, also after the byte was pointed at. -/
theorem pointedValue_pointAtCursor (c : Console) :
    c.pointAtCursor.pointedValue = c.pointAtCursor.readTarget c.pointAtCursor.pointed := by
  obtain ⟨_, _, _, _, focus, _, _, _, _, _, _, _, _, _⟩ := c
  cases focus <;> rfl

/-- What is drawn on a frame is what a screen drawn from nothing shows inside the frames. -/
theorem livePictures_eq_fresh (tidy : c.Tidy) :
    c.refresh.pointAtCursor.livePictures =
      { c.refresh.pointAtCursor with
        panels := c.refresh.pointAtCursor.freshPanels
        pointedValue := c.refresh.pointAtCursor.readTarget c.refresh.pointAtCursor.pointed }.livePictures := by
  have wf := tidy.framable.wellFormed
  have advanced : (if c.lastCycles < c.machine.cycles then c.panels.advance else c.panels).WellFormed := by
    split
    · exact wf.advance
    · exact wf
  have panels : c.refresh.pointAtCursor.panels =
      c.refresh.pointAtCursor.refreshPanels
        (if c.lastCycles < c.machine.cycles then c.panels.advance else c.panels) := by
    rw [@refreshPanels_congr c c.refresh.pointAtCursor rfl rfl rfl rfl]
    rfl
  have same := visible_refreshPanels advanced panels
  have value := c.refresh.pointedValue_pointAtCursor
  generalize c.refresh.pointAtCursor = d at same value
  rw [← value]
  calc d.livePictures
    _ = d.infoPicture :: d.freshPanels.elements.filter fun picture => !picture.hidden := by
        rw [livePictures, same]
    _ = _ := (livePictures_of_panels d d.freshPanels).symm

/-- A painted frame has the cells of the screen drawn from nothing. -/
theorem cells_paint (tidy : c.Tidy) :
    c.paint.session.grid.cells = c.paint.freshScreen.grid.cells := by
  have refreshed := tidy_pointAtCursor (tidy_refresh tidy)
  have live := livePictures_eq_fresh tidy
  have fresh : c.paint.freshScreen = c.refresh.pointAtCursor.freshScreen := by
    rw [paint, drawFrame_eq, freshScreen_of_session]
  rw [fresh, paint]
  generalize c.refresh.pointAtCursor = d at refreshed live
  have wf := refreshed.framable.wellFormed
  have fill : Picture.AllFill (chrome d.space d.focus ++ messagePictures d.message ++ d.livePictures) := by
    intro p member
    rcases List.mem_append.mp member with member | member
    · rcases List.mem_append.mp member with member | member
      · exact allFill_chrome d.space d.focus p member
      · exact allFill_message refreshed.framable.fits p member
    · exact allFill_live wf p member
  apply cells_eq_of_cell?
  intro row inside col inside'
  rw [cell?_drawFrame wf, freshScreen, ← live, fill.cell?_draw, Picture.last?_append,
    Picture.last?_append, Option.or_assoc]
  cases shown : Picture.last? d.livePictures row col with
  | some byte => rw [Option.some_or, Option.some_or]
  | none =>
    rw [Option.none_or, Option.none_or]
    have empty : Session.new.grid.cell? row col = some blankByte := cell?_of_blank rfl ⟨inside, inside'⟩
    cases framed : Picture.last? (chrome d.space d.focus) row col with
    | some byte =>
      have dead : ¬∃ a ∈ liveAreas d.panels.asciiVisible, a.Has row col := by
        rw [← isSome_live wf, shown]
        decide
      have covered : ∃ a ∈ chromeAreas, a.Has row col := by
        rw [← isSome_chrome d.space d.focus, framed]
        rfl
      rw [message_of_chrome refreshed.framable.fits covered, Option.none_or, Option.some_or]
      exact refreshed.shows.chrome row col byte dead framed
    | none =>
      have outside : ¬∃ a ∈ chromeAreas, a.Has row col := by
        rw [← isSome_chrome d.space d.focus, framed]
        decide
      rw [refreshed.framable.margin row inside col inside' outside, Option.or_none, empty]
      cases Picture.last? (messagePictures d.message) row col with
      | none => rfl
      | some byte => rfl

/-- The screen has no history: whatever happened before, a painted frame is the present state drawn from
nothing. -/
theorem cells_paint_replay (machine : Machine) (clock : Clock) (history : List Event)
    (ordinary : ∀ event ∈ history, event.Ordinary) :
    let c := (Console.new machine clock).replay history
    c.paint.session.grid.cells = c.paint.freshScreen.grid.cells :=
  cells_paint (tidy_replay (tidy_new machine clock) ordinary)

/-- A memory is switched, address input is entered and a breakpoint set, and the character view is shown,
over five frames. -/
theorem cells_paint_replay_of_keys :
    let history := [Event.frame 0.0, .push 0x6D, .frame 0.5, .push 0x69, .frame 1.0, .control .lineFeed,
      .push 0x70, .frame 1.5, .clock ⟨1000000⟩, .push 0x74, .frame 2.0]
    let c := (Console.new (Machine.new 16 16 128) (Clock.new .middle 1000)).replay history
    (∀ event ∈ history, event.Ordinary) ∧ c.paint.session.grid.cells = c.paint.freshScreen.grid.cells :=
  ⟨by decide, cells_paint_replay _ _ _ (by decide)⟩

end Console

end Mcs51
