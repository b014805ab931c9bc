import Mcs51.Proofs.Console.Position
import Mcs51.Proofs.Console.Repaint
import Mcs51.Proofs.Isa.Bytes

/-! # Between two digits

Whatever happens to a console, a half-typed byte stays the byte under the cursor and the caret stays on its
second digit (`Poised`). Drawing and messages touch neither (`Redrawn`), and every byte but a hex digit drops
the half-typed byte before its command moves anything (`rested_dispatch`).
-/

namespace Mcs51

namespace Console

variable {c d : Console}

/-! ### Drawing -/

/-- Consoles that differ at most in their screens and messages, which is all that drawing, blinking and
reading a captured line change. -/
def Redrawn (c d : Console) : Prop :=
  ∃ grid lineReady lastBlink screen message,
    d = { c with session := { c.session with grid, lineReady, lastBlink, screen }, message }

theorem Redrawn.refl (c : Console) : Redrawn c c :=
  ⟨_, _, _, _, _, rfl⟩

theorem Redrawn.trans {e : Console} (first : Redrawn c d) (second : Redrawn d e) : Redrawn c e := by
  obtain ⟨_, _, _, _, _, rfl⟩ := first
  obtain ⟨_, _, _, _, _, rfl⟩ := second
  exact ⟨_, _, _, _, _, rfl⟩

theorem Redrawn.position (redrawn : Redrawn c d) : d.position = c.position := by
  obtain ⟨_, _, _, _, _, rfl⟩ := redrawn
  rfl

theorem redrawn_redraw (c : Console) : Redrawn c c.redraw := by
  rw [redraw_eq, Session.foldl_draw_eq]
  exact ⟨_, _, _, _, _, rfl⟩

theorem redrawn_writeAt (c : Console) (row col : Int) (text : String) : Redrawn c (c.writeAt row col text) :=
  ⟨_, _, _, _, _, rfl⟩

theorem Redrawn.setMessage (redrawn : Redrawn c d) (message : Option String) :
    Redrawn c { d with message } := by
  obtain ⟨_, _, _, _, _, rfl⟩ := redrawn
  exact ⟨_, _, _, _, _, rfl⟩

theorem redrawn_clearMessage (c : Console) : Redrawn c c.clearMessage := by
  unfold clearMessage
  split
  · exact .refl c
  · exact (redrawn_writeAt c _ _ _).setMessage none

theorem redrawn_showMessage (c : Console) (text : String) : Redrawn c (c.showMessage text) :=
  (((redrawn_clearMessage c).trans (redrawn_writeAt _ _ _ _)).trans (redrawn_writeAt _ _ _ _)).setMessage _

theorem redrawn_drawFrame (c : Console) : Redrawn c c.drawFrame := by
  rw [drawFrame_eq, Session.foldl_draw_eq]
  exact ⟨_, _, _, _, _, rfl⟩

theorem redrawn_render (c : Console) (time : Float) : Redrawn c (c.render time) := by
  unfold render Session.tick Session.blink
  split
  · exact ⟨_, _, _, _, _, rfl⟩
  · exact ⟨_, _, _, _, _, rfl⟩

theorem redrawn_showLine (c : Console) : Redrawn c c.showLine := by
  have read : Redrawn c { c with session := c.session.readLine.2 } := by
    unfold Session.readLine
    split
    · exact ⟨_, _, _, _, _, rfl⟩
    · exact .refl c
  unfold showLine
  dsimp only
  split
  · exact read.trans (redrawn_showMessage _ _)
  · exact read

/-! ### Editable panels -/

theorem editable_mapFocused (editable : c.panels.Editable) {f : DataGrid → DataGrid}
    (keeps : ∀ g, (f g).layout = g.layout)
    (inside : ∀ g : DataGrid, g.surface.CursorInside → (f g).surface.CursorInside) :
    (c.mapFocused f).panels.Editable where
  wellFormed := c.wellFormed_mapFocused editable.wellFormed keeps
  inside focus := by
    rw [grid_mapFocused]
    split
    · exact inside _ (editable.inside focus)
    · exact editable.inside focus

theorem editable_moveFocused (editable : c.panels.Editable) (direction : Direction) :
    (c.moveFocused direction).panels.Editable :=
  editable_mapFocused editable (fun g => g.layout_moveCursor direction) fun _ inside =>
    inside.moveCursor direction

/-! ### The invariant -/

/-- The edit state points at the byte under the cursor, and the caret is on the digit that comes next. -/
structure Aimed (c : Console) : Prop where
  target : c.edit.target = some c.pointed
  caret : c.caret = ⟨(c.aim c.edit.next).col, (c.aim c.edit.next).row⟩

/-- What holds of a console between two events: nothing waits to be applied, and a half-typed byte is the
one under the cursor. -/
structure Poised (c : Console) : Prop where
  editable : c.panels.Editable
  mute : c.session.echo = false
  unqueued : c.edit.queued = none
  aimed : c.edit.next = .low → c.Aimed

/-- A poised console without a half-typed byte. -/
structure Rested (c : Console) : Prop where
  editable : c.panels.Editable
  mute : c.session.echo = false
  unqueued : c.edit.queued = none
  high : c.edit.next = .high

theorem Rested.poised (rested : c.Rested) : c.Poised where
  editable := rested.editable
  mute := rested.mute
  unqueued := rested.unqueued
  aimed low := by
    rw [rested.high] at low
    contradiction

theorem Rested.redrawn (rested : c.Rested) (redrawn : Redrawn c d) : d.Rested := by
  obtain ⟨_, _, _, _, _, rfl⟩ := redrawn
  exact ⟨rested.editable, rested.mute, rested.unqueued, rested.high⟩

theorem Aimed.redrawn (aimed : c.Aimed) (redrawn : Redrawn c d) : d.Aimed := by
  obtain ⟨_, _, _, _, _, rfl⟩ := redrawn
  exact ⟨aimed.target, aimed.caret⟩

theorem Poised.redrawn (poised : c.Poised) (redrawn : Redrawn c d) : d.Poised := by
  have aimed (low : c.edit.next = .low) := (poised.aimed low).redrawn redrawn
  obtain ⟨_, _, _, _, _, rfl⟩ := redrawn
  exact ⟨poised.editable, poised.mute, poised.unqueued, aimed⟩

end Console

/-! ### Keys -/

namespace Command

/-- The keys that type a hex digit: one for a decimal digit, a capital and a small letter for the others. -/
def digitKeys (value : Fin 16) : List UInt8 :=
  if value.val < 10 then [UInt8.ofNat (0x30 + value.val)]
  else [UInt8.ofNat (0x41 + (value.val - 10)), UInt8.ofNat (0x61 + (value.val - 10))]

/-- A key that reads as a hex digit is one of its keys. -/
theorem mem_digitKeys_of_hexValue? (key : UInt8) :
    ∀ value ∈ Text.hexValue? (Char.ofNat key.toNat), key ∈ digitKeys (Fin.ofNat 16 value) := by
  refine forall_byte
    (P := fun key => ∀ value ∈ Text.hexValue? (Char.ofNat key.toNat), key ∈ digitKeys (Fin.ofNat 16 value)) ?_ key
  decide +kernel

private theorem ofByte?_of_mem_digitKeys : ∀ value, ∀ key ∈ digitKeys value, ofByte? key = some (.digit value) := by
  decide +kernel

/-- A byte is read as a digit if and only if it is a key of that digit. -/
theorem ofByte?_eq_digit_iff {key : UInt8} {value : Fin 16} :
    ofByte? key = some (.digit value) ↔ key ∈ digitKeys value := by
  constructor
  · intro found
    unfold ofByte? at found
    split at found
    · rename_i control _
      cases control <;> cases found
    · unfold ofChar? at found
      split at found
      case h_17 =>
        obtain ⟨number, read, same⟩ := Option.map_eq_some_iff.mp found
        cases same
        exact mem_digitKeys_of_hexValue? key number read
      all_goals cases found
  · exact ofByte?_of_mem_digitKeys value key

end Command

namespace Console

variable {c d : Console}

/-! ### Commands -/

/-- Giving the focus to a grid starts anew on its first byte. -/
theorem rested_enter (editable : c.panels.Editable) (mute : c.session.echo = false) (focus : Focus) :
    (c.enter focus).Rested := by
  let entered := { c with focus }.mapFocused DataGrid.resetCursor
  have inside : entered.panels.Editable :=
    @editable_mapFocused { c with focus } editable _ DataGrid.layout_resetCursor fun _ inside =>
      inside.resetCursor
  have rested : { entered with edit := entered.edit.restart }.Rested := ⟨inside, mute, rfl, rfl⟩
  exact rested.redrawn (redrawn_redraw _)

private theorem rested_switchMemory (rested : c.Rested) : c.switchMemory.Rested := by
  have switched (panels : Panels) (editable : panels.Editable) :
      { c with space := c.space.next, panels, windowBase := 0 }.Rested :=
    ⟨editable, rested.mute, rested.unqueued, rested.high⟩
  exact (switched _ (rested.editable.setFrame _)).redrawn (redrawn_redraw _)

private theorem rested_toggleRun (rested : c.Rested) : c.toggleRun.Rested := by
  have left : (if c.focus = .addressInput then c.enter .memory else c).Rested := by
    split
    · exact rested_enter rested.editable rested.mute .memory
    · exact rested
  have cleared := left.redrawn (redrawn_clearMessage _)
  exact ⟨cleared.editable, cleared.mute, cleared.unqueued, cleared.high⟩

private theorem rested_toggleAddressInput (rested : c.Rested) : c.toggleAddressInput.Rested := by
  unfold toggleAddressInput
  split
  · exact rested_enter rested.editable rested.mute .memory
  · exact @rested_enter { c with machine := c.machine.setRunning false } rested.editable rested.mute .addressInput

/-- Another machine and a message leave a console at rest. -/
theorem rested_report (rested : c.Rested) (machine : Machine) (text : String) :
    ({ c with machine }.showMessage text).Rested := by
  have changed : { c with machine }.Rested := ⟨rested.editable, rested.mute, rested.unqueued, rested.high⟩
  exact changed.redrawn (redrawn_showMessage _ text)

private theorem rested_go (rested : c.Rested) : c.go.Rested := by
  unfold go
  split
  · exact rested_report rested _ _
  · exact rested

private theorem rested_toggleBreakpoint (rested : c.Rested) : c.toggleBreakpoint.Rested := by
  unfold toggleBreakpoint
  split
  · split
    · exact rested_report rested _ _
    · exact rested_report rested _ _
  · exact rested

theorem rested_reset (rested : c.Rested) (wipe : Bool) : (c.reset wipe).Rested := by
  cases wipe with
  | false => exact ⟨rested.editable, rested.mute, rested.unqueued, rested.high⟩
  | true => exact ⟨rested.editable.wipe, rested.mute, rested.unqueued, rested.high⟩

private theorem rested_toggleAscii (rested : c.Rested) : c.toggleAscii.Rested := by
  have shown : { c with panels := { c.panels with ascii := c.panels.ascii.setHidden c.panels.asciiVisible } }.Rested :=
    ⟨rested.editable.setAsciiHidden _, rested.mute, rested.unqueued, rested.high⟩
  exact shown.redrawn (redrawn_redraw _)

private theorem rested_move (rested : c.Rested) (direction : Direction) : (c.move direction).Rested := by
  have scrolled (windowBase : Nat) : { c with windowBase }.Rested :=
    ⟨rested.editable, rested.mute, rested.unqueued, rested.high⟩
  unfold move
  split
  · exact ⟨editable_moveFocused rested.editable direction, rested.mute, rested.unqueued, rested.high⟩
  · split
    · exact rested_enter rested.editable rested.mute _
    · exact rested_enter rested.editable rested.mute _
    · exact scrolled _
    · split
      · exact scrolled _
      · exact rested
    · exact rested

/-- Every command but a digit leaves a console at rest. -/
theorem rested_run (rested : c.Rested) {command : Command} (other : command.isDigit = false) :
    (c.run command).Rested := by
  cases command with
  | switchMemory => exact rested_switchMemory rested
  | toggleRun => exact rested_toggleRun rested
  | toggleAddressInput => exact rested_toggleAddressInput rested
  | go => exact rested_go rested
  | toggleBreakpoint => exact rested_toggleBreakpoint rested
  | step => exact ⟨rested.editable, rested.mute, rested.unqueued, rested.high⟩
  | faster => exact ⟨rested.editable, rested.mute, rested.unqueued, rested.high⟩
  | slower => exact ⟨rested.editable, rested.mute, rested.unqueued, rested.high⟩
  | reset => exact rested_reset rested false
  | wipe => exact rested_reset rested true
  | toggleAscii => exact rested_toggleAscii rested
  | move direction => exact rested_move rested direction
  | cycleFocus => exact rested_enter rested.editable rested.mute _
  | digit value => contradiction

/-- A digit waits to be applied. -/
theorem dispatch_of_digit {key : UInt8} {value : Fin 16} (digit : key ∈ Command.digitKeys value) :
    c.dispatch key = { c with edit := c.edit.queue value } := by
  rw [dispatch, Command.ofByte?_eq_digit_iff.mpr digit]
  rfl

/-- A byte that is no digit drops a half-typed byte first. -/
theorem rested_dispatch (poised : c.Poised) {key : UInt8} (other : ∀ value, key ∉ Command.digitKeys value) :
    (c.dispatch key).Rested := by
  have cancelled : { c with edit := c.edit.cancel }.Rested :=
    ⟨poised.editable, poised.mute, poised.unqueued, rfl⟩
  unfold dispatch
  split
  · rename_i value digit
    exact absurd (Command.ofByte?_eq_digit_iff.mp digit) (other value)
  · rename_i command notDigit _
    apply rested_run cancelled
    cases command with
    | digit value => exact absurd rfl (notDigit value)
    | _ => rfl
  · exact cancelled

end Console

end Mcs51
