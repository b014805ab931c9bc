import Mcs51.Proofs.Console.Poised

/-! # Frame by frame

A frame first gets ready: it draws, and points at the byte under the cursor (`ready_eq`, `aimed_ready`). Then
it does one of three things: nothing more (`tick_of_idle`), apply a digit (`tick_of_digit`), or run a command
(`tick_of_other`). All of them, and all other events, leave a console poised (`poised_replay`).
-/

namespace Mcs51

namespace Console

variable {c : Console}

/-! ### Digits -/

/-- What is written changes the machine, the address input or a byte of a panel, but no cursor. -/
theorem writeTarget_eq (c : Console) (editable : c.panels.Editable) (target : EditTarget) (value : UInt8) :
    ∃ panels machine addressBytes,
      c.writeTarget target value = { c with panels, machine, addressBytes } ∧ panels.Editable ∧
        ∀ focus, (panels.grid focus).surface.cursor = (c.panels.grid focus).surface.cursor := by
  cases target with
  | memory space addr => exact ⟨_, _, _, rfl, editable, fun _ => rfl⟩
  | register index => exact ⟨_, _, _, rfl, editable, fun _ => rfl⟩
  | addressInput half => exact ⟨_, _, _, rfl, editable, fun _ => rfl⟩
  | dataPointer half =>
    refine ⟨_, _, _, rfl, editable.setDataPointer half value, fun focus => ?_⟩
    cases focus with
    | dataPointer => exact Surface.cursor_set ..
    | memory => rfl
    | registers => rfl
    | addressInput => rfl

/-- The console with another digit to come next, to which the caret has moved. -/
def turnTo (c : Console) (next : Nibble) (shift : Int) : Console :=
  { c with edit := { c.edit with next }, caret := { c.caret with col := c.caret.col + shift } }

/-- The first digit of a byte is written in place, and the caret goes to the second one. -/
theorem commitDigit_high (aimed : c.Aimed) (high : c.edit.next = .high) (digit : Fin 16) :
    c.commitDigit digit =
      (c.turnTo .low 1).writeTarget c.pointed
        (UInt8.ofNat digit.val * 16 + c.readTarget c.pointed % 16) := by
  rw [commitDigit, aimed.target]
  simp only [Edit.apply, high]
  cases c.pointed <;> rfl

/-- The second digit of a byte is written in place, and the cursor moves on. -/
theorem commitDigit_low (aimed : c.Aimed) (low : c.edit.next = .low) (digit : Fin 16) :
    c.commitDigit digit =
      ((c.turnTo .high (-1)).writeTarget c.pointed
        (c.readTarget c.pointed / 16 * 16 + UInt8.ofNat digit.val)).moveFocused .right := by
  rw [commitDigit, aimed.target]
  simp only [Edit.apply, low]
  cases c.pointed <;> rfl

theorem session_commitDigit (c : Console) (digit : Fin 16) : (c.commitDigit digit).session = c.session := by
  unfold commitDigit
  split
  · rfl
  · rename_i target _
    dsimp only
    split
    · cases target <;> rfl
    · cases target <;> rfl

theorem position_writeTarget (c : Console) (editable : c.panels.Editable) (target : EditTarget) (value : UInt8) :
    (c.writeTarget target value).position = c.position := by
  obtain ⟨panels, machine, addressBytes, same, _, cursors⟩ := c.writeTarget_eq editable target value
  rw [same]
  exact position_congr rfl rfl rfl (cursors c.focus)

/-- After its first digit the same byte is pointed at, and its second digit comes next. -/
theorem begun_commitDigit (poised : c.Poised) (aimed : c.Aimed) (high : c.edit.next = .high) (digit : Fin 16) :
    (c.commitDigit digit).Poised ∧ (c.commitDigit digit).edit.next = .low ∧
      (c.commitDigit digit).position = c.position := by
  rw [commitDigit_high aimed high]
  generalize UInt8.ofNat digit.val * 16 + c.readTarget c.pointed % 16 = value
  have position : ((c.turnTo .low 1).writeTarget c.pointed value).position = c.position :=
    (c.turnTo .low 1).position_writeTarget poised.editable c.pointed value
  obtain ⟨panels, machine, addressBytes, same, editable, _⟩ :=
    (c.turnTo .low 1).writeTarget_eq poised.editable c.pointed value
  rw [same] at position ⊢
  refine ⟨⟨editable, poised.mute, poised.unqueued, fun _ => ⟨?_, ?_⟩⟩, rfl, position⟩
  · rw [pointed_congr position]
    exact aimed.target
  · have caret := aimed.caret
    rw [high] at caret
    rw [aim_congr position]
    simp only [turnTo, caret, aim_low]
    rfl

/-- After its second digit a byte is complete, and the cursor moves on. -/
theorem completed_commitDigit (poised : c.Poised) (aimed : c.Aimed) (low : c.edit.next = .low) (digit : Fin 16) :
    (c.commitDigit digit).Rested ∧ (c.commitDigit digit).position = c.position.right 1 := by
  rw [commitDigit_low aimed low]
  generalize c.readTarget c.pointed / 16 * 16 + UInt8.ofNat digit.val = value
  have position : ((c.turnTo .high (-1)).writeTarget c.pointed value).position = c.position :=
    (c.turnTo .high (-1)).position_writeTarget poised.editable c.pointed value
  obtain ⟨panels, machine, addressBytes, same, editable, _⟩ :=
    (c.turnTo .high (-1)).writeTarget_eq poised.editable c.pointed value
  rw [same] at position ⊢
  constructor
  · exact ⟨editable_moveFocused editable .right, poised.mute, poised.unqueued, rfl⟩
  · rw [position_moveFocused_right editable, position]

private theorem poised_commitDigit (poised : c.Poised) (aimed : c.Aimed) (digit : Fin 16) :
    (c.commitDigit digit).Poised := by
  cases next : c.edit.next with
  | high => exact (begun_commitDigit poised aimed next digit).1
  | low => exact (completed_commitDigit poised aimed next digit).1.poised

/-! ### Frames -/

/-- The caret goes to the first digit of the byte under the cursor, unless the second one is due: then it is
there already. -/
theorem aimed_pointAtCursor (poised : c.Poised) : c.refresh.pointAtCursor.Aimed := by
  have position : c.refresh.pointAtCursor.position = c.refresh.position := rfl
  refine ⟨congrArg some (pointed_congr position).symm, ?_⟩
  rw [aim_congr position]
  change (if c.edit.lowPending then c.caret else c.refresh.focused.surface.caretPosition) = _
  change _ = Coord.mk (c.refresh.aim c.edit.next).col (c.refresh.aim c.edit.next).row
  cases next : c.edit.next with
  | high =>
    rw [Edit.lowPending, next]
    exact caretPosition_focused (editable_refresh poised.editable)
  | low =>
    have low : c.edit.lowPending = true := by
      rw [Edit.lowPending, next]
      rfl
    rw [if_pos low, aim_congr c.position_refresh, ← next]
    exact (poised.aimed next).caret

/-- The console once a frame is drawn and a captured line is shown. -/
def shown (c : Console) (time : Float) : Console :=
  (c.paint.render time).showLine

/-- The console once the input byte of a frame is taken: the panels are refreshed, and the byte under the
cursor is pointed at. -/
def ready (c : Console) (time : Float) : Console :=
  { c.shown time with session := (c.shown time).session.take.2 }

theorem redrawn_shown (c : Console) (time : Float) : Redrawn c.refresh.pointAtCursor (c.shown time) :=
  ((redrawn_drawFrame _).trans (redrawn_render _ time)).trans (redrawn_showLine _)

theorem pending_shown (c : Console) (time : Float) : (c.shown time).session.pending = c.session.pending := by
  obtain ⟨_, _, _, _, _, same⟩ := c.redrawn_shown time
  rw [same]
  rfl

theorem ready_eq (c : Console) (time : Float) :
    ∃ grid lineReady lastBlink screen message,
      c.ready time =
        { c.refresh.pointAtCursor with
          session := { c.session with grid, lineReady, lastBlink, screen, pending := none }, message } := by
  obtain ⟨grid, lineReady, lastBlink, screen, message, same⟩ := c.redrawn_shown time
  refine ⟨grid, lineReady, lastBlink, screen, message, ?_⟩
  rw [ready, same]
  rfl

theorem handleInput_of_idle (idle : c.session.pending = none) (time : Float) :
    (c.shown time).handleInput = c.ready time := by
  rw [← c.pending_shown time] at idle
  simp only [handleInput, Session.take, idle, ready]

theorem handleInput_of_waits {key : UInt8} (waits : c.session.pending = some key) (time : Float) :
    (c.shown time).handleInput = (c.ready time).dispatch key := by
  rw [← c.pending_shown time] at waits
  simp only [handleInput, Session.take, waits, ready]

/-- A frame is drawn, handles its input and applies the digit that was queued. -/
theorem tick_eq (c : Console) (time : Float) : c.tick time = (c.shown time).handleInput.applyQueued := rfl

theorem position_ready (c : Console) (time : Float) : (c.ready time).position = c.position := by
  obtain ⟨_, _, _, _, _, same⟩ := c.ready_eq time
  rw [same]
  exact c.position_refresh

theorem edit_ready (c : Console) (time : Float) : (c.ready time).edit = c.edit.pointAt c.pointed := by
  obtain ⟨_, _, _, _, _, same⟩ := c.ready_eq time
  rw [same]
  exact congrArg c.edit.pointAt (pointed_congr c.position_refresh)

theorem aimed_ready (poised : c.Poised) (time : Float) : (c.ready time).Aimed := by
  have shown := (aimed_pointAtCursor poised).redrawn (c.redrawn_shown time)
  exact ⟨shown.target, shown.caret⟩

theorem poised_ready (poised : c.Poised) (time : Float) : (c.ready time).Poised := by
  have aimed := aimed_ready poised time
  have edit := c.edit_ready time
  obtain ⟨_, _, _, _, _, same⟩ := c.ready_eq time
  refine ⟨?_, ?_, ?_, fun _ => aimed⟩
  · rw [same]
    exact editable_refresh poised.editable
  · rw [same]
    exact poised.mute
  · rw [edit]
    exact poised.unqueued

theorem applyQueued_of_unqueued (unqueued : c.edit.queued = none) : c.applyQueued = c := by
  have taken : c.edit.takeQueued = (none, c.edit) := by
    rw [Edit.takeQueued, unqueued]
    exact congrArg (Prod.mk none) (congrArg (Edit.mk c.edit.next c.edit.target) unqueued.symm)
  rw [applyQueued, taken]

/-- A frame without input only gets ready. -/
theorem tick_of_idle (poised : c.Poised) (idle : c.session.pending = none) (time : Float) :
    c.tick time = c.ready time := by
  rw [tick_eq, handleInput_of_idle idle]
  exact applyQueued_of_unqueued (poised_ready poised time).unqueued

/-- A digit is applied in the frame that takes it. -/
theorem tick_of_digit (poised : c.Poised) {key : UInt8} (waits : c.session.pending = some key)
    {value : Fin 16} (digit : key ∈ Command.digitKeys value) (time : Float) :
    c.tick time = (c.ready time).commitDigit value := by
  have unqueued := (poised_ready poised time).unqueued
  rw [tick_eq, handleInput_of_waits waits]
  simp only [dispatch_of_digit digit, applyQueued, Edit.queue, Edit.takeQueued]
  rw [← unqueued]

/-- Any other byte drops a half-typed byte and runs its command. -/
theorem tick_of_other (poised : c.Poised) {key : UInt8} (waits : c.session.pending = some key)
    (other : ∀ value, key ∉ Command.digitKeys value) (time : Float) :
    c.tick time = (c.ready time).dispatch key := by
  rw [tick_eq, handleInput_of_waits waits]
  exact applyQueued_of_unqueued (rested_dispatch (poised_ready poised time) other).unqueued

theorem poised_tick (poised : c.Poised) (time : Float) : (c.tick time).Poised := by
  have ready := poised_ready poised time
  cases waits : c.session.pending with
  | none =>
    rw [tick_of_idle poised waits]
    exact ready
  | some key =>
    by_cases digit : ∃ value, key ∈ Command.digitKeys value
    · obtain ⟨value, digit⟩ := digit
      rw [tick_of_digit poised waits digit]
      exact poised_commitDigit ready (aimed_ready poised time) value
    · rw [not_exists] at digit
      rw [tick_of_other poised waits digit]
      exact (rested_dispatch ready digit).poised

end Console

/-! ### Echo -/

namespace Session

variable (s : Session)

/-- Without echo a pushed byte is captured or waits. -/
theorem push_of_mute (mute : s.echo = false) (byte : UInt8) :
    s.push byte = if s.capturing then s.captureByte byte else { s with pending := some byte } := by
  unfold push
  simp only [mute, Bool.false_eq_true, ↓reduceIte]

end Session

/-! ### Events -/

namespace Console

variable {c : Console}

/-- Another machine, clock and time leave a console poised. -/
theorem Poised.setMachine (poised : c.Poised) (machine : Machine) (clock : Clock) (elapsedMs : Float) :
    { c with machine, clock, elapsedMs }.Poised :=
  ⟨poised.editable, poised.mute, poised.unqueued, fun low =>
    ⟨(poised.aimed low).target, (poised.aimed low).caret⟩⟩

/-- Another session without echo leaves a console poised. -/
theorem Poised.setSession (poised : c.Poised) {session : Session} (mute : session.echo = false) :
    { c with session }.Poised :=
  ⟨poised.editable, mute, poised.unqueued, fun low =>
    ⟨(poised.aimed low).target, (poised.aimed low).caret⟩⟩

theorem poised_clockTick (poised : c.Poised) : c.clockTick.Poised := by
  have ticked (machine : Machine) (elapsedMs : Float) : { c with machine, elapsedMs }.Poised :=
    poised.setMachine machine c.clock elapsedMs
  unfold clockTick
  dsimp only
  split
  · exact (ticked _ _).redrawn (redrawn_showMessage _ _)
  · exact ticked _ _

private theorem poised_clockTicks (poised : c.Poised) (ticks : Nat) : (c.clockTicks ticks).Poised := by
  induction ticks generalizing c with
  | zero => exact poised
  | succ ticks ih => exact ih (poised_clockTick poised)

theorem poised_push (poised : c.Poised) (byte : UInt8) : (c.push byte).Poised := by
  apply poised.setSession
  rw [c.session.push_of_mute poised.mute]
  split
  · exact (c.session.echo_captureByte byte).trans poised.mute
  · exact poised.mute

/-- Every event leaves a console poised. -/
theorem poised_after (poised : c.Poised) (event : Event) : (c.after event).Poised := by
  cases event with
  | push byte => exact poised_push poised byte
  | control code => exact poised.setSession ((c.session.echo_printControl code).trans poised.mute)
  | clock now => exact poised_clockTicks (poised.setMachine c.machine (c.clock.poll now).2 c.elapsedMs) _
  | frame time => exact poised_tick poised time

theorem rested_new (machine : Machine) (clock : Clock) : (Console.new machine clock).Rested := by
  apply Rested.redrawn _ (redrawn_redraw _)
  exact ⟨Panels.editable_new _, rfl, rfl, rfl⟩

/-- A console is poised whatever happened to it. -/
theorem poised_replay (poised : c.Poised) (history : List Event) : (c.replay history).Poised := by
  induction history generalizing c with
  | nil => exact poised
  | cons event rest ih => exact ih (poised_after poised event)

/-! ### Typing -/

/-- A poised console that takes pushed bytes as input, with none waiting. -/
structure Listens (c : Console) : Prop where
  poised : c.Poised
  uncaptured : c.session.capturing = false
  idle : c.session.pending = none

/-- A key that is pushed waits for the next frame. -/
theorem push_of_listens (listens : c.Listens) (key : UInt8) :
    c.push key = { c with session := { c.session with pending := some key } } := by
  rw [push, c.session.push_of_mute listens.poised.mute, if_neg]
  rw [listens.uncaptured]
  exact Bool.false_ne_true

theorem session_ready (c : Console) (time : Float) :
    (c.ready time).session.capturing = c.session.capturing ∧ (c.ready time).session.pending = none := by
  obtain ⟨_, _, _, _, _, same⟩ := c.ready_eq time
  rw [same]
  exact ⟨rfl, rfl⟩

/-- A frame without input leaves a console listening. -/
theorem listens_tick (listens : c.Listens) (time : Float) : (c.tick time).Listens := by
  obtain ⟨uncaptured, idle⟩ := c.session_ready time
  refine ⟨poised_tick listens.poised time, ?_, ?_⟩
  · rw [tick_of_idle listens.poised listens.idle, uncaptured]
    exact listens.uncaptured
  · rw [tick_of_idle listens.poised listens.idle, idle]

/-- A digit is applied in the next frame. -/
theorem tick_push (listens : c.Listens) {key : UInt8} {value : Fin 16} (digit : key ∈ Command.digitKeys value)
    (time : Float) : (c.push key).tick time = ((c.push key).ready time).commitDigit value := by
  apply tick_of_digit (poised_push listens.poised key) _ digit
  rw [push_of_listens listens]

theorem listens_tick_push (listens : c.Listens) {key : UInt8} {value : Fin 16}
    (digit : key ∈ Command.digitKeys value) (time : Float) : ((c.push key).tick time).Listens := by
  obtain ⟨uncaptured, idle⟩ := (c.push key).session_ready time
  refine ⟨poised_tick (poised_push listens.poised key) time, ?_, ?_⟩
  · rw [tick_push listens digit, session_commitDigit, uncaptured, push_of_listens listens]
    exact listens.uncaptured
  · rw [tick_push listens digit, session_commitDigit, idle]

/-- The first digit of a byte begins it. -/
theorem begun_tick_push (listens : c.Listens) (high : c.edit.next = .high) {key : UInt8} {value : Fin 16}
    (digit : key ∈ Command.digitKeys value) (time : Float) :
    ((c.push key).tick time).edit.next = .low ∧ ((c.push key).tick time).position = c.position := by
  have pushed := poised_push listens.poised key
  have next : ((c.push key).ready time).edit.next = .high := by
    rw [edit_ready]
    exact high
  obtain ⟨_, low, position⟩ :=
    begun_commitDigit (poised_ready pushed time) (aimed_ready pushed time) next value
  rw [tick_push listens digit]
  exact ⟨low, position.trans ((c.push key).position_ready time)⟩

/-- The second digit of a byte completes it. -/
theorem completed_tick_push (listens : c.Listens) (low : c.edit.next = .low) {key : UInt8} {value : Fin 16}
    (digit : key ∈ Command.digitKeys value) (time : Float) :
    ((c.push key).tick time).edit.next = .high ∧ ((c.push key).tick time).position = c.position.right 1 := by
  have pushed := poised_push listens.poised key
  have next : ((c.push key).ready time).edit.next = .low := by
    rw [edit_ready]
    exact low
  obtain ⟨rested, position⟩ :=
    completed_commitDigit (poised_ready pushed time) (aimed_ready pushed time) next value
  rw [tick_push listens digit]
  exact ⟨rested.high, position.trans (congrArg (Position.right · 1) ((c.push key).position_ready time))⟩

/-- At first the first byte of the lower RAM is pointed at. -/
theorem position_new (machine : Machine) (clock : Clock) :
    (Console.new machine clock).position = ⟨.memory, .lower, 0, ⟨0, 0⟩⟩ :=
  (redrawn_redraw _).position

theorem listens_new (machine : Machine) (clock : Clock) : (Console.new machine clock).Listens := by
  have drawn (c : Console) : c.redraw.session.capturing = c.session.capturing ∧
      c.redraw.session.pending = c.session.pending := by
    obtain ⟨_, _, _, _, _, same⟩ := redrawn_redraw c
    rw [same]
    exact ⟨rfl, rfl⟩
  exact ⟨(rested_new machine clock).poised, (drawn _).1, (drawn _).2⟩

end Console

end Mcs51
