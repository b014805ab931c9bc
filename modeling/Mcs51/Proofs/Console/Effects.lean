import Mcs51.Proofs.Console.Frames

/-! # What happens besides the drawing

Drawing touches the cells of the screen only. Without the cells, a message is the new message
(`showMessage_drawn`), a clock tick is a tick of the machine with its time and its announcement
(`clockTick_drawn`), and a frame without input refreshes the panels, points at the byte under the cursor and
shows a captured line (`tick_drawn`).
-/

namespace Mcs51.Console

variable {c d : Console}

/-! ### Messages -/

theorem writeAt_drawn (c : Console) (row col : Int) (text : String) :
    ∃ grid, c.writeAt row col text = { c with session := { c.session with grid } } :=
  ⟨_, rfl⟩

theorem clearMessage_drawn (c : Console) :
    ∃ grid, c.clearMessage = { c with session := { c.session with grid }, message := none } := by
  cases present : c.message with
  | none =>
    refine ⟨c.session.grid, ?_⟩
    simp only [clearMessage, present]
    rw [← present]
  | some old =>
    obtain ⟨grid, erased⟩ := c.writeAt_drawn messageRow (messageEnd - old.length) (Text.spaces (old.length + 2))
    refine ⟨grid, ?_⟩
    simp only [clearMessage, present, erased]

theorem showMessage_drawn (c : Console) (text : String) :
    ∃ grid, c.showMessage text = { c with session := { c.session with grid }, message := some text } := by
  obtain ⟨_, cleared⟩ := c.clearMessage_drawn
  obtain ⟨_, marked⟩ := c.clearMessage.writeAt_drawn messageRow (messageEnd + 1) "<"
  obtain ⟨grid, written⟩ :=
    (c.clearMessage.writeAt messageRow (messageEnd + 1) "<").writeAt_drawn messageRow (messageEnd - text.length) text
  refine ⟨grid, ?_⟩
  rw [showMessage, written, marked, cleared]

/-! ### Clock ticks -/

/-- A clock tick of the machine: time passes if the machine runs on, and a halt is announced. -/
theorem clockTick_drawn (c : Console) :
    ∃ grid, c.clockTick =
      { c with
        machine := c.machine.tick.takeHit.2
        session := { c.session with grid }
        elapsedMs := if c.machine.tick.running then c.elapsedMs + c.clock.speed.msPerTick else c.elapsedMs
        message := if c.machine.tick.hit then some "Breakpoint reached" else c.message } := by
  unfold clockTick
  dsimp only [Machine.takeHit]
  cases c.machine.tick.hit with
  | false => exact ⟨c.session.grid, rfl⟩
  | true =>
    obtain ⟨grid, shown⟩ := showMessage_drawn
      { c with
        machine := { c.machine.tick with hit := false }
        elapsedMs := if c.machine.tick.running then c.elapsedMs + c.clock.speed.msPerTick else c.elapsedMs }
      "Breakpoint reached"
    exact ⟨grid, shown⟩

/-! ### Frames -/

theorem drawFrame_drawn (c : Console) :
    ∃ grid, c.drawFrame = { c with session := { c.session with grid } } := by
  rw [drawFrame_eq, Session.foldl_draw_eq]
  exact ⟨_, rfl⟩

theorem render_drawn (c : Console) (time : Float) :
    ∃ grid lastBlink screen, c.render time = { c with session := { c.session with grid, lastBlink, screen } } := by
  unfold render Session.tick Session.blink
  split
  · exact ⟨_, _, _, rfl⟩
  · exact ⟨_, _, _, rfl⟩

/-- A captured line that is complete becomes the message, cut to its width. -/
theorem showLine_drawn (c : Console) :
    ∃ grid, c.showLine =
      { c with
        session := { c.session with grid, lineReady := false }
        message := if c.session.lineReady then some (String.ofList (c.session.captured.reverse.take lineMessageWidth))
          else c.message } := by
  unfold showLine Session.readLine
  cases ready : c.session.lineReady with
  | false =>
    have same : { c.session with lineReady := false } = c.session := by
      rw [← ready]
    refine ⟨c.session.grid, ?_⟩
    simp only [Bool.false_eq_true, ↓reduceIte]
    change c = { c with session := { c.session with lineReady := false } }
    rw [same]
  | true =>
    obtain ⟨grid, shown⟩ := showMessage_drawn { c with session := { c.session with lineReady := false } }
      (String.ofList (c.session.captured.reverse.take lineMessageWidth))
    refine ⟨grid, ?_⟩
    simp only [↓reduceIte, String.toList_ofList]
    exact shown

/-- A frame without input refreshes the panels, points at the byte under the cursor and shows a captured line. -/
theorem tick_drawn (poised : c.Poised) (idle : c.session.pending = none) (time : Float) :
    ∃ grid lastBlink screen, c.tick time =
      { c.refresh.pointAtCursor with
        session := { c.session with grid, lineReady := false, lastBlink, screen }
        message := if c.session.lineReady then some (String.ofList (c.session.captured.reverse.take lineMessageWidth))
          else c.message } := by
  obtain ⟨drawn, frame⟩ := c.refresh.pointAtCursor.drawFrame_drawn
  obtain ⟨rendered, lastBlink, screen, render⟩ := c.paint.render_drawn time
  obtain ⟨grid, line⟩ := (c.paint.render time).showLine_drawn
  refine ⟨grid, lastBlink, screen, ?_⟩
  rw [tick_of_idle poised idle, ready, shown, line, render, paint, frame]
  dsimp only [Session.take]
  rw [← idle]
  rfl

/-- The message after a frame without input. -/
theorem message_tick (poised : c.Poised) (idle : c.session.pending = none) (time : Float) :
    (c.tick time).message =
      if c.session.lineReady then some (String.ofList (c.session.captured.reverse.take lineMessageWidth))
      else c.message := by
  obtain ⟨_, _, _, next⟩ := tick_drawn poised idle time
  rw [next]

/-! ### Reachable consoles -/

/-- The consoles that come about from a new one by events and by operations on its machine from outside. -/
inductive Reachable : Console → Prop
  | new (machine : Machine) (clock : Clock) : Reachable (Console.new machine clock)
  | after {c : Console} (reachable : Reachable c) (event : Event) : Reachable (c.after event)
  | operate {c : Console} (reachable : Reachable c) (machine : Machine) : Reachable { c with machine }

theorem Reachable.poised (reachable : c.Reachable) : c.Poised := by
  induction reachable with
  | new machine clock => exact (rested_new machine clock).poised
  | after _ event ih => exact poised_after ih event
  | @operate c _ machine ih => exact ih.setMachine machine c.clock c.elapsedMs

end Mcs51.Console
