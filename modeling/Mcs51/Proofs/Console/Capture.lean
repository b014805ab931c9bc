import Mcs51.Proofs.Console.Effects
import Mcs51.Proofs.Screen.Echo

/-! # A captured line stays apart

While a line is captured, what is typed goes into the line and nowhere else: with and without the typing, a
console ends up the same beside its session, and the finished line becomes the message (`captured_line`). The
line is what was typed behind the last STX (`Session.Holds`).
-/

namespace Mcs51

/-! ### The line -/

namespace Session

variable {s : Session} {typed : List UInt8}

/-- A session without echo that captures a line, of which these bytes were typed so far; no input waits and no
other line is complete. -/
structure Holds (s : Session) (typed : List UInt8) : Prop where
  capturing : s.capturing = true
  unread : s.lineReady = false
  idle : s.pending = none
  mute : s.echo = false
  line : s.captured = (lineGlyphs typed).reverse

/-- STX begins a new line. -/
theorem holds_stx (idle : s.pending = none) (mute : s.echo = false) : (s.printControl .stx).Holds [] :=
  ⟨rfl, rfl, idle, mute, rfl⟩

/-- Any byte but a line feed is part of the line. -/
theorem Holds.push (holds : s.Holds typed) {byte : UInt8} (noFeed : byte ≠ Control.lineFeed.byte) :
    (s.push byte).Holds (typed ++ [byte]) := by
  rw [s.push_of_mute holds.mute, if_pos holds.capturing, captureByte_of_mute holds.mute noFeed]
  split
  case isTrue stx =>
    have started := holds_stx holds.idle holds.mute
    refine ⟨started.capturing, started.unread, started.idle, started.mute, ?_⟩
    rw [stx, lineGlyphs_append_stx]
    rfl
  case isFalse other =>
    split
    case isTrue joins =>
      refine ⟨holds.capturing, holds.unread, holds.idle, holds.mute, ?_⟩
      rw [lineGlyphs_append other, if_pos joins, List.reverse_append, ← holds.line]
      rfl
    case isFalse dropped =>
      refine ⟨holds.capturing, holds.unread, holds.idle, holds.mute, ?_⟩
      rw [lineGlyphs_append other, if_neg dropped, List.append_nil]
      exact holds.line

/-- Drawing and blinking leave the line alone. -/
theorem Holds.drawn (holds : s.Holds typed) (grid : Grid) (lastBlink : Float) (screen : List String) :
    { s with grid, lastBlink, screen }.Holds typed :=
  ⟨holds.capturing, holds.unread, holds.idle, holds.mute, holds.line⟩

/-- A line feed ends the line, which is complete if anything was typed. -/
theorem Holds.ended (holds : s.Holds typed) :
    let ended := s.printControl .lineFeed
    ended.pending = none ∧ ended.lineReady = !(lineGlyphs typed).isEmpty ∧
      ended.captured.reverse = lineGlyphs typed := by
  have line : s.captured.reverse = lineGlyphs typed := by
    rw [holds.line, List.reverse_reverse]
  simp only [printControl, endLine, holds.capturing, ↓reduceIte]
  refine ⟨holds.idle, ?_, line⟩
  rw [← line, List.isEmpty_reverse]
  rfl

end Session

/-! ### Two runs -/

namespace Console

/-- Whether an event pushes an input byte. -/
def Event.isPush : Event → Bool
  | push _ => true
  | _ => false

def Event.bytes : Event → List UInt8
  | push byte => [byte]
  | _ => []

/-- Whether an event leaves the captured line open: it is no line feed and no other printed control code. -/
def Event.KeepsLine : Event → Prop
  | push byte => byte ≠ Control.lineFeed.byte
  | control _ => False
  | _ => True

instance (event : Event) : Decidable event.KeepsLine :=
  match event with
  | .push byte => inferInstanceAs (Decidable (byte ≠ Control.lineFeed.byte))
  | .control _ => .isFalse id
  | .clock _ | .frame _ => .isTrue trivial

def pushed (history : List Event) : List UInt8 :=
  history.flatMap Event.bytes

variable {c d : Console} {typed : List UInt8}

/-- Two consoles that both capture a line and are the same beside their sessions. Into the first one these bytes
were typed, into the second one nothing. -/
structure Alongside (c d : Console) (typed : List UInt8) : Prop where
  poised : c.Poised
  poised' : d.Poised
  line : c.session.Holds typed
  line' : d.session.Holds []
  same : c = { d with session := c.session }

/-- What is typed changes the session only. -/
theorem Alongside.push (along : Alongside c d typed) {byte : UInt8} (noFeed : byte ≠ Control.lineFeed.byte) :
    Alongside (c.push byte) d (typed ++ [byte]) where
  poised := poised_push along.poised byte
  poised' := along.poised'
  line := along.line.push noFeed
  line' := along.line'
  same := by
    rw [Console.push, along.same]

/-- A frame within a captured line only refreshes the panels and points at the byte under the cursor. -/
theorem tick_of_holds (poised : c.Poised) (line : c.session.Holds typed) (time : Float) :
    ∃ grid lastBlink screen, c.tick time =
      { c.refresh.pointAtCursor with session := { c.session with grid, lastBlink, screen } } := by
  have unread : { c.session with lineReady := false } = c.session := by
    rw [← line.unread]
  obtain ⟨grid, lastBlink, screen, next⟩ := tick_drawn poised line.idle time
  refine ⟨grid, lastBlink, screen, ?_⟩
  rw [next, if_neg (Bool.eq_false_iff.mp line.unread)]
  change { c.refresh.pointAtCursor with
    session := { { c.session with lineReady := false } with grid, lastBlink, screen } } = _
  rw [unread]

theorem Alongside.tick (along : Alongside c d typed) (time : Float) :
    Alongside (c.tick time) (d.tick time) typed := by
  obtain ⟨poised, poised', line, line', same⟩ := along
  obtain ⟨grid, lastBlink, screen, next⟩ := tick_of_holds poised line time
  obtain ⟨grid', lastBlink', screen', next'⟩ := tick_of_holds poised' line' time
  refine ⟨poised_tick poised time, poised_tick poised' time, ?_, ?_, ?_⟩
  · rw [next]
    exact line.drawn grid lastBlink screen
  · rw [next']
    exact line'.drawn grid' lastBlink' screen'
  · rw [next, next', same]
    rfl

theorem Alongside.clockTick (along : Alongside c d typed) : Alongside c.clockTick d.clockTick typed := by
  obtain ⟨poised, poised', line, line', same⟩ := along
  obtain ⟨grid, next⟩ := c.clockTick_drawn
  obtain ⟨grid', next'⟩ := d.clockTick_drawn
  refine ⟨poised_clockTick poised, poised_clockTick poised', ?_, ?_, ?_⟩
  · rw [next]
    exact line.drawn grid c.session.lastBlink c.session.screen
  · rw [next']
    exact line'.drawn grid' d.session.lastBlink d.session.screen
  · rw [next, next', same]

theorem Alongside.clockTicks (along : Alongside c d typed) (ticks : Nat) :
    Alongside (c.clockTicks ticks) (d.clockTicks ticks) typed := by
  induction ticks generalizing c d with
  | zero => exact along
  | succ ticks ih => exact ih along.clockTick

theorem Alongside.runClock (along : Alongside c d typed) (now : Duration) :
    Alongside (c.runClock now).2 (d.runClock now).2 typed := by
  have clock : c.clock = d.clock := by
    rw [along.same]
  have polled : Alongside { c with clock := (c.clock.poll now).2 } { d with clock := (d.clock.poll now).2 } typed := by
    refine ⟨along.poised.setMachine c.machine _ c.elapsedMs, along.poised'.setMachine d.machine _ d.elapsedMs,
      along.line, along.line', ?_⟩
    rw [along.same]
  unfold Console.runClock
  rw [clock] at polled ⊢
  exact polled.clockTicks _

/-- Two runs that differ in what is typed into the line stay alongside. -/
theorem Alongside.replay (along : Alongside c d typed) {input : List Event} (inLine : ∀ e ∈ input, e.KeepsLine) :
    Alongside (c.replay input) (d.replay (input.filter (!·.isPush))) (typed ++ pushed input) := by
  -- At a push the first console moves and the second one stays, so both are generalized.
  induction input generalizing c d typed with
  | nil =>
    rw [pushed, List.flatMap_nil, List.append_nil]
    exact along
  | cons event rest ih =>
    obtain ⟨keeps, later⟩ := List.forall_mem_cons.mp inLine
    rw [pushed, List.flatMap_cons, ← List.append_assoc]
    cases event with
    | push byte => exact ih (along.push keeps) later
    | control code => exact keeps.elim
    | clock now =>
      have silent : typed ++ (Event.clock now).bytes = typed := List.append_nil typed
      rw [silent]
      exact ih (along.runClock now) later
    | frame time =>
      have silent : typed ++ (Event.frame time).bytes = typed := List.append_nil typed
      rw [silent]
      exact ih (along.tick time) later

/-- The frame after the end of the line shows what was typed. -/
theorem message_of_lineFeed (poised : c.Poised) (line : c.session.Holds typed) (time : Float) :
    ((c.printControl .lineFeed).tick time).message =
      if lineGlyphs typed = [] then c.message
      else some (String.ofList ((lineGlyphs typed).take lineMessageWidth)) := by
  obtain ⟨idle, ready, captured⟩ := line.ended
  have ended : (c.printControl .lineFeed).Poised := poised_after poised (.control .lineFeed)
  rw [message_tick ended idle]
  change (if (c.session.printControl .lineFeed).lineReady then
      some (String.ofList ((c.session.printControl .lineFeed).captured.reverse.take lineMessageWidth))
    else c.message) = _
  rw [ready, captured]
  cases lineGlyphs typed <;> rfl

/-- While a line is captured, what is typed into it reaches nothing but the session, and the line becomes the
message once it is ended: the first 24 of the glyphs that were typed behind the last STX, if there are any. -/
theorem captured_line (reachable : c.Reachable) (idle : c.session.pending = none) {input : List Event}
    (inLine : ∀ e ∈ input, e.KeepsLine) (time : Float) :
    let start := c.printControl .stx
    let typing := start.replay input
    typing = { start.replay (input.filter (!·.isPush)) with session := typing.session } ∧
      ((typing.printControl .lineFeed).tick time).message =
        if lineGlyphs (pushed input) = [] then typing.message
        else some (String.ofList ((lineGlyphs (pushed input)).take 24)) := by
  intro start typing
  have poised : start.Poised := poised_after reachable.poised (.control .stx)
  have line : start.session.Holds [] := Session.holds_stx idle reachable.poised.mute
  have along : Alongside typing _ (pushed input) := (Alongside.mk poised poised line line rfl).replay inLine
  exact ⟨along.same, message_of_lineFeed along.poised along.line time⟩

/-- Between two frames and a clock poll the line is begun anew; a tab is dropped. -/
theorem captured_line_restarted :
    let console := Console.new (Machine.new 16 16 128) (Clock.new .middle 1000)
    let input : List Event := [.push 0x78, .frame 0.0, .push 0x02, .push 0x48, .clock ⟨0⟩, .push 0x09, .push 0x69]
    let start := console.printControl .stx
    let typing := start.replay input
    console.session.pending = none ∧ (∀ e ∈ input, e.KeepsLine) ∧
      typing = { start.replay [.frame 0.0, .clock ⟨0⟩] with session := typing.session } ∧
      ((typing.printControl .lineFeed).tick 0.5).message = some "Hi" := by
  intro console input start typing
  have reachable : console.Reachable := .new _ _
  have idle : console.session.pending = none := (listens_new _ _).idle
  have inLine : ∀ e ∈ input, e.KeepsLine := by decide
  have apart := captured_line reachable idle inLine 0.5
  exact ⟨idle, inLine, apart⟩

end Console

end Mcs51
