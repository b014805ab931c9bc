import Mcs51.Console.Dispatch

/-! # Frames

A frame of the console: `paint` refreshes the panels and draws the screen, `render` takes the rows of the
screen, and `respond` shows a captured line and handles the waiting input. Between frames the shell polls
the clock and pushes input. `Event` names what can happen to a console and `replay` runs a history.
-/

namespace Mcs51

namespace Console

def infoRow : Int := 11

def infoCol : Int := 2

def infoWidth : Nat := 28

/-- The information lines: the bits of the byte pointed at, time, cycles and clock speed. -/
def infoLines (c : Console) : List String :=
  ["Sel     : " ++ " ".intercalate ((bitsOf c.pointedValue).map fun bit => toString bit.toNat),
    "Time    : " ++ Text.fixed 3 c.elapsedMs ++ "ms",
    "Cycles  : " ++ toString c.machine.cycles,
    "Clk spd : " ++ Text.padRight 6 c.clock.speed.label]

def infoPicture (c : Console) : Picture where
  origin := ⟨infoCol, infoRow⟩
  hidden := false
  lines := c.infoLines.map fun line => Codepage.encode (Text.fit infoWidth line)

/-- Draw what changes from frame to frame, and place the caret. -/
def drawFrame (c : Console) : Console :=
  let c := c.drawAll (c.infoPicture :: c.panels.elements)
  { c with session := c.session.placeCaret (some c.caret.col) (some c.caret.row) }

/-- Refresh the panels, point at the byte under the cursor, and draw. -/
def paint (c : Console) : Console :=
  c.refresh.pointAtCursor.drawFrame

/-- Blink the cursor and take the rows of the screen. -/
def render (c : Console) (time : Float) : Console :=
  { c with session := c.session.tick time }

/-- Show a line whose capture is complete as the status message. -/
def showLine (c : Console) : Console :=
  let (line, session) := c.session.readLine
  let c := { c with session }
  match line with
  | some text => c.showMessage (String.ofList (text.toList.take lineMessageWidth))
  | none => c

/-- Handle the waiting input byte. -/
def handleInput (c : Console) : Console :=
  let (byte, session) := c.session.take
  let c := { c with session }
  match byte with
  | some byte => c.dispatch byte
  | none => c

def applyQueued (c : Console) : Console :=
  let (digit, edit) := c.edit.takeQueued
  let c := { c with edit }
  match digit with
  | some digit => c.commitDigit digit
  | none => c

/-- Show a captured line, handle the waiting input, and apply the queued digit. -/
def respond (c : Console) : Console :=
  c.showLine.handleInput.applyQueued

/-- One frame at a time in seconds. -/
def tick (c : Console) (time : Float) : Console :=
  (c.paint.render time).respond

/-- One clock tick of the machine. Time passes if the machine runs on; a halt is announced. -/
def clockTick (c : Console) : Console :=
  let machine := c.machine.tick
  let (hit, machine) := machine.takeHit
  let c :=
    { c with
      machine
      elapsedMs := if machine.running then c.elapsedMs + c.clock.speed.msPerTick else c.elapsedMs }
  if hit then c.showMessage "Breakpoint reached" else c

/-- Deliver a number of clock ticks. -/
def clockTicks (c : Console) : Nat → Console
  | 0 => c
  | n + 1 => c.clockTick.clockTicks n

/-- Deliver the clock ticks that are due; the result counts them. -/
def runClock (c : Console) (now : Duration) : Nat × Console :=
  let (ticks, clock) := c.clock.poll now
  (ticks, { c with clock }.clockTicks ticks)

/-- Push an input byte; the next frame handles it. -/
def push (c : Console) (byte : UInt8) : Console :=
  { c with session := c.session.push byte }

/-- Print a control code; STX and line feed begin and end the capture of a line. -/
def printControl (c : Console) (control : Control) : Console :=
  { c with session := c.session.printControl control }

/-! ### Histories -/

/-- What can happen to a console. -/
inductive Event
  | push (byte : UInt8)
  | control (code : Control)
  | clock (now : Duration)
  | frame (time : Float)

def after (c : Console) : Event → Console
  | .push byte => c.push byte
  | .control code => c.printControl code
  | .clock now => (c.runClock now).2
  | .frame time => c.tick time

def replay (c : Console) (history : List Event) : Console :=
  history.foldl after c

end Console

end Mcs51
