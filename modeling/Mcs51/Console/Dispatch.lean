import Mcs51.Console.Command
import Mcs51.Console.Editing

/-! # Dispatch

What each command does to the console. Every input byte that is no hex digit drops a half-typed byte.
-/

namespace Mcs51.Console

/-- View the next memory from its start. -/
def switchMemory (c : Console) : Console :=
  let space := c.space.next
  let panels := { c.panels with memoryFrame := c.panels.memoryFrame.setTitle space.title }
  { c with space, panels, windowBase := 0 }.redraw

/-- Start or stop free run; address input is left first. -/
def toggleRun (c : Console) : Console :=
  let c := if c.focus = .addressInput then c.enter .memory else c
  let c := c.clearMessage
  { c with machine := c.machine.setRunning !c.machine.running }

/-- Enter or leave address input; entering stops the machine. -/
def toggleAddressInput (c : Console) : Console :=
  if c.focus = .addressInput then c.enter .memory
  else { c with machine := c.machine.setRunning false }.enter .addressInput

/-- Move the program counter to the typed address, while address input has the focus. -/
def go (c : Console) : Console :=
  if c.focus = .addressInput then
    { c with machine := c.machine.setPc c.address }.showMessage "PC set"
  else c

/-- Set the breakpoint to the typed address or remove it, while address input has the focus. -/
def toggleBreakpoint (c : Console) : Console :=
  if c.focus = .addressInput then
    if c.machine.breakpoint.isSome then
      { c with machine := c.machine.setBreakpoint none }.showMessage "Breakpoint clear"
    else
      { c with machine := c.machine.setBreakpoint (some c.address) }.showMessage "Breakpoint set"
  else c

/-- Request a single step, to be delivered by the next clock poll, and account for its time. -/
def step (c : Console) : Console :=
  { c with
    machine := c.machine.step
    clock := c.clock.impulse
    elapsedMs := c.elapsedMs + c.clock.speed.msPerTick }

/-- Stop and reset the machine; `wipe` also clears the panels and the typed address. -/
def reset (c : Console) (wipe : Bool) : Console :=
  { c with
    machine := (c.machine.setRunning false).reset wipe
    panels := if wipe then c.panels.wipe else c.panels
    addressBytes := if wipe then Vector.replicate 2 0 else c.addressBytes
    lastCycles := 0 }

/-- Show or hide the character view. -/
def toggleAscii (c : Console) : Console :=
  let panels := { c.panels with ascii := c.panels.ascii.setHidden c.panels.asciiVisible }
  { c with panels }.redraw

/-- Move the cursor of the focused grid. At an edge the focus moves between registers and data pointer,
and the memory window scrolls by a row as far as there are bytes. -/
def move (c : Console) (direction : Direction) : Console :=
  match c.focused.moveCursor direction with
  | (.moved, _) => c.moveFocused direction
  | (.boundary, _) =>
    match c.focus, direction with
    | .registers, .right => c.enter .dataPointer
    | .dataPointer, .left => c.enter .registers
    | .memory, .up => { c with windowBase := c.windowBase - memoryCols }
    | .memory, .down =>
      if c.windowBase + memoryWindow < c.machine.cpu.spaceSize c.space then
        { c with windowBase := c.windowBase + memoryCols }
      else c
    | _, _ => c

def run (c : Console) : Command → Console
  | .switchMemory => c.switchMemory
  | .toggleRun => c.toggleRun
  | .toggleAddressInput => c.toggleAddressInput
  | .go => c.go
  | .toggleBreakpoint => c.toggleBreakpoint
  | .step => c.step
  | .faster => { c with clock := c.clock.faster }
  | .slower => { c with clock := c.clock.slower }
  | .reset => c.reset false
  | .wipe => c.reset true
  | .toggleAscii => c.toggleAscii
  | .move direction => c.move direction
  | .cycleFocus => c.enter c.focus.next
  | .digit value => { c with edit := c.edit.queue value }

/-- Handle an input byte. -/
def dispatch (c : Console) (byte : UInt8) : Console :=
  match Command.ofByte? byte with
  | some (.digit value) => c.run (.digit value)
  | some command => { c with edit := c.edit.cancel }.run command
  | none => { c with edit := c.edit.cancel }

end Mcs51.Console
