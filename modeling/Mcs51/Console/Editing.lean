import Mcs51.Console.Refresh

/-! # Editing in place

Where the digits go. The focus and the cursor of the focused grid name a byte; a digit replaces one of
its nibbles, and a completed byte moves the cursor on.
-/

namespace Mcs51.Console

/-- The byte under the cursor of the focused grid. -/
def pointed (c : Console) : EditTarget :=
  let cursor := c.focused.surface.cursor
  match c.focus with
  | .memory => .memory c.space (cursor.row * memoryCols + cursor.col + c.windowBase)
  | .registers => .register cursor.col
  | .dataPointer => .dataPointer cursor.col
  | .addressInput => .addressInput cursor.col

/-- The value of a byte that can be edited. -/
def readTarget (c : Console) : EditTarget → UInt8
  | .memory space addr => c.machine.readByte space addr
  | .register index => (c.machine.readRegister index).toUInt8
  | .dataPointer half => ((wordBytes c.machine.cpu.dptr)[half]?).getD 0
  | .addressInput half => (c.addressBytes[half]?).getD 0

/-- Write a byte that can be edited. A half of the data pointer is written into its panel first; the
pointer then takes both halves from there. -/
def writeTarget (c : Console) (target : EditTarget) (value : UInt8) : Console :=
  match target with
  | .memory space addr => { c with machine := c.machine.writeByte space addr value }
  | .register index => { c with machine := c.machine.writeRegister index value.toUInt16 }
  | .dataPointer half =>
    let live := c.panels.dataPointer.live.set 0 half value
    let dptr := (live.surface.get 0 0).toUInt16 <<< 8 ||| (live.surface.get 0 1).toUInt16
    { c with
      panels := { c.panels with dataPointer := { c.panels.dataPointer with live } }
      machine := c.machine.writeRegister 10 dptr }
  | .addressInput half => { c with addressBytes := c.addressBytes.setIfInBounds half value }

/-- Point at the byte under the cursor. The caret goes to its first digit, unless its second digit is
the next one to be typed. -/
def pointAtCursor (c : Console) : Console :=
  let target := c.pointed
  { c with
    edit := c.edit.pointAt target
    pointedValue := c.readTarget target
    caret := if c.edit.lowPending then c.caret else c.focused.surface.caretPosition }

def moveFocused (c : Console) (direction : Direction) : Console :=
  c.mapFocused fun grid => (grid.moveCursor direction).2

/-- Apply a digit to the byte pointed at. -/
def commitDigit (c : Console) (digit : Fin 16) : Console :=
  match c.edit.target with
  | none => c
  | some target =>
    let (write, edit) := c.edit.apply (c.readTarget target) digit
    let c := { c with edit }.writeTarget target write.value
    let c := { c with caret := { c.caret with col := c.caret.col + write.caretShift } }
    if write.completed then c.moveFocused .right else c

end Mcs51.Console
