import Mcs51.Clock
import Mcs51.Console.Edit
import Mcs51.Console.Focus
import Mcs51.Console.Panels
import Mcs51.Machine
import Mcs51.Text.Decimal

/-! # The console

The state of the debugging console: the machine and its clock, the terminal session, the panels, and
what is being viewed and edited. This module also draws what is not drawn on every frame: the frames,
the key hints and the status message.
-/

namespace Mcs51

/-- The debugging console. -/
structure Console where
  machine : Machine
  clock : Clock
  session : Session
  panels : Panels
  focus : Focus
  /-- The memory shown in the memory window. -/
  space : Space
  /-- First address of the memory window. -/
  windowBase : Nat
  edit : Edit
  /-- The two bytes of the address for go and breakpoint, high byte first. -/
  addressBytes : Vector UInt8 2
  /-- Value of the byte pointed at, as of the last frame. -/
  pointedValue : UInt8
  /-- Place of the edit caret on the screen. -/
  caret : Coord
  /-- Cycle count as of the last frame. -/
  lastCycles : Nat
  elapsedMs : Float
  message : Option String

namespace Console

/-! ### Fixed texts -/

def hintStep : String := "[spc] step [r] run [xX] reset/wipe [+-]clk spd "

def hintMemory : String := "[m]switch mem [tab]editor focus [0-9af] input  "

def hintInteractive : String := "[i]nteractive mode "

def hintAddress : String := "[g]o [p] breakpoint"

def hintBlank : String := Text.spaces 19

def prompt : String := Text.padRight 49 "addr$ 0000"

def messageRow : Int := 28

/-- Messages end just before this column; the mark behind them is one column further. -/
def messageEnd : Int := 46

/-- Characters of a captured line that are shown as a message. -/
def lineMessageWidth : Nat := 24

/-! ### Reading the state -/

/-- The address for go and breakpoint. -/
def address (c : Console) : UInt16 :=
  c.addressBytes[0].toUInt16 <<< 8 ||| c.addressBytes[1].toUInt16

/-- The grid that has the focus. -/
def focused (c : Console) : DataGrid :=
  match c.focus with
  | .memory => c.panels.memory
  | .registers => c.panels.registers.live
  | .dataPointer => c.panels.dataPointer.live
  | .addressInput => c.panels.addressInput

/-- Change the grid that has the focus. -/
def mapFocused (c : Console) (f : DataGrid → DataGrid) : Console :=
  let p := c.panels
  { c with
    panels :=
      match c.focus with
      | .memory => { p with memory := f p.memory }
      | .registers => { p with registers := { p.registers with live := f p.registers.live } }
      | .dataPointer => { p with dataPointer := { p.dataPointer with live := f p.dataPointer.live } }
      | .addressInput => { p with addressInput := f p.addressInput } }

/-! ### Drawing what stays -/

def writeAt (c : Console) (row col : Int) (text : String) : Console :=
  { c with session := c.session.writeAt row col text }

def drawAll (c : Console) (pictures : List Picture) : Console :=
  { c with session := pictures.foldl Session.draw c.session }

/-- Draw the frames, the key hints for the focus, and the prompt. -/
def redraw (c : Console) : Console :=
  let c := c.drawAll (c.panels.frames.map Frame.picture)
  let c := (c.writeAt 25 0 hintStep).writeAt 26 0 hintMemory
  let c :=
    if c.focus = .addressInput then (c.writeAt 27 0 hintBlank).writeAt 28 0 hintAddress
    else (c.writeAt 27 0 hintInteractive).writeAt 28 0 hintBlank
  c.writeAt 29 0 prompt

/-- Erase the status message together with the mark behind it. -/
def clearMessage (c : Console) : Console :=
  match c.message with
  | none => c
  | some old =>
    { c.writeAt messageRow (messageEnd - old.length) (Text.spaces (old.length + 2)) with message := none }

/-- Replace the status message. -/
def showMessage (c : Console) (message : String) : Console :=
  let c := (c.clearMessage.writeAt messageRow (messageEnd + 1) "<").writeAt messageRow
    (messageEnd - message.length) message
  { c with message := some message }

/-- Give the focus to a part of the screen: its cursor is reset and the high nibble comes next. -/
def enter (c : Console) (focus : Focus) : Console :=
  let c := { c with focus }.mapFocused DataGrid.resetCursor
  { c with edit := c.edit.restart }.redraw

/-- A console for a machine and a clock, with the lower RAM in view. -/
def new (machine : Machine) (clock : Clock) : Console :=
  Console.redraw
    { machine, clock
      session := (Session.new.setEcho false).flush
      panels := Panels.new Space.lower.title
      focus := .memory
      space := .lower
      windowBase := 0
      edit := Edit.new
      addressBytes := Vector.replicate 2 0
      pointedValue := 0
      caret := ⟨0, 0⟩
      lastCycles := 0
      elapsedMs := 0.0
      message := none }

end Console

end Mcs51
