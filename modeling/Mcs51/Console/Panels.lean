import Mcs51.Widget.Frame
import Mcs51.Widget.Trail
import Mcs51.Text.Lines

/-! # Panels

The layout of the console's screen: the frames, the grids inside them, and the trails of past values
above the grids that have one. Apart from the memory frame, whose title names the memory that is shown,
the frames never change.
-/

namespace Mcs51

/-- Snapshots kept of each tracked value. -/
def trailDepth : Nat := 5

def memoryCols : Nat := 8

def memoryRows : Nat := 8

def memoryWindow : Nat := memoryCols * memoryRows

/-- Bytes of the stack that are shown. -/
def stackDepth : Nat := 14

/-- Columns of the disassembly. -/
def codeWidth : Nat := 38

def asciiRows : Nat := 4

def asciiCols : Nat := 27

/-- A grid of one row and the trail of its past values in the rows above it. -/
structure Tracked where
  live : DataGrid
  trail : Trail
deriving DecidableEq

namespace Tracked

/-- A grid at a row and column of the screen, shown as `style` says, with its trail above it. -/
def new (row col : Int) (cols : Nat) (separator : Option Char) (style : DataGrid → DataGrid) : Tracked where
  live := style (DataGrid.new row col 1 cols separator)
  trail := ⟨style (DataGrid.new (row - trailDepth) col trailDepth cols separator)⟩

/-- Append the grid's row to the trail. -/
def advance (t : Tracked) : Tracked :=
  { t with trail := t.trail.push (t.live.row 0) }

def clear (t : Tracked) : Tracked :=
  ⟨t.live.clear, t.trail.clear⟩

def setRow (t : Tracked) (bytes : List UInt8) : Tracked :=
  { t with live := t.live.setRow 0 bytes }

end Tracked

/-- The values that have a trail. -/
inductive TrackedValue
  /-- The bits of the program status word. -/
  | status
  /-- SP, P0 to P3, IP, IE. -/
  | ports
  /-- A, R0 to R7, B. -/
  | registers
  | dataPointer
  /-- Disassembly of the instruction at the program counter. -/
  | code
  /-- TMOD, TCON, TH0, TH1, TL0, TL1, SCON, PCON. -/
  | control
deriving DecidableEq, Repr

/-- The parts of the screen that change. -/
structure Panels where
  memoryFrame : Frame
  memory : DataGrid
  memoryAddr : DataGrid
  ascii : DataGrid
  stack : DataGrid
  addressInput : DataGrid
  status : Tracked
  ports : Tracked
  registers : Tracked
  dataPointer : Tracked
  code : Tracked
  control : Tracked
deriving DecidableEq

namespace Panels

/-! ### Fixed frames -/

/-- Mark a row of a frame with arrows on both sides. -/
def marked (f : Frame) (row : Nat) : Frame :=
  (f.mark row 0 '>').mark row (f.surface.cols - 1) '<'

def stackFrame : Frame := marked (Frame.new 0 31 "stck" 16 6) 8

def stateFrame : Frame := Frame.new 10 0 "" 6 31

def codeFrame : Frame := marked (Frame.new 16 0 "─PC────Opcodes───Assembly" 8 42) 6

def portsFrame : Frame := marked (Frame.new 0 37 "─SP─P0─P1─P2─P3─IP─IE" 8 24) 6

def registersFrame : Frame :=
  marked (Frame.new 16 42 "─A──R0─R1─R2─R3─R4─R5─R6─R7─B──DPTR" 8 38) 6

def controlFrame : Frame :=
  marked (Frame.new 8 37 "─TMOD─TCON──TH0─TH1──TL0─TL1──SCON─PCON" 8 43) 6

def statusFrame : Frame := marked (Frame.new 0 61 "─C─ACF0R1R0Ov──P" 8 19) 6

def asciiFrame : Frame := Frame.new 24 49 "ASCII──[t]" 6 31

/-! ### Panels -/

/-- The disassembly shown before the first refresh. -/
def codePlaceholder : List UInt8 :=
  Codepage.encode (Text.padRight codeWidth "0000  00 00 00  NOP")

/-- Fill the disassembly and its trail with the placeholder. -/
def initCode (p : Panels) : Panels :=
  { p with
    code :=
      ⟨p.code.live.setRow 0 codePlaceholder,
        p.code.trail.mapSurface fun s => s.setRowsFrom 0 (List.replicate trailDepth codePlaceholder)⟩ }

/-- The source of the template that spreads the control registers under their titles. -/
def controlTemplate : String :=
  "\x7b0\x7d   \x7b1\x7d    \x7b2\x7d  \x7b3\x7d   \x7b4\x7d  \x7b5\x7d   \x7b6\x7d   \x7b7\x7d"

def zeroed (title : String) : Panels where
  memoryFrame := Frame.new 0 0 title 10 31
  memory := DataGrid.new 1 6 memoryRows memoryCols (some ' ')
  memoryAddr := DataGrid.new 1 1 memoryRows 2 none
  ascii := ((DataGrid.new 25 51 asciiRows asciiCols none).withFormat .glyph).setHidden true
  stack := (DataGrid.new 1 33 stackDepth 1 none).withTemplate "\x7b0:X2\x7d"
  addressInput := DataGrid.new 29 6 1 2 none
  status := Tracked.new 6 63 8 (some ' ') (·.withFormat .decimal)
  ports := Tracked.new 6 39 7 (some ' ') id
  registers := Tracked.new 22 44 10 (some ' ') id
  dataPointer := Tracked.new 22 74 2 none id
  code := Tracked.new 22 2 codeWidth none (·.withFormat .glyph)
  control := Tracked.new 14 39 8 none (·.withTemplate controlTemplate)

/-- Panels before the first refresh, with the title of the memory frame. -/
def new (title : String) : Panels :=
  (zeroed title).initCode

/-- All frames, in drawing order. -/
def frames (p : Panels) : List Frame :=
  [p.memoryFrame, stackFrame, stateFrame, codeFrame, portsFrame, registersFrame, controlFrame,
    statusFrame, asciiFrame]

/-- The pictures of all grids and trails, in drawing order. -/
def elements (p : Panels) : List Picture :=
  [p.memory.picture, p.memoryAddr.picture, p.ports.live.picture, p.ports.trail.picture,
    p.registers.live.picture, p.registers.trail.picture, p.dataPointer.live.picture,
    p.dataPointer.trail.picture, p.control.live.picture, p.control.trail.picture,
    p.status.live.picture, p.status.trail.picture, p.stack.picture, p.ascii.picture,
    p.addressInput.picture, p.code.live.picture, p.code.trail.picture]

def trail (p : Panels) : TrackedValue → Trail
  | .status => p.status.trail
  | .ports => p.ports.trail
  | .registers => p.registers.trail
  | .dataPointer => p.dataPointer.trail
  | .code => p.code.trail
  | .control => p.control.trail

/-- Append the present row of every tracked value to its trail. -/
def advance (p : Panels) : Panels :=
  { p with
    status := p.status.advance
    ports := p.ports.advance
    registers := p.registers.advance
    dataPointer := p.dataPointer.advance
    code := p.code.advance
    control := p.control.advance }

/-- Zero every grid and trail and restore the placeholder. -/
def wipe (p : Panels) : Panels :=
  { p with
    memory := p.memory.clear
    memoryAddr := p.memoryAddr.clear
    ascii := p.ascii.clear
    stack := p.stack.clear
    addressInput := p.addressInput.clear
    status := p.status.clear
    ports := p.ports.clear
    registers := p.registers.clear
    dataPointer := p.dataPointer.clear
    code := p.code.clear
    control := p.control.clear }.initCode

def asciiVisible (p : Panels) : Bool :=
  !p.ascii.surface.hidden

end Panels

end Mcs51
