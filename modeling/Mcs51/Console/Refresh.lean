import Mcs51.Console.Basic

/-! # Refreshing the panels

Every frame the panels are filled from the machine. The functions here say what each panel holds; they
depend on the machine, the memory in view and the window base only.
-/

namespace Mcs51.Console

/-- The two bytes of a word, high byte first. -/
def wordBytes (word : UInt16) : List UInt8 :=
  [(word >>> 8).toUInt8, word.toUInt8]

def sfr (c : Console) (r : Sfr) : UInt8 :=
  c.machine.cpu.sfr r

/-- Bytes of the memory in view from an address on. -/
def viewBytes (c : Console) (addr count : Nat) : List UInt8 :=
  (List.range count).map fun i => c.machine.readByte c.space (addr + i)

/-- First address of a row of the memory window. -/
def rowAddr (c : Console) (row : Nat) : Nat :=
  c.windowBase + row * memoryCols

def memoryBytes (c : Console) : List (List UInt8) :=
  (List.range memoryRows).map fun row => c.viewBytes (c.rowAddr row) memoryCols

def memoryAddrBytes (c : Console) : List (List UInt8) :=
  (List.range memoryRows).map fun row => wordBytes (UInt16.ofNat (c.rowAddr row))

/-- The glyph byte that shows a byte in the character view: itself if it is a visible ASCII character, a
dot otherwise. -/
def asciiByte (value : UInt8) : UInt8 :=
  if 32 < value ∧ value < 127 then value else 0x2E

/-- A line of the character view: an address, a blank cell, and the characters of eight bytes. -/
def asciiLine (c : Console) (line : Nat) : List UInt8 × List UInt8 :=
  (Codepage.encode (Text.wordHex (UInt16.ofNat (c.rowAddr line))),
    (c.viewBytes (c.rowAddr line) memoryCols).map asciiByte)

/-- Write a line of the character view. Lines below the fourth stand in a second column. -/
def putAsciiLine (c : Console) (view : Surface) (line : Nat) : Surface :=
  let start := if line < asciiRows then 0 else 14
  let (addr, chars) := c.asciiLine line
  (view.setFrom (line % asciiRows) start addr).setFrom (line % asciiRows) (start + 5) chars

def putAscii (c : Console) (view : Surface) : Surface :=
  (List.range (asciiRows * 2)).foldl c.putAsciiLine view

/-- The address of a shown stack byte: the window starts seven bytes below the stack pointer and is folded
into lower RAM. -/
def stackAddr (sp : UInt8) (i : Nat) : Nat :=
  (sp.toNat + i + 249) % 128

def stackBytes (c : Console) : List (List UInt8) :=
  (List.range stackDepth).map fun i => [c.machine.readByte .lower (stackAddr (c.sfr .sp) i)]

/-- The registers A, R0 to R7 and B. -/
def registerBytes (c : Console) : List UInt8 :=
  (List.range 10).map fun i => (c.machine.readRegister i).toUInt8

def portBytes (c : Console) : List UInt8 :=
  [.sp, .p0, .p1, .p2, .p3, .ip, .ie].map c.sfr

/-- The bits of a byte, most significant first. -/
def bitsOf (byte : UInt8) : List UInt8 :=
  (List.range 8).map fun i => byte >>> UInt8.ofNat (7 - i) &&& 1

def controlBytes (c : Console) : List UInt8 :=
  [.tmod, .tcon, .th0, .th1, .tl0, .tl1, .scon, .pcon].map c.sfr

/-- The opcode column of the disassembly: a byte in hex, blank past the end of the instruction. -/
def opcodeText (opcodes : List UInt8) (i : Nat) : String :=
  (opcodes[i]?.map Text.byteHex).getD "  "

/-- A listing as a line of text: address, three opcode columns and the instruction. -/
def listingText (l : Listing) : String :=
  Text.wordHex l.address ++ "  " ++ opcodeText l.opcodes 0 ++ " " ++ opcodeText l.opcodes 1 ++ " " ++
    opcodeText l.opcodes 2 ++ "  " ++ l.text

/-- The disassembly of the instruction at the program counter, cut or padded to its width. -/
def codeLine (c : Console) : String :=
  Text.fit codeWidth (listingText (c.machine.list c.machine.cpu.pc))

/-- Fill the panels from the machine. The character view is left alone while it is hidden. -/
def refreshPanels (c : Console) (p : Panels) : Panels :=
  { p with
    memory := p.memory.mapSurface (·.setRowsFrom 0 c.memoryBytes)
    memoryAddr := p.memoryAddr.mapSurface (·.setRowsFrom 0 c.memoryAddrBytes)
    ascii := if p.asciiVisible then p.ascii.mapSurface c.putAscii else p.ascii
    stack := p.stack.mapSurface (·.setRowsFrom 0 c.stackBytes)
    addressInput := p.addressInput.setRow 0 c.addressBytes.toList
    status := p.status.setRow (bitsOf (c.sfr .psw))
    ports := p.ports.setRow c.portBytes
    registers := p.registers.setRow c.registerBytes
    dataPointer := p.dataPointer.setRow (wordBytes c.machine.cpu.dptr)
    code := p.code.setRow (Codepage.encode c.codeLine)
    control := p.control.setRow c.controlBytes }

/-- Append to the trails if cycles have passed since the last frame, then fill the panels. -/
def refresh (c : Console) : Console :=
  let cycles := c.machine.cycles
  let panels := if c.lastCycles < cycles then c.panels.advance else c.panels
  { c with panels := c.refreshPanels panels, lastCycles := cycles }

end Mcs51.Console
