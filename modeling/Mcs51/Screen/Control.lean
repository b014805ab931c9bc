/-! # Control codes

The bytes that the terminal and the console give a meaning of their own.
-/

namespace Mcs51

/-- A control code. -/
inductive Control
  | nul
  /-- Start of text: begins the capture of a line. -/
  | stx
  | backspace
  | tab
  /-- Line feed: next row, ends the capture of a line. -/
  | lineFeed
  /-- Cursor left. -/
  | dc1
  /-- Cursor right. -/
  | dc2
  /-- Cursor up. -/
  | dc3
  /-- Cursor down. -/
  | dc4
  /-- Clock faster. -/
  | fs
  /-- Clock slower. -/
  | rs
  | space
  | del
  | nbsp
deriving DecidableEq, Repr

namespace Control

def all : List Control :=
  [nul, stx, backspace, tab, lineFeed, dc1, dc2, dc3, dc4, fs, rs, space, del, nbsp]

def byte : Control → UInt8
  | nul => 0x00
  | stx => 0x02
  | backspace => 0x08
  | tab => 0x09
  | lineFeed => 0x0A
  | dc1 => 0x11
  | dc2 => 0x12
  | dc3 => 0x13
  | dc4 => 0x14
  | fs => 0x1C
  | rs => 0x1E
  | space => 0x20
  | del => 0x7F
  | nbsp => 0xFF

def ofByte? (byte : UInt8) : Option Control :=
  all.find? (·.byte == byte)

/-- Whether a byte lies in the control range: 00h to 20h, 7Fh and FFh. -/
def inRange (byte : UInt8) : Bool :=
  byte ≤ 0x20 || byte == 0x7F || byte == 0xFF

end Control

end Mcs51
