import Mcs51.Isa.Instruction

/-! # Decoding

The opcode map has sixteen columns, one per low half of the opcode. Column 1 holds the page-wide
jumps and calls; from column 4 on the column names an operand (accumulator or immediate, direct,
indirect, register) and the row names the operation. `decode` reads at most three code bytes,
through whatever address rule `fetch` implements.
-/

namespace Mcs51

/-- The instruction bytes at an address: the opcode and the two bytes behind it. -/
structure CodeBytes where
  addr : UInt16
  opcode : UInt8
  first : UInt8
  second : UInt8
deriving DecidableEq, Repr

namespace CodeBytes

/-- The address that a signed offset reaches from the end of an instruction of `length` bytes. -/
def relative (c : CodeBytes) (length : UInt16) (offset : UInt8) : UInt16 :=
  c.addr + length + offset.toInt8.toInt16.toUInt16

/-- The two bytes behind the opcode as a word, high byte first. -/
def word (c : CodeBytes) : UInt16 :=
  c.first.toUInt16 <<< 8 ||| c.second.toUInt16

/-- The target within the 2K page of the next instruction; the opcode holds its top three bits. -/
def pageTarget (c : CodeBytes) : UInt16 :=
  (c.addr + 2) &&& 0xF800 ||| (c.opcode &&& 0xE0).toUInt16 * 8 ||| c.first.toUInt16

/-- The row of the opcode map: the high half of the opcode. -/
def row (c : CodeBytes) : Nat :=
  c.opcode.toNat / 16

/-- The column of the opcode map: the low half of the opcode. -/
def column (c : CodeBytes) : Nat :=
  c.opcode.toNat % 16

/-- The place that a column from 4 on names. -/
def place (c : CodeBytes) : Place :=
  match c.column with
  | 4 => .acc
  | 5 => .direct c.first
  | 6 => .indirect 0
  | 7 => .indirect 1
  | n => .reg (Fin.ofNat 8 n)

/-- The source that a column from 4 on names: as `place`, with an immediate byte in column 4. -/
def source (c : CodeBytes) : Source :=
  if c.column = 4 then .immediate c.first else .place c.place

/-- Column 0: bit branches, condition branches, and the data pointer. -/
def column0 (c : CodeBytes) : Instruction :=
  match c.row with
  | 0x0 => .nop
  | 0x1 => .bitBranch .setClearing c.first (c.relative 3 c.second)
  | 0x2 => .bitBranch .set c.first (c.relative 3 c.second)
  | 0x3 => .bitBranch .clear c.first (c.relative 3 c.second)
  | 0x4 => .branch .carry (c.relative 2 c.first)
  | 0x5 => .branch .noCarry (c.relative 2 c.first)
  | 0x6 => .branch .zero (c.relative 2 c.first)
  | 0x7 => .branch .nonzero (c.relative 2 c.first)
  | 0x8 => .jump .short (c.relative 2 c.first)
  | 0x9 => .movDptr c.word
  | 0xA => .carryLogic .orl c.first true
  | 0xB => .carryLogic .anl c.first true
  | 0xC => .push c.first
  | 0xD => .pop c.first
  | 0xE => .loadExternal .dptr
  | _ => .storeExternal .dptr

/-- Column 2: full jumps and returns, logic into a direct byte, and bits. -/
def column2 (c : CodeBytes) : Instruction :=
  match c.row with
  | 0x0 => .jump .long c.word
  | 0x1 => .call .long c.word
  | 0x2 => .ret
  | 0x3 => .reti
  | 0x4 => .logic .orl (.direct c.first) (.place .acc)
  | 0x5 => .logic .anl (.direct c.first) (.place .acc)
  | 0x6 => .logic .xrl (.direct c.first) (.place .acc)
  | 0x7 => .carryLogic .orl c.first false
  | 0x8 => .carryLogic .anl c.first false
  | 0x9 => .bitFromCarry c.first
  | 0xA => .carryFromBit c.first
  | 0xB => .bitOp .cpl (.bit c.first)
  | 0xC => .bitOp .clr (.bit c.first)
  | 0xD => .bitOp .setb (.bit c.first)
  | 0xE => .loadExternal (.reg 0)
  | _ => .storeExternal (.reg 0)

/-- Column 3: rotations, logic into a direct byte, code reads, and the carry flag. -/
def column3 (c : CodeBytes) : Instruction :=
  match c.row with
  | 0x0 => .rotate .rr
  | 0x1 => .rotate .rrc
  | 0x2 => .rotate .rl
  | 0x3 => .rotate .rlc
  | 0x4 => .logic .orl (.direct c.first) (.immediate c.second)
  | 0x5 => .logic .anl (.direct c.first) (.immediate c.second)
  | 0x6 => .logic .xrl (.direct c.first) (.immediate c.second)
  | 0x7 => .jumpTable
  | 0x8 => .loadCode .pc
  | 0x9 => .loadCode .dptr
  | 0xA => .incDptr
  | 0xB => .bitOp .cpl .carry
  | 0xC => .bitOp .clr .carry
  | 0xD => .bitOp .setb .carry
  | 0xE => .loadExternal (.reg 1)
  | _ => .storeExternal (.reg 1)

/-- Columns 4 to F: one operation per row on the operand that the column names. The accumulator's
own column, and the direct column in a few rows, hold something else. -/
def operandColumn (c : CodeBytes) : Instruction :=
  match c.row, c.column with
  | 0x0, _ => .inc c.place
  | 0x1, _ => .dec c.place
  | 0x2, _ => .arith .add c.source
  | 0x3, _ => .arith .addc c.source
  | 0x4, _ => .logic .orl .acc c.source
  | 0x5, _ => .logic .anl .acc c.source
  | 0x6, _ => .logic .xrl .acc c.source
  | 0x7, 5 => .mov (.direct c.first) (.immediate c.second)
  | 0x7, _ => .mov c.place (.immediate c.first)
  | 0x8, 4 => .div
  -- Of two direct operands the source comes first in the encoding.
  | 0x8, 5 => .mov (.direct c.second) (.place (.direct c.first))
  | 0x8, _ => .mov (.direct c.first) (.place c.place)
  | 0x9, _ => .arith .subb c.source
  | 0xA, 4 => .mul
  | 0xA, 5 => .reserved
  | 0xA, _ => .mov c.place (.place (.direct c.first))
  | 0xB, 4 => .compareBranch .acc (.immediate c.first) (c.relative 3 c.second)
  | 0xB, 5 => .compareBranch .acc (.place (.direct c.first)) (c.relative 3 c.second)
  | 0xB, _ => .compareBranch c.place (.immediate c.first) (c.relative 3 c.second)
  | 0xC, 4 => .swap
  | 0xC, _ => .exchange c.place
  | 0xD, 4 => .decimalAdjust
  | 0xD, 5 => .countBranch (.direct c.first) (c.relative 3 c.second)
  | 0xD, 6 => .exchangeDigit 0
  | 0xD, 7 => .exchangeDigit 1
  | 0xD, _ => .countBranch c.place (c.relative 2 c.first)
  | 0xE, 4 => .clearAcc
  | 0xE, _ => .mov .acc (.place c.place)
  | _, 4 => .complementAcc
  | _, _ => .mov c.place (.place .acc)

def instruction (c : CodeBytes) : Instruction :=
  match c.column with
  | 0 => c.column0
  | 1 => if c.row % 2 = 0 then .jump .absolute c.pageTarget else .call .absolute c.pageTarget
  | 2 => c.column2
  | 3 => c.column3
  | _ => c.operandColumn

end CodeBytes

namespace Instruction

/-- Decode the instruction at `addr`, reading code bytes through `fetch`. -/
def decode (fetch : UInt16 → UInt8) (addr : UInt16) : Instruction :=
  CodeBytes.instruction ⟨addr, fetch addr, fetch (addr + 1), fetch (addr + 2)⟩

end Instruction

end Mcs51
