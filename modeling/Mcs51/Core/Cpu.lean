import Mcs51.Core.Sfr
import Mcs51.Core.Space
import Mcs51.Isa.Decode

/-! # Processor state

The program counter and the five memories. The two internal memories of 128 bytes have their size in
the type; the sizes of upper, external and code memory are chosen when the processor is made and may
be zero. Reading outside a memory gives 0 and writing outside it does nothing, except that code is
fetched with the address taken modulo the size of code memory.

Addresses 80h to FFh name a register when they are direct and upper RAM when they are indirect.
-/

namespace Mcs51

/-- Processor state. -/
structure Cpu where
  pc : UInt16
  sfrs : Vector UInt8 128
  lower : Vector UInt8 128
  upper : Array UInt8
  external : Array UInt8
  code : Array UInt8
deriving DecidableEq

namespace Cpu

/-! ### Registers -/

def sfr (cpu : Cpu) (r : Sfr) : UInt8 :=
  cpu.sfrs[r.index]

def setSfr (cpu : Cpu) (r : Sfr) (value : UInt8) : Cpu :=
  { cpu with sfrs := cpu.sfrs.set r.index value }

def acc (cpu : Cpu) : UInt8 :=
  cpu.sfr .acc

def setAcc (cpu : Cpu) (value : UInt8) : Cpu :=
  cpu.setSfr .acc value

/-- Whether one of the bits in `mask` is set in the program status word. -/
def flag (cpu : Cpu) (mask : UInt8) : Bool :=
  cpu.sfr .psw &&& mask != 0

/-- Set or clear the bits in `mask` in the program status word. -/
def setFlag (cpu : Cpu) (mask : UInt8) (on : Bool) : Cpu :=
  let psw := cpu.sfr .psw
  cpu.setSfr .psw (if on then psw ||| mask else psw &&& ~~~mask)

def carry (cpu : Cpu) : Bool :=
  cpu.flag Psw.cy

def dptr (cpu : Cpu) : UInt16 :=
  (cpu.sfr .dph).toUInt16 <<< 8 ||| (cpu.sfr .dpl).toUInt16

def setDptr (cpu : Cpu) (value : UInt16) : Cpu :=
  (cpu.setSfr .dph (value >>> 8).toUInt8).setSfr .dpl value.toUInt8

/-- Index in lower RAM of a register of the active bank. -/
def regIndex (cpu : Cpu) (n : Fin 8) : Fin 128 :=
  ⟨(cpu.sfr .psw).toNat / 8 % 4 * 8 + n.val, by omega⟩

/-- A register of the active bank. -/
def reg (cpu : Cpu) (n : Fin 8) : UInt8 :=
  cpu.lower[cpu.regIndex n]

/-- Write a register of the active bank. -/
def setReg (cpu : Cpu) (n : Fin 8) (value : UInt8) : Cpu :=
  { cpu with lower := cpu.lower.set (cpu.regIndex n) value }

/-- R0 or R1 of the active bank. -/
def pointer (cpu : Cpu) (i : Fin 2) : UInt8 :=
  cpu.reg (i.castLE (by decide))

/-! ### Whole memories -/

def memory (cpu : Cpu) : Space → Array UInt8
  | .sfr => cpu.sfrs.toArray
  | .lower => cpu.lower.toArray
  | .upper => cpu.upper
  | .external => cpu.external
  | .rom => cpu.code

def spaceSize (cpu : Cpu) (space : Space) : Nat :=
  (cpu.memory space).size

/-- A byte of a memory; 0 outside it. -/
def read (cpu : Cpu) (space : Space) (addr : Nat) : UInt8 :=
  ((cpu.memory space)[addr]?).getD 0

/-- Write a byte of a memory; nothing happens outside it. -/
def write (cpu : Cpu) (space : Space) (addr : Nat) (value : UInt8) : Cpu :=
  match space with
  | .sfr => { cpu with sfrs := cpu.sfrs.setIfInBounds addr value }
  | .lower => { cpu with lower := cpu.lower.setIfInBounds addr value }
  | .upper => { cpu with upper := cpu.upper.setIfInBounds addr value }
  | .external => { cpu with external := cpu.external.setIfInBounds addr value }
  | .rom => { cpu with code := cpu.code.setIfInBounds addr value }

/-! ### Addressing modes -/

/-- Index in lower RAM of an address below 80h. -/
def lowerIndex (addr : UInt8) (low : addr < 0x80) : Fin 128 :=
  ⟨addr.toNat, UInt8.lt_iff_toNat_lt.mp low⟩

/-- The byte at a direct address. -/
def readDirect (cpu : Cpu) (addr : UInt8) : UInt8 :=
  if h : addr < 0x80 then cpu.lower[lowerIndex addr h]
  else cpu.sfr ⟨addr, UInt8.not_lt.mp h⟩

/-- Write the byte at a direct address. -/
def writeDirect (cpu : Cpu) (addr : UInt8) (value : UInt8) : Cpu :=
  if h : addr < 0x80 then
    { cpu with lower := cpu.lower.set (lowerIndex addr h) value }
  else cpu.setSfr ⟨addr, UInt8.not_lt.mp h⟩ value

/-- The byte at an indirect address. -/
def readIndirect (cpu : Cpu) (addr : UInt8) : UInt8 :=
  if h : addr < 0x80 then cpu.lower[lowerIndex addr h]
  else (cpu.upper[addr.toNat - 0x80]?).getD 0

/-- Write the byte at an indirect address. -/
def writeIndirect (cpu : Cpu) (addr : UInt8) (value : UInt8) : Cpu :=
  if h : addr < 0x80 then
    { cpu with lower := cpu.lower.set (lowerIndex addr h) value }
  else { cpu with upper := cpu.upper.setIfInBounds (addr.toNat - 0x80) value }

/-- The direct address of the byte that holds an addressable bit: bits below 80h lie in lower RAM
from 20h on, the others in the registers whose address is a multiple of eight. -/
def bitByte (bit : UInt8) : UInt8 :=
  if bit < 0x80 then 0x20 + bit / 8 else bit &&& 0xF8

def bitMask (bit : UInt8) : UInt8 :=
  1 <<< (bit &&& 0x07)

def readBit (cpu : Cpu) (bit : UInt8) : Bool :=
  cpu.readDirect (bitByte bit) &&& bitMask bit != 0

def writeBit (cpu : Cpu) (bit : UInt8) (on : Bool) : Cpu :=
  let byte := cpu.readDirect (bitByte bit)
  cpu.writeDirect (bitByte bit) (if on then byte ||| bitMask bit else byte &&& ~~~(bitMask bit))

def readPlace (cpu : Cpu) : Place → UInt8
  | .acc => cpu.acc
  | .reg n => cpu.reg n
  | .indirect i => cpu.readIndirect (cpu.pointer i)
  | .direct addr => cpu.readDirect addr

def writePlace (cpu : Cpu) (p : Place) (value : UInt8) : Cpu :=
  match p with
  | .acc => cpu.setAcc value
  | .reg n => cpu.setReg n value
  | .indirect i => cpu.writeIndirect (cpu.pointer i) value
  | .direct addr => cpu.writeDirect addr value

/-- The byte that a source supplies. -/
def readSource (cpu : Cpu) : Source → UInt8
  | .place p => cpu.readPlace p
  | .immediate value => value

def readBitPlace (cpu : Cpu) : BitPlace → Bool
  | .carry => cpu.carry
  | .bit addr => cpu.readBit addr

def writeBitPlace (cpu : Cpu) (target : BitPlace) (on : Bool) : Cpu :=
  match target with
  | .carry => cpu.setFlag Psw.cy on
  | .bit addr => cpu.writeBit addr on

/-- The external address that a pointer holds. -/
def externalAddr (cpu : Cpu) : Pointer → Nat
  | .dptr => cpu.dptr.toNat
  | .reg i => (cpu.pointer i).toNat

/-! ### Code -/

/-- The code byte fetched for an address: addresses wrap at the size of code memory, and an empty
code memory supplies zeros. -/
def fetch (cpu : Cpu) (addr : UInt16) : UInt8 :=
  (cpu.code[addr.toNat % cpu.code.size]?).getD 0

/-- The instruction at an address. -/
def decode (cpu : Cpu) (addr : UInt16) : Instruction :=
  Instruction.decode cpu.fetch addr

/-! ### Reset -/

/-- The registers after a reset: the stack pointer is 07h, the ports are FFh, all else is 0. -/
def resetSfrs : Vector UInt8 128 :=
  let zero : Vector UInt8 128 := Vector.replicate 128 0
  ((((zero.set Sfr.sp.index 0x07).set Sfr.p0.index 0xFF).set Sfr.p1.index 0xFF).set
    Sfr.p2.index 0xFF).set Sfr.p3.index 0xFF

/-- Reset of program counter and registers; `wipe` also clears internal and external RAM. Code memory
is never touched. -/
def reset (cpu : Cpu) (wipe : Bool) : Cpu :=
  if wipe then
    { cpu with
      pc := 0
      sfrs := resetSfrs
      lower := Vector.replicate 128 0
      upper := Array.replicate cpu.upper.size 0
      external := Array.replicate cpu.external.size 0 }
  else { cpu with pc := 0, sfrs := resetSfrs }

/-- A processor after power-on, with memories of the given sizes. -/
def new (codeSize externalSize upperSize : Nat) : Cpu where
  pc := 0
  sfrs := resetSfrs
  lower := Vector.replicate 128 0
  upper := Array.replicate upperSize 0
  external := Array.replicate externalSize 0
  code := Array.replicate codeSize 0

end Cpu

end Mcs51
