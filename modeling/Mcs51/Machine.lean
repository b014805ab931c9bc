import Mcs51.Core.Execute
import Mcs51.Isa.Assembly
import Mcs51.IntelHex

/-! # The machine under control

A processor with run, step and breakpoint control. Every clock tick executes at most one instruction.
A breakpoint halts the machine before the instruction at its address is executed; the halt is
remembered so that the next tick executes that instruction.
-/

namespace Mcs51

/-- Clock cycles that one instruction is counted as. -/
def cyclesPerInstruction : Nat := 12

/-- A processor with its run control. -/
structure Machine where
  cpu : Cpu
  running : Bool
  /-- One instruction is to be executed on the next tick even if the machine is stopped. -/
  stepPending : Bool
  breakpoint : Option UInt16
  /-- Execution halted on the breakpoint and has not moved on yet. -/
  atBreakpoint : Bool
  /-- A halt that has not been reported yet. -/
  hit : Bool
  cycles : Nat
deriving DecidableEq

/-- An instruction as it is listed: its address, its bytes and its text. -/
structure Listing where
  address : UInt16
  opcodes : List UInt8
  text : String
deriving DecidableEq, Repr

namespace Machine

/-- A stopped machine after power-on, with memories of the given sizes. -/
def new (codeSize externalSize upperSize : Nat) : Machine where
  cpu := Cpu.new codeSize externalSize upperSize
  running := false
  stepPending := false
  breakpoint := none
  atBreakpoint := false
  hit := false
  cycles := 0

/-- Stop free run and execute exactly one instruction on the next tick. -/
def step (m : Machine) : Machine :=
  { m with running := false, stepPending := true }

def setRunning (m : Machine) (running : Bool) : Machine :=
  { m with running }

/-- Set or remove the breakpoint. Removing it forgets that execution halted there. -/
def setBreakpoint (m : Machine) (addr : Option UInt16) : Machine :=
  { m with breakpoint := addr, atBreakpoint := m.atBreakpoint && addr.isSome }

def setPc (m : Machine) (addr : UInt16) : Machine :=
  { m with cpu := { m.cpu with pc := addr } }

/-- Reset the processor and remove the breakpoint; `wipe` also clears data memory. Whether the machine
runs, and a halt not yet reported, are left alone. -/
def reset (m : Machine) (wipe : Bool) : Machine :=
  { m with
    cpu := m.cpu.reset wipe
    stepPending := false
    breakpoint := none
    atBreakpoint := false
    cycles := 0 }

def execute (m : Machine) : Machine :=
  { m with cpu := m.cpu.step, cycles := m.cycles + cyclesPerInstruction }

/-- Whether the next tick of a machine that is to execute halts on the breakpoint instead. -/
def halts (m : Machine) : Bool :=
  m.breakpoint == some m.cpu.pc && !m.atBreakpoint

/-- One clock tick. -/
def tick (m : Machine) : Machine :=
  let next :=
    if m.running || m.stepPending then
      if m.halts then { m with atBreakpoint := true, running := false, hit := true }
      else { m with atBreakpoint := false }.execute
    else m
  { next with stepPending := false }

/-- Report a halt on the breakpoint once. -/
def takeHit (m : Machine) : Bool × Machine :=
  (m.hit, { m with hit := false })

/-- A byte of a memory; 0 outside it. -/
def readByte (m : Machine) (space : Space) (addr : Nat) : UInt8 :=
  m.cpu.read space addr

/-- Write a byte of a memory; nothing happens outside it. -/
def writeByte (m : Machine) (space : Space) (addr : Nat) (value : UInt8) : Machine :=
  { m with cpu := m.cpu.write space addr value }

/-- Register by number: 0 is the accumulator, 1 to 8 are R0 to R7 of the active bank, 9 is B and 10 the
data pointer. Other numbers read as 0. -/
def readRegister (m : Machine) (index : Nat) : UInt16 :=
  if index = 0 then m.cpu.acc.toUInt16
  else if bank : index - 1 < 8 then (m.cpu.reg ⟨index - 1, bank⟩).toUInt16
  else if index = 9 then (m.cpu.sfr .b).toUInt16
  else if index = 10 then m.cpu.dptr
  else 0

/-- Write a register by number; byte registers take the low byte, other numbers nothing. -/
def writeRegister (m : Machine) (index : Nat) (value : UInt16) : Machine :=
  { m with
    cpu :=
      if index = 0 then m.cpu.setAcc value.toUInt8
      else if bank : index - 1 < 8 then m.cpu.setReg ⟨index - 1, bank⟩ value.toUInt8
      else if index = 9 then m.cpu.setSfr .b value.toUInt8
      else if index = 10 then m.cpu.setDptr value
      else m.cpu }

/-- List the instruction at an address. Its bytes are read from code memory as a space, so bytes past
the end of code memory are listed as 0. -/
def list (m : Machine) (addr : UInt16) : Listing :=
  let instruction := m.cpu.decode addr
  { address := addr
    opcodes := (List.range instruction.length).map fun i =>
      m.readByte .rom (addr + UInt16.ofNat i).toNat
    text := instruction.text }

/-- The bytes of a program image with their addresses, in file order. -/
def imageBytes (chunks : List IntelHex.Chunk) : List (Nat × UInt8) :=
  chunks.flatMap fun chunk => chunk.data.mapIdx fun offset byte => (chunk.address.toNat + offset, byte)

/-- Copy an Intel HEX text into code memory. Bytes past the end of code memory are dropped; the result
counts the others. On an error nothing is copied. -/
def loadHex (m : Machine) (text : String) : Except IntelHex.Error (Nat × Machine) := do
  let chunks ← IntelHex.parse text
  let size := m.cpu.spaceSize .rom
  let bytes := (imageBytes chunks).filter fun entry => entry.1 < size
  return (bytes.length, bytes.foldl (fun m entry => m.writeByte .rom entry.1 entry.2) m)

end Machine

end Mcs51
