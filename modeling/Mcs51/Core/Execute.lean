import Mcs51.Core.Cpu

/-! # Execution

`Cpu.step` decodes the instruction at the program counter, moves the program counter past it, executes
it and updates the parity flag. Timers, the serial port and interrupts are not modelled: registers are
plain storage.
-/

namespace Mcs51.Cpu

/-! ### Stack and jumps -/

/-- Push a byte onto the stack, which grows upwards through the indirect addresses. -/
def push (cpu : Cpu) (value : UInt8) : Cpu :=
  let sp := cpu.sfr .sp + 1
  (cpu.setSfr .sp sp).writeIndirect sp value

/-- Pop a byte off the stack. -/
def pop (cpu : Cpu) : UInt8 × Cpu :=
  let sp := cpu.sfr .sp
  (cpu.readIndirect sp, cpu.setSfr .sp (sp - 1))

/-- Push the program counter, low byte first. -/
def pushPc (cpu : Cpu) : Cpu :=
  (cpu.push cpu.pc.toUInt8).push (cpu.pc >>> 8).toUInt8

/-- Pop the program counter, high byte first. -/
def popPc (cpu : Cpu) : Cpu :=
  let (high, cpu) := cpu.pop
  let (low, cpu) := cpu.pop
  { cpu with pc := high.toUInt16 <<< 8 ||| low.toUInt16 }

def jump (cpu : Cpu) (target : UInt16) : Cpu :=
  { cpu with pc := target }

def jumpIf (cpu : Cpu) (condition : Bool) (target : UInt16) : Cpu :=
  if condition then cpu.jump target else cpu

/-! ### Arithmetic -/

/-- Add a byte and a carry to the accumulator. -/
def add (cpu : Cpu) (value : UInt8) (carryIn : Bool) : Cpu :=
  let a := cpu.acc
  let c := carryIn.toNat
  let result := a + value + carryIn.toUInt8
  let cpu := cpu.setFlag Psw.cy (0xFF < a.toNat + value.toNat + c)
  let cpu := cpu.setFlag Psw.ac (0x0F < a.toNat % 16 + value.toNat % 16 + c)
  let cpu := cpu.setFlag Psw.ov ((a ^^^ result) &&& (value ^^^ result) &&& 0x80 != 0)
  cpu.setAcc result

/-- Subtract a byte and the carry flag from the accumulator; the carry flag receives the borrow. -/
def subtract (cpu : Cpu) (value : UInt8) : Cpu :=
  let a := cpu.acc
  let c := cpu.carry.toNat
  let result := a - value - cpu.carry.toUInt8
  let cpu := cpu.setFlag Psw.cy (a.toNat < value.toNat + c)
  let cpu := cpu.setFlag Psw.ac (a.toNat % 16 < value.toNat % 16 + c)
  let cpu := cpu.setFlag Psw.ov ((a ^^^ value) &&& (a ^^^ result) &&& 0x80 != 0)
  cpu.setAcc result

/-- Multiply accumulator and B; B receives the high byte of the product. -/
def multiply (cpu : Cpu) : Cpu :=
  let product := cpu.acc.toUInt16 * (cpu.sfr .b).toUInt16
  let cpu := (cpu.setAcc product.toUInt8).setSfr .b (product >>> 8).toUInt8
  (cpu.setFlag Psw.cy false).setFlag Psw.ov (0xFF < product)

/-- Divide the accumulator by B; B receives the remainder. Division by zero only sets the overflow
flag. -/
def divide (cpu : Cpu) : Cpu :=
  let a := cpu.acc
  let divisor := cpu.sfr .b
  let cpu := cpu.setFlag Psw.cy false
  if divisor = 0 then cpu.setFlag Psw.ov true
  else ((cpu.setAcc (a / divisor)).setSfr .b (a % divisor)).setFlag Psw.ov false

/-- Turn the binary sum of two packed decimal bytes into a packed decimal byte. The carry flag is set
when the sum passes 99 and never cleared. -/
def decimalAdjust (cpu : Cpu) : Cpu :=
  let a := cpu.acc.toNat
  let low := if 9 < a % 16 || cpu.flag Psw.ac then a + 0x06 else a
  let cpu := if 0xFF < low then cpu.setFlag Psw.cy true else cpu
  let high := if 9 < low / 16 % 16 || 0xFF < low || cpu.carry then low + 0x60 else low
  let cpu := if 0xFF < high then cpu.setFlag Psw.cy true else cpu
  cpu.setAcc (UInt8.ofNat high)

/-- Rotate the accumulator by one bit, through the carry flag or around itself. -/
def rotate (cpu : Cpu) (how : Rotation) : Cpu :=
  let a := cpu.acc
  match how with
  | .rl => cpu.setAcc (a <<< 1 ||| a >>> 7)
  | .rr => cpu.setAcc (a >>> 1 ||| a <<< 7)
  | .rlc => (cpu.setAcc (a <<< 1 ||| cpu.carry.toUInt8)).setFlag Psw.cy (a &&& 0x80 != 0)
  | .rrc => (cpu.setAcc (a >>> 1 ||| cpu.carry.toUInt8 <<< 7)).setFlag Psw.cy (a &&& 0x01 != 0)

end Cpu

/-- The result of a bitwise operation. -/
def LogicOp.apply : LogicOp → UInt8 → UInt8 → UInt8
  | .orl, a, b => a ||| b
  | .anl, a, b => a &&& b
  | .xrl, a, b => a ^^^ b

/-- The result of a logical operation on the carry flag. -/
def CarryOp.apply : CarryOp → Bool → Bool → Bool
  | .orl, a, b => a || b
  | .anl, a, b => a && b

/-- The new value of a bit. -/
def BitOp.apply : BitOp → Bool → Bool
  | .cpl, old => !old
  | .clr, _ => false
  | .setb, _ => true

namespace Cpu

/-- Whether a branch condition holds. -/
def holds (cpu : Cpu) : Condition → Bool
  | .carry => cpu.carry
  | .noCarry => !cpu.carry
  | .zero => cpu.acc == 0
  | .nonzero => cpu.acc != 0

/-- Execute an instruction; the program counter already stands behind it. -/
def execute (cpu : Cpu) : Instruction → Cpu
  | .nop | .reserved => cpu
  | .jump _ target => cpu.jump target
  | .jumpTable => cpu.jump (cpu.dptr + cpu.acc.toUInt16)
  | .call _ target => cpu.pushPc.jump target
  | .ret | .reti => cpu.popPc
  | .inc p => cpu.writePlace p (cpu.readPlace p + 1)
  | .dec p => cpu.writePlace p (cpu.readPlace p - 1)
  | .incDptr => cpu.setDptr (cpu.dptr + 1)
  | .arith .add src => cpu.add (cpu.readSource src) false
  | .arith .addc src => cpu.add (cpu.readSource src) cpu.carry
  | .arith .subb src => cpu.subtract (cpu.readSource src)
  | .mul => cpu.multiply
  | .div => cpu.divide
  | .decimalAdjust => cpu.decimalAdjust
  | .logic op dst src => cpu.writePlace dst (op.apply (cpu.readPlace dst) (cpu.readSource src))
  | .carryLogic op bit complement =>
      cpu.setFlag Psw.cy (op.apply cpu.carry (cpu.readBit bit != complement))
  | .clearAcc => cpu.setAcc 0
  | .complementAcc => cpu.setAcc (~~~cpu.acc)
  | .rotate how => cpu.rotate how
  | .swap => cpu.setAcc (cpu.acc <<< 4 ||| cpu.acc >>> 4)
  | .bitOp op target => cpu.writeBitPlace target (op.apply (cpu.readBitPlace target))
  | .mov dst src => cpu.writePlace dst (cpu.readSource src)
  | .movDptr value => cpu.setDptr value
  | .bitFromCarry bit => cpu.writeBit bit cpu.carry
  | .carryFromBit bit => cpu.setFlag Psw.cy (cpu.readBit bit)
  | .loadCode .dptr => cpu.setAcc (cpu.fetch (cpu.dptr + cpu.acc.toUInt16))
  | .loadCode .pc => cpu.setAcc (cpu.fetch (cpu.pc + cpu.acc.toUInt16))
  | .loadExternal src => cpu.setAcc (cpu.read .external (cpu.externalAddr src))
  | .storeExternal dst => cpu.write .external (cpu.externalAddr dst) cpu.acc
  | .push addr => cpu.push (cpu.readDirect addr)
  | .pop addr =>
      let (value, cpu) := cpu.pop
      cpu.writeDirect addr value
  | .exchange p => (cpu.setAcc (cpu.readPlace p)).writePlace p cpu.acc
  | .exchangeDigit i =>
      let a := cpu.acc
      let other := cpu.readPlace (.indirect i)
      (cpu.setAcc (a &&& 0xF0 ||| other &&& 0x0F)).writePlace (.indirect i)
        (other &&& 0xF0 ||| a &&& 0x0F)
  | .branch condition target => cpu.jumpIf (cpu.holds condition) target
  | .bitBranch .set bit target => cpu.jumpIf (cpu.readBit bit) target
  | .bitBranch .clear bit target => cpu.jumpIf (!cpu.readBit bit) target
  | .bitBranch .setClearing bit target =>
      if cpu.readBit bit then (cpu.writeBit bit false).jump target else cpu
  | .compareBranch lhs rhs target =>
      let left := cpu.readPlace lhs
      let right := cpu.readSource rhs
      (cpu.setFlag Psw.cy (left < right)).jumpIf (left != right) target
  | .countBranch p target =>
      let value := cpu.readPlace p - 1
      (cpu.writePlace p value).jumpIf (value != 0) target

/-- Make the parity flag tell whether the accumulator has an odd number of set bits. -/
def updateParity (cpu : Cpu) : Cpu :=
  let a := cpu.acc
  let a := a ^^^ a >>> 4
  let a := a ^^^ a >>> 2
  let a := a ^^^ a >>> 1
  cpu.setFlag Psw.p (a &&& 1 != 0)

/-- Execute the instruction at the program counter. -/
def step (cpu : Cpu) : Cpu :=
  let instruction := cpu.decode cpu.pc
  (({ cpu with pc := cpu.pc + UInt16.ofNat instruction.length }).execute instruction).updateParity

end Mcs51.Cpu
