import Mathlib.Logic.Function.Iterate
import Mathlib.Tactic.IntervalCases
import Mcs51.Proofs.Core.Operation
import Mcs51.Proofs.Isa.Encoding

/-! # Every processor can execute every instruction

A machine that decodes and executes by two separate tables, a mnemonic and a list of operands between them,
with every access and every sum checked and a fault for operands that the second table has no case for. Main
statement: from no state does it fault, and its step is the step of the processor (`step_total`).
-/

namespace Mcs51.Checked

/-- A decoded instruction: what is executed, on what, and how many bytes it takes. -/
structure Decoded where
  mnemonic : Mnemonic
  operands : List Operand
  length : UInt16

/-- The operand of a register number. -/
def register (n : UInt8) : Except Fault Operand :=
  if bound : n.toNat < 8 then return .reg ⟨n.toNat, bound⟩ else .error .index

/-- The operand of the number of a register that points into RAM. -/
def pointer (i : UInt8) : Except Fault Operand :=
  if bound : i.toNat < 2 then return .indirect ⟨i.toNat, bound⟩ else .error .index

/-! ### Decoding -/

/-- A jump or call within the 2K page. -/
def decodePage (c : CodeBytes) : Decoded :=
  let page := (c.addr + 2) &&& 0xF800
  let target := page ||| (c.opcode &&& 0xE0).toUInt16 <<< 3 ||| c.first.toUInt16
  ⟨if c.opcode >>> 4 &&& 1 = 0 then .ajmp else .acall, [.target target], 2⟩

/-- The operations on a register or on the byte that a register points at. -/
def decodeRegister (c : CodeBytes) (r : Operand) : Decoded :=
  let relative (length : UInt16) (offset : UInt8) : Operand := .target (c.relative length offset)
  match (c.opcode >>> 4).toNat with
  | 0x0 => ⟨.inc, [r], 1⟩
  | 0x1 => ⟨.dec, [r], 1⟩
  | 0x2 => ⟨.add, [.acc, r], 1⟩
  | 0x3 => ⟨.addc, [.acc, r], 1⟩
  | 0x4 => ⟨.orl, [.acc, r], 1⟩
  | 0x5 => ⟨.anl, [.acc, r], 1⟩
  | 0x6 => ⟨.xrl, [.acc, r], 1⟩
  | 0x7 => ⟨.mov, [r, .immediate c.first], 2⟩
  | 0x8 => ⟨.mov, [.direct c.first, r], 2⟩
  | 0x9 => ⟨.subb, [.acc, r], 1⟩
  | 0xA => ⟨.mov, [r, .direct c.first], 2⟩
  | 0xB => ⟨.cjne, [r, .immediate c.first, relative 3 c.second], 3⟩
  | 0xC => ⟨.xch, [.acc, r], 1⟩
  | 0xD => if 0x08 ≤ c.opcode &&& 0x0F then ⟨.djnz, [r, relative 2 c.first], 2⟩ else ⟨.xchd, [.acc, r], 1⟩
  | 0xE => ⟨.mov, [.acc, r], 1⟩
  | _ => ⟨.mov, [r, .acc], 1⟩

/-- All other opcodes, one by one. -/
def decodeOpcode (c : CodeBytes) : Decoded :=
  let relative (length : UInt16) (offset : UInt8) : Operand := .target (c.relative length offset)
  let direct := Operand.direct c.first
  let immediate := Operand.immediate c.first
  let bit := Operand.bit c.first
  match c.opcode.toNat with
  | 0x00 => ⟨.nop, [], 1⟩
  | 0x02 => ⟨.ljmp, [.target c.word], 3⟩
  | 0x03 => ⟨.rr, [.acc], 1⟩
  | 0x04 => ⟨.inc, [.acc], 1⟩
  | 0x05 => ⟨.inc, [direct], 2⟩
  | 0x10 => ⟨.jbc, [bit, relative 3 c.second], 3⟩
  | 0x12 => ⟨.lcall, [.target c.word], 3⟩
  | 0x13 => ⟨.rrc, [.acc], 1⟩
  | 0x14 => ⟨.dec, [.acc], 1⟩
  | 0x15 => ⟨.dec, [direct], 2⟩
  | 0x20 => ⟨.jb, [bit, relative 3 c.second], 3⟩
  | 0x22 => ⟨.ret, [], 1⟩
  | 0x23 => ⟨.rl, [.acc], 1⟩
  | 0x24 => ⟨.add, [.acc, immediate], 2⟩
  | 0x25 => ⟨.add, [.acc, direct], 2⟩
  | 0x30 => ⟨.jnb, [bit, relative 3 c.second], 3⟩
  | 0x32 => ⟨.reti, [], 1⟩
  | 0x33 => ⟨.rlc, [.acc], 1⟩
  | 0x34 => ⟨.addc, [.acc, immediate], 2⟩
  | 0x35 => ⟨.addc, [.acc, direct], 2⟩
  | 0x40 => ⟨.jc, [relative 2 c.first], 2⟩
  | 0x42 => ⟨.orl, [direct, .acc], 2⟩
  | 0x43 => ⟨.orl, [direct, .immediate c.second], 3⟩
  | 0x44 => ⟨.orl, [.acc, immediate], 2⟩
  | 0x45 => ⟨.orl, [.acc, direct], 2⟩
  | 0x50 => ⟨.jnc, [relative 2 c.first], 2⟩
  | 0x52 => ⟨.anl, [direct, .acc], 2⟩
  | 0x53 => ⟨.anl, [direct, .immediate c.second], 3⟩
  | 0x54 => ⟨.anl, [.acc, immediate], 2⟩
  | 0x55 => ⟨.anl, [.acc, direct], 2⟩
  | 0x60 => ⟨.jz, [relative 2 c.first], 2⟩
  | 0x62 => ⟨.xrl, [direct, .acc], 2⟩
  | 0x63 => ⟨.xrl, [direct, .immediate c.second], 3⟩
  | 0x64 => ⟨.xrl, [.acc, immediate], 2⟩
  | 0x65 => ⟨.xrl, [.acc, direct], 2⟩
  | 0x70 => ⟨.jnz, [relative 2 c.first], 2⟩
  | 0x72 => ⟨.orl, [.carry, bit], 2⟩
  | 0x73 => ⟨.jmp, [.atAccDptr], 1⟩
  | 0x74 => ⟨.mov, [.acc, immediate], 2⟩
  | 0x75 => ⟨.mov, [direct, .immediate c.second], 3⟩
  | 0x80 => ⟨.sjmp, [relative 2 c.first], 2⟩
  | 0x82 => ⟨.anl, [.carry, bit], 2⟩
  | 0x83 => ⟨.movc, [.acc, .atAccPc], 1⟩
  | 0x84 => ⟨.div, [.pair], 1⟩
  | 0x85 => ⟨.mov, [.direct c.second, direct], 3⟩
  | 0x90 => ⟨.mov, [.dptr, .immediateWord c.word], 3⟩
  | 0x92 => ⟨.mov, [bit, .carry], 2⟩
  | 0x93 => ⟨.movc, [.acc, .atAccDptr], 1⟩
  | 0x94 => ⟨.subb, [.acc, immediate], 2⟩
  | 0x95 => ⟨.subb, [.acc, direct], 2⟩
  | 0xA0 => ⟨.orl, [.carry, .notBit c.first], 2⟩
  | 0xA2 => ⟨.mov, [.carry, bit], 2⟩
  | 0xA3 => ⟨.inc, [.dptr], 1⟩
  | 0xA4 => ⟨.mul, [.pair], 1⟩
  | 0xB0 => ⟨.anl, [.carry, .notBit c.first], 2⟩
  | 0xB2 => ⟨.cpl, [bit], 2⟩
  | 0xB3 => ⟨.cpl, [.carry], 1⟩
  | 0xB4 => ⟨.cjne, [.acc, immediate, relative 3 c.second], 3⟩
  | 0xB5 => ⟨.cjne, [.acc, direct, relative 3 c.second], 3⟩
  | 0xC0 => ⟨.push, [direct], 2⟩
  | 0xC2 => ⟨.clr, [bit], 2⟩
  | 0xC3 => ⟨.clr, [.carry], 1⟩
  | 0xC4 => ⟨.swap, [.acc], 1⟩
  | 0xC5 => ⟨.xch, [.acc, direct], 2⟩
  | 0xD0 => ⟨.pop, [direct], 2⟩
  | 0xD2 => ⟨.setb, [bit], 2⟩
  | 0xD3 => ⟨.setb, [.carry], 1⟩
  | 0xD4 => ⟨.da, [.acc], 1⟩
  | 0xD5 => ⟨.djnz, [direct, relative 3 c.second], 3⟩
  | 0xE0 => ⟨.movx, [.acc, .atDptr], 1⟩
  | 0xE2 => ⟨.movx, [.acc, .indirect ⟨0, Nat.two_pos⟩], 1⟩
  | 0xE3 => ⟨.movx, [.acc, .indirect ⟨1, Nat.one_lt_two⟩], 1⟩
  | 0xE4 => ⟨.clr, [.acc], 1⟩
  | 0xE5 => ⟨.mov, [.acc, direct], 2⟩
  | 0xF0 => ⟨.movx, [.atDptr, .acc], 1⟩
  | 0xF2 => ⟨.movx, [.indirect ⟨0, Nat.two_pos⟩, .acc], 1⟩
  | 0xF3 => ⟨.movx, [.indirect ⟨1, Nat.one_lt_two⟩, .acc], 1⟩
  | 0xF4 => ⟨.cpl, [.acc], 1⟩
  | 0xF5 => ⟨.mov, [direct, .acc], 2⟩
  | _ => ⟨.reserved, [], 1⟩

/-- What the code bytes encode. -/
def decodeBytes (c : CodeBytes) : Except Fault Decoded :=
  let column := c.opcode &&& 0x0F
  if column = 0x01 then return decodePage c
  else if 0x08 ≤ column then do return decodeRegister c (← register (← subByte column 0x08))
  else if 0x06 ≤ column then do return decodeRegister c (← pointer (← subByte column 0x06))
  else return decodeOpcode c

/-- Decode the instruction at an address. -/
def decode (cpu : Cpu) (addr : UInt16) : Except Fault Decoded := do
  decodeBytes ⟨addr, ← fetch cpu addr, ← fetch cpu (addr + 1), ← fetch cpu (addr + 2)⟩

/-- An instruction between the two tables. -/
def ofInstruction (i : Instruction) : Decoded :=
  ⟨i.operation, i.operands, UInt16.ofNat i.length⟩

/-! ### The decoder does not fault -/

section

variable (c : CodeBytes)

theorem lowHalf_eq : c.opcode &&& 0x0F = UInt8.ofNat c.column := by
  have every : ∀ opcode : UInt8, opcode &&& 0x0F = UInt8.ofNat (opcode.toNat % 16) :=
    forall_byte (by decide +kernel)
  exact every c.opcode

theorem highHalf_eq : c.opcode >>> 4 = UInt8.ofNat c.row := by
  have every : ∀ opcode : UInt8, opcode >>> 4 = UInt8.ofNat (opcode.toNat / 16) :=
    forall_byte (by decide +kernel)
  exact every c.opcode

private theorem toNat_opcode : c.opcode.toNat = c.row * 16 + c.column :=
  (Nat.div_add_mod' c.opcode.toNat 16).symm

private theorem pageBits_eq : (c.opcode &&& 0xE0).toUInt16 <<< 3 = (c.opcode &&& 0xE0).toUInt16 * 8 := by
  have every : ∀ opcode : UInt8, (opcode &&& 0xE0).toUInt16 <<< 3 = (opcode &&& 0xE0).toUInt16 * 8 :=
    forall_byte (by decide +kernel)
  exact every c.opcode

end

variable {c : CodeBytes}

private theorem decodePage_eq (column : c.column = 1) :
    decodeBytes c = .ok (ofInstruction c.instruction) := by
  have rows := c.row_lt
  unfold decodeBytes decodePage CodeBytes.instruction
  rw [pageBits_eq, lowHalf_eq, highHalf_eq, column]
  interval_cases c.row
  all_goals rfl

private theorem decodeRegister_eq (column : 6 ≤ c.column) :
    decodeBytes c = .ok (ofInstruction c.operandColumn) := by
  have columns := c.column_lt
  have rows := c.row_lt
  unfold decodeBytes decodeRegister CodeBytes.operandColumn CodeBytes.source CodeBytes.place
  rw [lowHalf_eq, highHalf_eq]
  interval_cases c.column
  all_goals interval_cases c.row
  all_goals rfl

private theorem decodeBytes_of_column (low : c.column < 6) (page : c.column ≠ 1) :
    decodeBytes c = .ok (decodeOpcode c) := by
  unfold decodeBytes
  rw [lowHalf_eq]
  interval_cases c.column
  all_goals first | rfl | contradiction

private theorem decodeOpcode_eq (low : c.column < 6) (page : c.column ≠ 1) :
    decodeOpcode c = ofInstruction c.instruction := by
  have rows := c.row_lt
  unfold decodeOpcode CodeBytes.instruction CodeBytes.column0 CodeBytes.column2 CodeBytes.column3
    CodeBytes.operandColumn CodeBytes.source CodeBytes.place
  rw [toNat_opcode]
  interval_cases c.column
  case «1» => contradiction
  all_goals interval_cases c.row
  all_goals rfl

/-- Whatever the code bytes are, they decode to a mnemonic and operands. -/
theorem decodeBytes_eq (c : CodeBytes) : decodeBytes c = .ok (ofInstruction c.instruction) := by
  have columns : c.column = 1 ∨ 6 ≤ c.column ∨ c.column < 6 ∧ c.column ≠ 1 := by omega
  rcases columns with column | column | ⟨low, page⟩
  · exact decodePage_eq column
  · rw [CodeBytes.instruction_operandColumn (by omega)]
    exact decodeRegister_eq column
  · rw [decodeBytes_of_column low page, decodeOpcode_eq low page]

private theorem decode_eq (cpu : Cpu) (addr : UInt16) :
    decode cpu addr = .ok (ofInstruction (cpu.decode addr)) := by
  rw [decode, fetch_eq, ok_bind, fetch_eq, ok_bind, fetch_eq, ok_bind, decodeBytes_eq]
  rfl

/-! ### Execution -/

/-- Execute an operation on operands; the program counter already stands behind it. -/
def execute (cpu : Cpu) : Mnemonic → List Operand → Except Fault Cpu
  | .nop, _ | .reserved, _ => return cpu
  | .ajmp, [.target target] | .ljmp, [.target target] | .sjmp, [.target target] => return cpu.jump target
  | .jmp, _ => do return cpu.jump ((← dptr cpu) + (← acc cpu).toUInt16)
  | .acall, [.target target] | .lcall, [.target target] => do return (← pushPc cpu).jump target
  | .ret, _ | .reti, _ => popPc cpu
  | .inc, [.dptr] => do setDptr cpu ((← dptr cpu) + 1)
  | .inc, [dst] => do writeOperand cpu dst ((← readOperand cpu dst) + 1)
  | .dec, [dst] => do writeOperand cpu dst ((← readOperand cpu dst) - 1)
  | .add, [.acc, src] => do add cpu (← readOperand cpu src) false
  | .addc, [.acc, src] => do add cpu (← readOperand cpu src) (← carry cpu)
  | .subb, [.acc, src] => do subtract cpu (← readOperand cpu src)
  | .mul, _ => multiply cpu
  | .div, _ => divide cpu
  | .da, _ => decimalAdjust cpu
  | .anl, [.carry, src] => do setFlag cpu Psw.cy ((← carry cpu) && (← readOperand cpu src) != 0)
  | .orl, [.carry, src] => do setFlag cpu Psw.cy ((← carry cpu) || (← readOperand cpu src) != 0)
  | .anl, [dst, src] => do writeOperand cpu dst ((← readOperand cpu dst) &&& (← readOperand cpu src))
  | .orl, [dst, src] => do writeOperand cpu dst ((← readOperand cpu dst) ||| (← readOperand cpu src))
  | .xrl, [dst, src] => do writeOperand cpu dst ((← readOperand cpu dst) ^^^ (← readOperand cpu src))
  | .clr, [dst] => writeOperand cpu dst 0
  | .setb, [dst] => writeOperand cpu dst 1
  | .cpl, [.acc] => do setAcc cpu (~~~(← acc cpu))
  | .cpl, [dst] => do writeOperand cpu dst ((← readOperand cpu dst) == 0).toUInt8
  | .rl, _ => rotate cpu .rl
  | .rr, _ => rotate cpu .rr
  | .rlc, _ => rotate cpu .rlc
  | .rrc, _ => rotate cpu .rrc
  | .swap, _ => do
    let a ← acc cpu
    setAcc cpu (a <<< 4 ||| a >>> 4)
  | .mov, [.dptr, .immediateWord value] => setDptr cpu value
  | .mov, [dst, src] => do writeOperand cpu dst (← readOperand cpu src)
  | .movc, [.acc, base] => do
    let base ← if base = .atAccPc then pure cpu.pc else dptr cpu
    setAcc cpu (← fetch cpu (base + (← acc cpu).toUInt16))
  | .movx, [.acc, src] => do setAcc cpu (cpu.read .external (← externalAddress cpu src))
  | .movx, [dst, .acc] => do return cpu.write .external (← externalAddress cpu dst) (← acc cpu)
  | .push, [.direct addr] => do push cpu (← readDirect cpu addr)
  | .pop, [.direct addr] => do
    let (value, cpu) ← pop cpu
    writeDirect cpu addr value
  | .xch, [.acc, other] => do
    let a ← acc cpu
    writeOperand (← setAcc cpu (← readOperand cpu other)) other a
  | .xchd, [.acc, other] => do
    let a ← acc cpu
    let value ← readOperand cpu other
    writeOperand (← setAcc cpu (a &&& 0xF0 ||| value &&& 0x0F)) other (value &&& 0xF0 ||| a &&& 0x0F)
  | .jc, [.target target] => do return cpu.jumpIf (← carry cpu) target
  | .jnc, [.target target] => do return cpu.jumpIf (!(← carry cpu)) target
  | .jz, [.target target] => do return cpu.jumpIf ((← acc cpu) == 0) target
  | .jnz, [.target target] => do return cpu.jumpIf ((← acc cpu) != 0) target
  | .jb, [.bit bit, .target target] => do return cpu.jumpIf (← readBit cpu bit) target
  | .jnb, [.bit bit, .target target] => do return cpu.jumpIf (!(← readBit cpu bit)) target
  | .jbc, [.bit bit, .target target] => do
    if ← readBit cpu bit then return (← writeBit cpu bit false).jump target
    else return cpu
  | .cjne, [lhs, rhs, .target target] => do
    let left ← readOperand cpu lhs
    let right ← readOperand cpu rhs
    return (← setFlag cpu Psw.cy (left < right)).jumpIf (left != right) target
  | .djnz, [counter, .target target] => do
    let value := (← readOperand cpu counter) - 1
    return (← writeOperand cpu counter value).jumpIf (value != 0) target
  | _, _ => .error .unhandled

/-- Execute the instruction at the program counter. -/
def step (cpu : Cpu) : Except Fault Cpu := do
  let decoded ← decode cpu cpu.pc
  updateParity (← execute { cpu with pc := cpu.pc + decoded.length } decoded.mnemonic decoded.operands)

/-! ### The interpreter does not fault -/

variable (cpu : Cpu)

/-- A place is neither the data pointer nor the carry flag, so none of the special arms takes it. -/
theorem execute_inc (p : Place) :
    execute cpu .inc [p.operand] = (do writeOperand cpu p.operand ((← readOperand cpu p.operand) + 1)) := by
  cases p <;> rfl

private theorem execute_logic (op : LogicOp) (dst : Place) (src : Source) :
    execute cpu (Instruction.logic op dst src).operation [dst.operand, src.operand] =
      (do
        writeOperand cpu dst.operand
          (op.apply (← readOperand cpu dst.operand) (← readOperand cpu src.operand))) := by
  cases op <;> cases dst <;> rfl

private theorem execute_mov (dst : Place) (src : Operand) :
    execute cpu .mov [dst.operand, src] = (do writeOperand cpu dst.operand (← readOperand cpu src)) := by
  cases dst <;> rfl

private theorem execute_bitOp (op : BitOp) (target : BitPlace) :
    execute cpu (Instruction.bitOp op target).operation [target.operand] =
      .ok (cpu.writeBitPlace target (op.apply (cpu.readBitPlace target))) := by
  cases op with
  | cpl =>
    have arm : execute cpu .cpl [target.operand] =
        (do writeOperand cpu target.operand ((← readOperand cpu target.operand) == 0).toUInt8) := by
      cases target <;> rfl
    have complement : ∀ on : Bool, ((on.toUInt8 == 0).toUInt8 != 0) = !on := by decide
    refine arm.trans ?_
    rw [readOperand_bitPlace, ok_bind, writeOperand_bitPlace, complement, BitOp.apply]
  | clr => exact writeOperand_bitPlace cpu target 0
  | setb => exact writeOperand_bitPlace cpu target 1

private theorem execute_storeExternal (dst : Pointer) :
    execute cpu .movx [dst.operand, .acc] =
      (do return cpu.write .external (← externalAddress cpu dst.operand) (← acc cpu)) := by
  cases dst <;> rfl

theorem toUInt8_bne_zero (on : Bool) : (on.toUInt8 != 0) = on := by
  cases on <;> rfl

private theorem execute_carryLogic (op : CarryOp) (bit : UInt8) (complement : Bool) :
    execute cpu (Instruction.carryLogic op bit complement).operation
        [.carry, if complement then .notBit bit else .bit bit] =
      .ok (cpu.setFlag Psw.cy (op.apply cpu.carry (cpu.readBit bit != complement))) := by
  have source : readOperand cpu (if complement then .notBit bit else .bit bit) =
      .ok (cpu.readBit bit != complement).toUInt8 := by
    cases complement with
    | false => rw [if_neg (by decide), readOperand, readBit_eq, ok_bind, Bool.bne_false, pure_eq]
    | true => rw [if_pos rfl, readOperand, readBit_eq, ok_bind, Bool.bne_true, pure_eq]
  cases op with
  | orl =>
    change (do setFlag cpu Psw.cy ((← carry cpu) || (← readOperand cpu _) != 0)) = _
    rw [carry_eq, ok_bind, source, ok_bind, setFlag_eq, toUInt8_bne_zero, CarryOp.apply]
  | anl =>
    change (do setFlag cpu Psw.cy ((← carry cpu) && (← readOperand cpu _) != 0)) = _
    rw [carry_eq, ok_bind, source, ok_bind, setFlag_eq, toUInt8_bne_zero, CarryOp.apply]

/-- Every instruction that there is has an arm of its own, and the arm does not fault. -/
theorem execute_eq (i : Instruction) :
    execute cpu i.operation i.operands = .ok (cpu.execute i) := by
  cases i
  case nop | reserved => rfl
  case jump form target => cases form <;> rfl
  case jumpTable =>
    change (do return cpu.jump ((← dptr cpu) + (← acc cpu).toUInt16) : Except Fault Cpu) = _
    rw [dptr_eq, ok_bind, acc_eq, ok_bind, pure_eq, Cpu.execute]
  case call form target =>
    have arm : execute cpu (Instruction.call form target).operation [.target target] =
        (do return (← pushPc cpu).jump target) := by cases form <;> rfl
    refine arm.trans ?_
    rw [pushPc_eq, ok_bind, pure_eq, Cpu.execute]
  case ret | reti => exact popPc_eq cpu
  case inc p =>
    refine (execute_inc cpu p).trans ?_
    rw [readOperand_place, ok_bind, writeOperand_place, Cpu.execute]
  case dec p =>
    change (do writeOperand cpu p.operand ((← readOperand cpu p.operand) - 1)) = _
    rw [readOperand_place, ok_bind, writeOperand_place, Cpu.execute]
  case incDptr =>
    change (do setDptr cpu ((← dptr cpu) + 1)) = _
    rw [dptr_eq, ok_bind, setDptr_eq, Cpu.execute]
  case arith op src =>
    cases op with
    | add =>
      change (do add cpu (← readOperand cpu src.operand) false) = _
      rw [readOperand_source, ok_bind, add_eq, Cpu.execute]
    | addc =>
      change (do add cpu (← readOperand cpu src.operand) (← carry cpu)) = _
      rw [readOperand_source, ok_bind, carry_eq, ok_bind, add_eq, Cpu.execute]
    | subb =>
      change (do subtract cpu (← readOperand cpu src.operand)) = _
      rw [readOperand_source, ok_bind, subtract_eq, Cpu.execute]
  case mul => exact multiply_eq cpu
  case div => exact divide_eq cpu
  case decimalAdjust => exact decimalAdjust_eq cpu
  case logic op dst src =>
    refine (execute_logic cpu op dst src).trans ?_
    rw [readOperand_place, ok_bind, readOperand_source, ok_bind, writeOperand_place, Cpu.execute]
  case carryLogic op bit complement => exact execute_carryLogic cpu op bit complement
  case clearAcc => exact setAcc_eq cpu 0
  case complementAcc =>
    change (do setAcc cpu (~~~(← acc cpu))) = _
    rw [acc_eq, ok_bind, setAcc_eq, Cpu.execute]
  case rotate how =>
    cases how with
    | rr => exact rotate_eq cpu .rr
    | rrc => exact rotate_eq cpu .rrc
    | rl => exact rotate_eq cpu .rl
    | rlc => exact rotate_eq cpu .rlc
  case swap =>
    change (do let a ← acc cpu; setAcc cpu (a <<< 4 ||| a >>> 4)) = _
    rw [acc_eq, ok_bind, setAcc_eq, Cpu.execute]
  case bitOp op target => exact execute_bitOp cpu op target
  case mov dst src =>
    refine (execute_mov cpu dst src.operand).trans ?_
    rw [readOperand_source, ok_bind, writeOperand_place, Cpu.execute]
  case movDptr value => exact setDptr_eq cpu value
  case bitFromCarry bit =>
    have arm : execute cpu .mov [.bit bit, .carry] =
        (do writeBit cpu bit ((← readOperand cpu .carry) != 0)) :=
      rfl
    refine arm.trans ?_
    rw [readOperand, carry_eq, ok_bind, pure_eq, ok_bind, writeBit_eq, toUInt8_bne_zero, Cpu.execute]
  case carryFromBit bit =>
    have arm : execute cpu .mov [.carry, .bit bit] =
        (do setFlag cpu Psw.cy ((← readOperand cpu (.bit bit)) != 0)) := rfl
    refine arm.trans ?_
    rw [readOperand, readBit_eq, ok_bind, pure_eq, ok_bind, setFlag_eq, toUInt8_bne_zero, Cpu.execute]
  case loadCode base =>
    cases base with
    | dptr =>
      have arm : execute cpu .movc [.acc, .atAccDptr] =
          (do setAcc cpu (← fetch cpu ((← dptr cpu) + (← acc cpu).toUInt16))) := rfl
      refine arm.trans ?_
      rw [dptr_eq, ok_bind, acc_eq, ok_bind, fetch_eq, ok_bind, setAcc_eq, Cpu.execute]
    | pc =>
      have arm : execute cpu .movc [.acc, .atAccPc] =
          (do setAcc cpu (← fetch cpu (cpu.pc + (← acc cpu).toUInt16))) := rfl
      refine arm.trans ?_
      rw [acc_eq, ok_bind, fetch_eq, ok_bind, setAcc_eq, Cpu.execute]
  case loadExternal src =>
    change (do setAcc cpu (cpu.read .external (← externalAddress cpu src.operand))) = _
    rw [externalAddress_eq, ok_bind, setAcc_eq, Cpu.execute]
  case storeExternal dst =>
    refine (execute_storeExternal cpu dst).trans ?_
    rw [externalAddress_eq, ok_bind, acc_eq, ok_bind, Cpu.execute, pure_eq]
  case push addr =>
    change (do push cpu (← readDirect cpu addr)) = _
    rw [readDirect_eq, ok_bind, push_eq, Cpu.execute]
  case pop addr =>
    change (do let (value, cpu) ← pop cpu; writeDirect cpu addr value) = _
    rw [pop_eq, ok_bind]
    exact writeDirect_eq cpu.pop.2 addr cpu.pop.1
  case exchange p =>
    change (do
      let a ← acc cpu
      writeOperand (← setAcc cpu (← readOperand cpu p.operand)) p.operand a) = _
    rw [acc_eq, ok_bind, readOperand_place, ok_bind, setAcc_eq, ok_bind, writeOperand_place, Cpu.execute]
  case exchangeDigit i =>
    have read : readOperand cpu (.indirect i) = .ok (cpu.readPlace (.indirect i)) :=
      readOperand_place cpu (.indirect i)
    change (do
      let a ← acc cpu
      let value ← readOperand cpu (.indirect i)
      writeOperand (← setAcc cpu (a &&& 0xF0 ||| value &&& 0x0F)) (.indirect i)
        (value &&& 0xF0 ||| a &&& 0x0F)) = _
    rw [acc_eq, ok_bind, read, ok_bind, setAcc_eq, ok_bind]
    exact writeOperand_place _ (.indirect i) _
  case branch condition target =>
    cases condition with
    | carry =>
      change (do return cpu.jumpIf (← carry cpu) target : Except Fault Cpu) = _
      rw [carry_eq, ok_bind, pure_eq, Cpu.execute, Cpu.holds]
    | noCarry =>
      change (do return cpu.jumpIf (!(← carry cpu)) target : Except Fault Cpu) = _
      rw [carry_eq, ok_bind, pure_eq, Cpu.execute, Cpu.holds]
    | zero =>
      change (do return cpu.jumpIf ((← acc cpu) == 0) target : Except Fault Cpu) = _
      rw [acc_eq, ok_bind, pure_eq, Cpu.execute, Cpu.holds]
    | nonzero =>
      change (do return cpu.jumpIf ((← acc cpu) != 0) target : Except Fault Cpu) = _
      rw [acc_eq, ok_bind, pure_eq, Cpu.execute, Cpu.holds]
  case bitBranch condition bit target =>
    cases condition with
    | set =>
      change (do return cpu.jumpIf (← readBit cpu bit) target : Except Fault Cpu) = _
      rw [readBit_eq, ok_bind, pure_eq, Cpu.execute]
    | clear =>
      change (do return cpu.jumpIf (!(← readBit cpu bit)) target : Except Fault Cpu) = _
      rw [readBit_eq, ok_bind, pure_eq, Cpu.execute]
    | setClearing =>
      change (do
        if ← readBit cpu bit then return (← writeBit cpu bit false).jump target
        else return cpu : Except Fault Cpu) = _
      rw [readBit_eq, ok_bind, writeBit_eq, ok_bind, Cpu.execute]
      split <;> rfl
  case compareBranch lhs rhs target =>
    change (do
      let left ← readOperand cpu lhs.operand
      let right ← readOperand cpu rhs.operand
      return (← setFlag cpu Psw.cy (left < right)).jumpIf (left != right) target : Except Fault Cpu) = _
    rw [readOperand_place, ok_bind, readOperand_source, ok_bind, setFlag_eq, ok_bind, pure_eq, Cpu.execute]
  case countBranch p target =>
    change (do
      let value := (← readOperand cpu p.operand) - 1
      return (← writeOperand cpu p.operand value).jumpIf (value != 0) target : Except Fault Cpu) = _
    rw [readOperand_place, ok_bind]
    exact congrArg (· >>= fun cpu' => .ok (cpu'.jumpIf (cpu.readPlace p - 1 != 0) target))
      (writeOperand_place cpu p (cpu.readPlace p - 1))

theorem step_eq : step cpu = .ok cpu.step := by
  rw [step, decode_eq, ok_bind]
  exact (congrArg (· >>= updateParity) (execute_eq _ (cpu.decode cpu.pc))).trans (updateParity_eq _)

/-- From no state does the checked machine fault, and its step is the step of the processor. Whatever code bytes
there are, the interpreter has an arm for what they decode to. -/
theorem step_total :
    step cpu = .ok cpu.step ∧
      ∀ c : CodeBytes, ∃ decoded, decodeBytes c = .ok decoded ∧
        ∃ cpu', execute cpu decoded.mnemonic decoded.operands = .ok cpu' :=
  ⟨step_eq cpu, fun c => ⟨_, decodeBytes_eq c, _, execute_eq cpu c.instruction⟩⟩

/-- A run of a number of steps. -/
def run : Nat → Cpu → Except Fault Cpu
  | 0, cpu => return cpu
  | n + 1, cpu => do run n (← step cpu)

/-- No run faults either, however long it is. -/
theorem run_eq (n : Nat) : run n cpu = .ok (Cpu.step^[n] cpu) := by
  induction n generalizing cpu with
  | zero => rfl
  | succ n ih => rw [run, step_eq, ok_bind, ih, Function.iterate_succ_apply]

end Mcs51.Checked
