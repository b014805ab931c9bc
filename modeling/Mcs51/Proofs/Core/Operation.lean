import Mcs51.Isa.Assembly
import Mcs51.Proofs.Core.Fault

/-! # Checked operations

The operations of the processor on checked memory access, with the sums and products that they compute in
sixteen bits. Operands are read and written as they are written in assembly text; what is no byte and no bit
reads as 0 and is not written. Main statements: no operation ever faults, and each has the effect of its
unchecked counterpart.
-/

namespace Mcs51.Checked

/-! ### Operands -/

/-- The byte that an operand supplies; bits supply 0 or 1. -/
def readOperand (cpu : Cpu) : Operand → Except Fault UInt8
  | .acc => acc cpu
  | .reg n => reg cpu (UInt8.ofNat n)
  | .indirect i => do readIndirect cpu (← reg cpu (UInt8.ofNat i))
  | .direct addr => readDirect cpu addr
  | .immediate value => return value
  | .carry => do return (← carry cpu).toUInt8
  | .bit bit => do return (← readBit cpu bit).toUInt8
  | .notBit bit => do return (!(← readBit cpu bit)).toUInt8
  | .pair | .dptr | .atDptr | .atAccDptr | .atAccPc | .immediateWord _ | .target _ => return 0

/-- Write a byte to an operand; bits become 1 for all bytes but 0. -/
def writeOperand (cpu : Cpu) (operand : Operand) (value : UInt8) : Except Fault Cpu :=
  match operand with
  | .acc => setAcc cpu value
  | .reg n => setReg cpu (UInt8.ofNat n) value
  | .indirect i => do writeIndirect cpu (← reg cpu (UInt8.ofNat i)) value
  | .direct addr => writeDirect cpu addr value
  | .carry => setFlag cpu Psw.cy (value != 0)
  | .bit bit => writeBit cpu bit (value != 0)
  | .immediate _ | .notBit _ => return cpu
  | .pair | .dptr | .atDptr | .atAccDptr | .atAccPc | .immediateWord _ | .target _ => return cpu

/-- The external address that an operand holds. -/
def externalAddress (cpu : Cpu) : Operand → Except Fault Nat
  | .indirect i => do return (← reg cpu (UInt8.ofNat i)).toNat
  | _ => do return (← dptr cpu).toNat

/-! ### Stack -/

def push (cpu : Cpu) (value : UInt8) : Except Fault Cpu := do
  let sp := (← sfr cpu Sfr.sp.addr) + 1
  writeIndirect (← setSfr cpu Sfr.sp.addr sp) sp value

def pop (cpu : Cpu) : Except Fault (UInt8 × Cpu) := do
  let sp ← sfr cpu Sfr.sp.addr
  let value ← readIndirect cpu sp
  return (value, ← setSfr cpu Sfr.sp.addr (sp - 1))

def pushPc (cpu : Cpu) : Except Fault Cpu := do
  push (← push cpu cpu.pc.toUInt8) (cpu.pc >>> 8).toUInt8

def popPc (cpu : Cpu) : Except Fault Cpu := do
  let (high, cpu) ← pop cpu
  let (low, cpu) ← pop cpu
  return cpu.jump (high.toUInt16 <<< 8 ||| low.toUInt16)

/-! ### Arithmetic -/

def addCarry (a b : UInt8) (c : Bool) : Except Fault UInt16 := do
  addWord (← addWord a.toUInt16 b.toUInt16) c.toUInt16

def add (cpu : Cpu) (value : UInt8) (carryIn : Bool) : Except Fault Cpu := do
  let a ← acc cpu
  let sum ← addCarry a value carryIn
  let result := sum.toUInt8
  let cpu ← setFlag cpu Psw.cy (sum > 0xFF)
  let digits ← addCarry (a &&& 0x0F) (value &&& 0x0F) carryIn
  let cpu ← setFlag cpu Psw.ac (digits > 0x0F)
  let cpu ← setFlag cpu Psw.ov ((a ^^^ result) &&& (value ^^^ result) &&& 0x80 != 0)
  setAcc cpu result

def subtract (cpu : Cpu) (value : UInt8) : Except Fault Cpu := do
  let a ← acc cpu
  let c := (← carry cpu).toUInt16
  let result := (a.toUInt16 - value.toUInt16 - c).toUInt8
  let cpu ← setFlag cpu Psw.cy (a.toUInt16 < (← addWord value.toUInt16 c))
  let cpu ← setFlag cpu Psw.ac ((a &&& 0x0F).toUInt16 < (← addWord (value &&& 0x0F).toUInt16 c))
  let cpu ← setFlag cpu Psw.ov ((a ^^^ value) &&& (a ^^^ result) &&& 0x80 != 0)
  setAcc cpu result

def multiply (cpu : Cpu) : Except Fault Cpu := do
  let product ← mulWord (← acc cpu).toUInt16 (← sfr cpu Sfr.b.addr).toUInt16
  let cpu ← setAcc cpu product.toUInt8
  let cpu ← setSfr cpu Sfr.b.addr (product >>> 8).toUInt8
  let cpu ← setFlag cpu Psw.cy false
  setFlag cpu Psw.ov (product > 0xFF)

def divide (cpu : Cpu) : Except Fault Cpu := do
  let divisor ← sfr cpu Sfr.b.addr
  let cpu ← setFlag cpu Psw.cy false
  if divisor = 0 then setFlag cpu Psw.ov true
  else
    let a ← acc cpu
    let cpu ← setAcc cpu (← divByte a divisor)
    let cpu ← setSfr cpu Sfr.b.addr (← remByte a divisor)
    setFlag cpu Psw.ov false

/-- Add a correction under a condition. -/
def correctIf (condition : Bool) (sum step : UInt16) : Except Fault UInt16 :=
  if condition then addWord sum step else return sum

/-- Set the carry flag when a sum is no byte. -/
def carryOut (cpu : Cpu) (sum : UInt16) : Except Fault Cpu :=
  if sum > 0xFF then setFlag cpu Psw.cy true else return cpu

def decimalAdjust (cpu : Cpu) : Except Fault Cpu := do
  let a := (← acc cpu).toUInt16
  let low ← correctIf (a &&& 0x0F > 0x09 || (← flag cpu Psw.ac)) a 0x06
  let cpu ← carryOut cpu low
  let high ← correctIf (low >>> 4 &&& 0x0F > 0x09 || low > 0xFF || (← carry cpu)) low 0x60
  let cpu ← carryOut cpu high
  setAcc cpu high.toUInt8

def rotate (cpu : Cpu) (how : Rotation) : Except Fault Cpu := do
  let a ← acc cpu
  match how with
  | .rl => setAcc cpu (a <<< 1 ||| a >>> 7)
  | .rr => setAcc cpu (a >>> 1 ||| a <<< 7)
  | .rlc => setFlag (← setAcc cpu (a <<< 1 ||| (← carry cpu).toUInt8)) Psw.cy (a &&& 0x80 != 0)
  | .rrc => setFlag (← setAcc cpu (a >>> 1 ||| (← carry cpu).toUInt8 <<< 7)) Psw.cy (a &&& 0x01 != 0)

def countOnes (byte : UInt8) : Nat :=
  (List.range 8).countP fun k => byte.toNat.testBit k

def updateParity (cpu : Cpu) : Except Fault Cpu := do
  setFlag cpu Psw.p (countOnes (← acc cpu) % 2 == 1)

/-! ### No operation faults -/

variable (cpu : Cpu)

theorem pointer_eq (i : Fin 2) : reg cpu (UInt8.ofNat i) = .ok (cpu.pointer i) :=
  reg_eq cpu (i.castLE (by decide))

theorem readOperand_place (p : Place) : readOperand cpu p.operand = .ok (cpu.readPlace p) := by
  cases p with
  | acc => exact acc_eq cpu
  | reg n => exact reg_eq cpu n
  | indirect i => rw [Place.operand, readOperand, pointer_eq, ok_bind, readIndirect_eq, Cpu.readPlace]
  | direct addr => exact readDirect_eq cpu addr

theorem writeOperand_place (p : Place) (value : UInt8) :
    writeOperand cpu p.operand value = .ok (cpu.writePlace p value) := by
  cases p with
  | acc => exact setAcc_eq cpu value
  | reg n => exact setReg_eq cpu n value
  | indirect i => rw [Place.operand, writeOperand, pointer_eq, ok_bind, writeIndirect_eq, Cpu.writePlace]
  | direct addr => exact writeDirect_eq cpu addr value

theorem readOperand_source (src : Source) :
    readOperand cpu src.operand = .ok (cpu.readSource src) := by
  cases src with
  | place p => exact readOperand_place cpu p
  | immediate value => rfl

theorem readOperand_bitPlace (b : BitPlace) :
    readOperand cpu b.operand = .ok (cpu.readBitPlace b).toUInt8 := by
  cases b with
  | carry => rw [BitPlace.operand, readOperand, carry_eq, ok_bind, Cpu.readBitPlace, pure_eq]
  | bit addr => rw [BitPlace.operand, readOperand, readBit_eq, ok_bind, Cpu.readBitPlace, pure_eq]

theorem writeOperand_bitPlace (b : BitPlace) (value : UInt8) :
    writeOperand cpu b.operand value = .ok (cpu.writeBitPlace b (value != 0)) := by
  cases b with
  | carry => exact setFlag_eq cpu Psw.cy (value != 0)
  | bit addr => exact writeBit_eq cpu addr (value != 0)

theorem externalAddress_eq (p : Pointer) :
    externalAddress cpu p.operand = .ok (cpu.externalAddr p) := by
  cases p with
  | dptr =>
    rw [Pointer.operand, externalAddress, dptr_eq, ok_bind, Cpu.externalAddr, pure_eq]
    exact fun _ => Operand.noConfusion
  | reg i => rw [Pointer.operand, externalAddress, pointer_eq, ok_bind, Cpu.externalAddr, pure_eq]

theorem push_eq (value : UInt8) : push cpu value = .ok (cpu.push value) := by
  simp only [push, sfr_eq, ok_bind, setSfr_eq, writeIndirect_eq, Cpu.push]

theorem pop_eq : pop cpu = .ok cpu.pop := by
  rw [pop, sfr_eq, ok_bind, readIndirect_eq, ok_bind, setSfr_eq, ok_bind, Cpu.pop, pure_eq]

theorem pushPc_eq : pushPc cpu = .ok cpu.pushPc := by
  rw [pushPc, push_eq, ok_bind, push_eq, Cpu.pushPc]

theorem popPc_eq : popPc cpu = .ok cpu.popPc := by
  rw [popPc, pop_eq, ok_bind]
  dsimp only
  rw [pop_eq, ok_bind]
  rfl

/-! ### No sum and no product overflows -/

theorem addWord_eq {a b : UInt16} (fits : a.toNat + b.toNat < 0x10000) :
    addWord a b = .ok (a + b) :=
  ensure_of fits

/-- Two bytes and a carry fit in a word. -/
theorem addCarry_eq (a b : UInt8) (c : Bool) :
    addCarry a b c = .ok (a.toUInt16 + b.toUInt16 + c.toUInt16) := by
  have boundA := a.toNat_lt
  have boundB := b.toNat_lt
  have boundC : c.toUInt16.toNat ≤ 1 := by cases c <;> decide
  rw [addCarry, addWord_eq (by rw [UInt8.toNat_toUInt16, UInt8.toNat_toUInt16]; omega), ok_bind, addWord_eq]
  rw [UInt16.toNat_add, UInt8.toNat_toUInt16, UInt8.toNat_toUInt16]
  omega

private theorem addWord_carry (b : UInt8) (c : Bool) :
    addWord b.toUInt16 c.toUInt16 = .ok (b.toUInt16 + c.toUInt16) := by
  have boundB := b.toNat_lt
  have boundC : c.toUInt16.toNat ≤ 1 := by cases c <;> decide
  rw [addWord_eq]
  rw [UInt8.toNat_toUInt16]
  omega

theorem toNat_carry (c : Bool) : c.toUInt16.toNat = c.toNat := by
  cases c <;> rfl

theorem toUInt8_carry (c : Bool) : c.toUInt16.toUInt8 = c.toUInt8 := by
  cases c <;> rfl

private theorem sum_gt_iff (a b : UInt8) (c : Bool) (limit : UInt16) :
    a.toUInt16 + b.toUInt16 + c.toUInt16 > limit ↔ limit.toNat < a.toNat + b.toNat + c.toNat := by
  have boundA := a.toNat_lt
  have boundB := b.toNat_lt
  have boundC : c.toNat ≤ 1 := by cases c <;> decide
  rw [gt_iff_lt, UInt16.lt_iff_toNat_lt, UInt16.toNat_add, UInt16.toNat_add, UInt8.toNat_toUInt16,
    UInt8.toNat_toUInt16, toNat_carry]
  omega

private theorem lt_sum_iff (a b : UInt8) (c : Bool) :
    a.toUInt16 < b.toUInt16 + c.toUInt16 ↔ a.toNat < b.toNat + c.toNat := by
  have boundB := b.toNat_lt
  have boundC : c.toNat ≤ 1 := by cases c <;> decide
  rw [UInt16.lt_iff_toNat_lt, UInt16.toNat_add, UInt8.toNat_toUInt16, UInt8.toNat_toUInt16, toNat_carry]
  omega

theorem toNat_lowDigit (a : UInt8) : (a &&& 0x0F).toNat = a.toNat % 16 := by
  revert a
  exact forall_byte (by decide +kernel)

theorem add_eq (value : UInt8) (carryIn : Bool) :
    add cpu value carryIn = .ok (cpu.add value carryIn) := by
  have result : (cpu.acc.toUInt16 + value.toUInt16 + carryIn.toUInt16).toUInt8 =
        cpu.acc + value + carryIn.toUInt8 := by
    rw [UInt16.toUInt8_add, UInt16.toUInt8_add, UInt8.toUInt8_toUInt16, UInt8.toUInt8_toUInt16, toUInt8_carry]
  simp only [add, acc_eq, ok_bind, addCarry_eq, setFlag_eq, setAcc_eq, result, sum_gt_iff, toNat_lowDigit]
  rfl

theorem subtract_eq (value : UInt8) : subtract cpu value = .ok (cpu.subtract value) := by
  have result : (cpu.acc.toUInt16 - value.toUInt16 - cpu.carry.toUInt16).toUInt8 =
      cpu.acc - value - cpu.carry.toUInt8 := by
    rw [UInt16.toUInt8_sub, UInt16.toUInt8_sub, UInt8.toUInt8_toUInt16, UInt8.toUInt8_toUInt16, toUInt8_carry]
  simp only [subtract, acc_eq, carry_eq, ok_bind, addWord_carry, setFlag_eq, setAcc_eq, result,
    lt_sum_iff, toNat_lowDigit]
  rfl

theorem multiply_eq : multiply cpu = .ok cpu.multiply := by
  have boundA := cpu.acc.toNat_lt
  have boundB := (cpu.sfr .b).toNat_lt
  have fits : cpu.acc.toUInt16.toNat * (cpu.sfr .b).toUInt16.toNat < 0x10000 := by
    rw [UInt8.toNat_toUInt16, UInt8.toNat_toUInt16]
    exact Nat.lt_of_lt_of_eq (Nat.mul_lt_mul'' boundA boundB) (by decide)
  simp only [multiply, acc_eq, sfr_eq, ok_bind, mulWord, ensure_of fits, setAcc_eq, setSfr_eq, setFlag_eq]
  rfl

theorem acc_setFlag (mask : UInt8) (on : Bool) : (cpu.setFlag mask on).acc = cpu.acc :=
  Vector.getElem_set_ne (by decide) (by decide) (by decide)

theorem divide_eq : divide cpu = .ok cpu.divide := by
  simp only [divide, sfr_eq, ok_bind, setFlag_eq, Cpu.divide]
  split
  · rfl
  · rename_i divisor
    simp only [acc_eq, ok_bind, acc_setFlag, divByte, remByte, ensure_of divisor, setAcc_eq, setSfr_eq]

theorem large_iff (a : UInt16) : a > 0xFF ↔ 0xFF < a.toNat :=
  UInt16.lt_iff_toNat_lt

private theorem digit_gt_iff (a : UInt16) : a &&& 0x0F > 0x09 ↔ 9 < a.toNat % 16 := by
  rw [gt_iff_lt, UInt16.lt_iff_toNat_lt, UInt16.toNat_and]
  exact iff_of_eq (congrArg (9 < ·) (Nat.and_two_pow_sub_one_eq_mod a.toNat 4))

private theorem toNat_shiftDigit (a : UInt16) : (a >>> 4).toNat = a.toNat / 16 := by
  have shift : UInt16.toNat 4 % 16 = 4 := by decide
  rw [UInt16.toNat_shiftRight, shift, Nat.shiftRight_eq_div_pow]

/-- A correction of a number below 200h does not overflow. -/
theorem exists_correctIf {sum step : UInt16} (small : sum.toNat < 0x200) (correction : step.toNat < 0x100)
    (condition : Bool) :
    ∃ corrected, correctIf condition sum step = .ok corrected ∧
      corrected.toNat = if condition then sum.toNat + step.toNat else sum.toNat := by
  cases condition with
  | false => exact ⟨sum, rfl, rfl⟩
  | true =>
    refine ⟨sum + step, addWord_eq (by omega), ?_⟩
    rw [if_pos rfl, UInt16.toNat_add]
    omega

private theorem carryOut_eq (sum : UInt16) :
    carryOut cpu sum = .ok (if 0xFF < sum.toNat then cpu.setFlag Psw.cy true else cpu) := by
  unfold carryOut
  simp only [large_iff, setFlag_eq]
  split <;> rfl

theorem decimalAdjust_eq : decimalAdjust cpu = .ok cpu.decimalAdjust := by
  have bound := cpu.acc.toNat_lt
  have value : cpu.acc.toUInt16.toNat = cpu.acc.toNat := UInt8.toNat_toUInt16 _
  obtain ⟨low, correctLow, toNatLow⟩ := exists_correctIf (show cpu.acc.toUInt16.toNat < 0x200 by omega)
    (show UInt16.toNat 0x06 < 0x100 by decide) (9 < cpu.acc.toNat % 16 || cpu.flag Psw.ac)
  rw [value, show UInt16.toNat 0x06 = 0x06 from rfl] at toNatLow
  have small : low.toNat < 0x200 := by
    rw [toNatLow]
    split <;> omega
  generalize carried : (if 0xFF < low.toNat then cpu.setFlag Psw.cy true else cpu) = cpu'
  obtain ⟨high, correctHigh, toNatHigh⟩ :=
    exists_correctIf small (show UInt16.toNat 0x60 < 0x100 by decide)
    (9 < low.toNat / 16 % 16 || 0xFF < low.toNat || cpu'.carry)
  rw [show UInt16.toNat 0x60 = 0x60 from rfl] at toNatHigh
  have adjusted : cpu.decimalAdjust =
      (if 0xFF < high.toNat then cpu'.setFlag Psw.cy true else cpu').setAcc high.toUInt8 := by
    simp only [Cpu.decimalAdjust]
    rw [← toNatLow, carried, ← toNatHigh, UInt8.ofNat_uInt16ToNat]
  simp only [decimalAdjust, acc_eq, flag_eq, carry_eq, ok_bind, digit_gt_iff, toNat_shiftDigit,
    large_iff, value, correctLow, carryOut_eq, carried, correctHigh, setAcc_eq, adjusted]

theorem rotate_eq (how : Rotation) : rotate cpu how = .ok (cpu.rotate how) := by
  cases how <;> simp only [rotate, acc_eq, carry_eq, ok_bind, setAcc_eq, setFlag_eq, Cpu.rotate]

/-- The sum of the bits modulo two, folded by exclusive or. -/
theorem updateParity_eq : updateParity cpu = .ok cpu.updateParity := by
  have fold : ∀ a : UInt8, (countOnes a % 2 == 1) =
      (let a := a ^^^ a >>> 4
       let a := a ^^^ a >>> 2
       let a := a ^^^ a >>> 1
       a &&& 1 != 0) := forall_byte (by decide +kernel)
  rw [updateParity, acc_eq, ok_bind, setFlag_eq, fold]
  rfl

end Mcs51.Checked
