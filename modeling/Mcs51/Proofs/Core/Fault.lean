import Mcs51.Core.Execute
import Mcs51.Proofs.Isa.Bytes

/-! # Checked memory access

The processor's accesses with every index, difference, sum and quotient checked, so that a slip stops the
machine with a fault. Register files, the stack and bit addresses are reached the way a machine without
bounds in its types reaches them: by plain byte and index arithmetic. Main statements: no access ever faults,
and each gives what its unchecked counterpart gives.
-/

namespace Mcs51

/-- What can stop a checked machine. -/
inductive Fault
  /-- An index behind the end of a memory, or a register number behind the last register. -/
  | index
  | underflow
  | overflow
  | divisor
  /-- An operation with operands that it has no case for. -/
  | unhandled
deriving DecidableEq, Repr

namespace Checked

/-- A value, under a condition. -/
def ensure {α : Type} (fault : Fault) (condition : Prop) [Decidable condition] (value : α) : Except Fault α :=
  if condition then .ok value else .error fault

@[simp] theorem ensure_of {α : Type} {fault : Fault} {condition : Prop} [Decidable condition] {value : α}
    (holds : condition) : ensure fault condition value = .ok value :=
  if_pos holds

@[simp] theorem ok_bind {α β : Type} (a : α) (next : α → Except Fault β) :
    (Except.ok a >>= next) = next a :=
  rfl

@[simp] theorem pure_eq {α : Type} (a : α) : (pure a : Except Fault α) = .ok a :=
  rfl

/-! ### Arithmetic -/

def addByte (a b : UInt8) : Except Fault UInt8 :=
  ensure .overflow (a.toNat + b.toNat < 0x100) (a + b)

def subByte (a b : UInt8) : Except Fault UInt8 :=
  ensure .underflow (b ≤ a) (a - b)

/-- Shift left; the distance has to be below the width. -/
def shiftByte (a n : UInt8) : Except Fault UInt8 :=
  ensure .overflow (n < 8) (a <<< n)

def divByte (a b : UInt8) : Except Fault UInt8 :=
  ensure .divisor (b ≠ 0) (a / b)

def remByte (a b : UInt8) : Except Fault UInt8 :=
  ensure .divisor (b ≠ 0) (a % b)

def addWord (a b : UInt16) : Except Fault UInt16 :=
  ensure .overflow (a.toNat + b.toNat < 0x10000) (a + b)

def mulWord (a b : UInt16) : Except Fault UInt16 :=
  ensure .overflow (a.toNat * b.toNat < 0x10000) (a * b)

/-- Sum of indexes, in the sixteen bits that every index has at least. -/
def addIndex (a b : Nat) : Except Fault Nat :=
  ensure .overflow (a + b < 0x10000) (a + b)

def mulIndex (a b : Nat) : Except Fault Nat :=
  ensure .overflow (a * b < 0x10000) (a * b)

def remIndex (a b : Nat) : Except Fault Nat :=
  ensure .divisor (b ≠ 0) (a % b)

/-! ### Memories and registers -/

/-- A byte of a memory, which has to be there. -/
def load (cpu : Cpu) (space : Space) (i : Nat) : Except Fault UInt8 :=
  ensure .index (i < cpu.spaceSize space) (cpu.read space i)

/-- Write a byte of a memory, which has to be there. -/
def store (cpu : Cpu) (space : Space) (i : Nat) (value : UInt8) : Except Fault Cpu :=
  ensure .index (i < cpu.spaceSize space) (cpu.write space i value)

/-- Index of a register by its direct address. -/
def offset (register : UInt8) : Except Fault Nat := do
  return (← subByte register 0x80).toNat

def sfr (cpu : Cpu) (register : UInt8) : Except Fault UInt8 := do
  load cpu .sfr (← offset register)

def setSfr (cpu : Cpu) (register value : UInt8) : Except Fault Cpu := do
  store cpu .sfr (← offset register) value

def acc (cpu : Cpu) : Except Fault UInt8 :=
  sfr cpu Sfr.acc.addr

def setAcc (cpu : Cpu) (value : UInt8) : Except Fault Cpu :=
  setSfr cpu Sfr.acc.addr value

def flag (cpu : Cpu) (mask : UInt8) : Except Fault Bool := do
  return (← sfr cpu Sfr.psw.addr) &&& mask != 0

def setFlag (cpu : Cpu) (mask : UInt8) (on : Bool) : Except Fault Cpu := do
  let psw ← sfr cpu Sfr.psw.addr
  setSfr cpu Sfr.psw.addr (if on then psw ||| mask else psw &&& ~~~mask)

def carry (cpu : Cpu) : Except Fault Bool :=
  flag cpu Psw.cy

def dptr (cpu : Cpu) : Except Fault UInt16 := do
  return (← sfr cpu Sfr.dph.addr).toUInt16 <<< 8 ||| (← sfr cpu Sfr.dpl.addr).toUInt16

def setDptr (cpu : Cpu) (value : UInt16) : Except Fault Cpu := do
  setSfr (← setSfr cpu Sfr.dph.addr (value >>> 8).toUInt8) Sfr.dpl.addr value.toUInt8

/-- Index in lower RAM of the first register of the active bank. -/
def bankBase (cpu : Cpu) : Except Fault Nat := do
  mulIndex (((← sfr cpu Sfr.psw.addr) &&& (Psw.rs1 ||| Psw.rs0)) >>> 3).toNat 8

def regIndex (cpu : Cpu) (n : UInt8) : Except Fault Nat := do
  addIndex (← bankBase cpu) (n &&& 7).toNat

def reg (cpu : Cpu) (n : UInt8) : Except Fault UInt8 := do
  load cpu .lower (← regIndex cpu n)

def setReg (cpu : Cpu) (n value : UInt8) : Except Fault Cpu := do
  store cpu .lower (← regIndex cpu n) value

/-! ### Addressing modes -/

def readDirect (cpu : Cpu) (addr : UInt8) : Except Fault UInt8 :=
  if addr < 0x80 then load cpu .lower addr.toNat else sfr cpu addr

def writeDirect (cpu : Cpu) (addr value : UInt8) : Except Fault Cpu :=
  if addr < 0x80 then store cpu .lower addr.toNat value else setSfr cpu addr value

/-- The byte at an indirect address; upper RAM gives 0 where it ends. -/
def readIndirect (cpu : Cpu) (addr : UInt8) : Except Fault UInt8 :=
  if addr < 0x80 then load cpu .lower addr.toNat
  else do return cpu.read .upper (← subByte addr 0x80).toNat

def writeIndirect (cpu : Cpu) (addr value : UInt8) : Except Fault Cpu :=
  if addr < 0x80 then store cpu .lower addr.toNat value
  else do return cpu.write .upper (← subByte addr 0x80).toNat value

/-- Direct address and mask of an addressable bit. -/
def bitLocation (bit : UInt8) : Except Fault (UInt8 × UInt8) := do
  let mask ← shiftByte 1 (bit &&& 0x07)
  if bit < 0x80 then return (← addByte 0x20 (bit >>> 3), mask) else return (bit &&& 0xF8, mask)

def readBit (cpu : Cpu) (bit : UInt8) : Except Fault Bool := do
  let (addr, mask) ← bitLocation bit
  return (← readDirect cpu addr) &&& mask != 0

def writeBit (cpu : Cpu) (bit : UInt8) (on : Bool) : Except Fault Cpu := do
  let (addr, mask) ← bitLocation bit
  let byte ← readDirect cpu addr
  writeDirect cpu addr (if on then byte ||| mask else byte &&& ~~~mask)

/-- The code byte for an address. -/
def fetch (cpu : Cpu) (addr : UInt16) : Except Fault UInt8 :=
  if cpu.code.isEmpty then return 0
  else do load cpu .rom (← remIndex addr.toNat cpu.code.size)

/-! ### No access faults -/

variable (cpu : Cpu)

theorem sfr_bound (i : Fin 128) : i < cpu.spaceSize .sfr := by
  rw [Cpu.spaceSize, Cpu.memory, Vector.size_toArray]
  exact i.isLt

theorem lower_bound (i : Fin 128) : i < cpu.spaceSize .lower := by
  rw [Cpu.spaceSize, Cpu.memory, Vector.size_toArray]
  exact i.isLt

private theorem load_sfr (i : Fin 128) : load cpu .sfr i = .ok cpu.sfrs[i] := by
  rw [load, ensure_of (sfr_bound cpu i), Cpu.read, Array.getElem?_eq_getElem (sfr_bound cpu i)]
  rfl

theorem load_lower (i : Fin 128) : load cpu .lower i = .ok cpu.lower[i] := by
  rw [load, ensure_of (lower_bound cpu i), Cpu.read, Array.getElem?_eq_getElem (lower_bound cpu i)]
  rfl

theorem setIfInBounds_eq_set (bytes : Vector UInt8 128) (i : Fin 128) (value : UInt8) :
    bytes.setIfInBounds i value = bytes.set i value := by
  ext j bound
  rw [Vector.getElem_setIfInBounds, Vector.getElem_set]

private theorem store_sfr (i : Fin 128) (value : UInt8) :
    store cpu .sfr i value = .ok { cpu with sfrs := cpu.sfrs.set i value } := by
  rw [store, ensure_of (sfr_bound cpu i), Cpu.write, setIfInBounds_eq_set]

theorem store_lower (i : Fin 128) (value : UInt8) :
    store cpu .lower i value = .ok { cpu with lower := cpu.lower.set i value } := by
  rw [store, ensure_of (lower_bound cpu i), Cpu.write, setIfInBounds_eq_set]

/-- The difference never underflows: the address of a register is 80h at least. -/
theorem offset_eq (r : Sfr) : offset r.addr = .ok r.index.val := by
  rw [offset, subByte, ensure_of r.high, ok_bind, UInt8.toNat_sub_of_le _ _ r.high]
  rfl

@[simp] theorem sfr_eq (r : Sfr) : sfr cpu r.addr = .ok (cpu.sfr r) := by
  rw [sfr, offset_eq, ok_bind, load_sfr, Cpu.sfr]

@[simp] theorem setSfr_eq (r : Sfr) (value : UInt8) :
    setSfr cpu r.addr value = .ok (cpu.setSfr r value) := by
  rw [setSfr, offset_eq, ok_bind, store_sfr, Cpu.setSfr]

@[simp] theorem acc_eq : acc cpu = .ok cpu.acc :=
  sfr_eq cpu .acc

@[simp] theorem setAcc_eq (value : UInt8) : setAcc cpu value = .ok (cpu.setAcc value) :=
  setSfr_eq cpu .acc value

@[simp] theorem flag_eq (mask : UInt8) : flag cpu mask = .ok (cpu.flag mask) := by
  rw [flag, sfr_eq, ok_bind, Cpu.flag, pure_eq]

@[simp] theorem setFlag_eq (mask : UInt8) (on : Bool) :
    setFlag cpu mask on = .ok (cpu.setFlag mask on) := by
  rw [setFlag, sfr_eq, ok_bind, setSfr_eq, Cpu.setFlag]

@[simp] theorem carry_eq : carry cpu = .ok cpu.carry :=
  flag_eq cpu Psw.cy

@[simp] theorem dptr_eq : dptr cpu = .ok cpu.dptr := by
  rw [dptr, sfr_eq, ok_bind, sfr_eq, ok_bind, Cpu.dptr, pure_eq]

@[simp] theorem setDptr_eq (value : UInt16) : setDptr cpu value = .ok (cpu.setDptr value) := by
  rw [setDptr, setSfr_eq, ok_bind, setSfr_eq, Cpu.setDptr]

/-- The bank number has two bits, so a bank lies in the first 32 bytes. -/
theorem bankBase_eq : bankBase cpu = .ok ((cpu.sfr .psw).toNat / 8 % 4 * 8) := by
  have bank : ∀ psw : UInt8, ((psw &&& (Psw.rs1 ||| Psw.rs0)) >>> 3).toNat = psw.toNat / 8 % 4 :=
    forall_byte (by decide +kernel)
  rw [bankBase, sfr_eq, ok_bind, bank, mulIndex, ensure_of (by omega)]

theorem regIndex_eq (n : Fin 8) : regIndex cpu (UInt8.ofNat n) = .ok (cpu.regIndex n).val := by
  have number : ∀ n : Fin 8, (UInt8.ofNat n &&& 7).toNat = n := by decide
  rw [regIndex, bankBase_eq, ok_bind, number, addIndex, ensure_of (by omega), Cpu.regIndex]

@[simp] theorem reg_eq (n : Fin 8) : reg cpu (UInt8.ofNat n) = .ok (cpu.reg n) := by
  rw [reg, regIndex_eq, ok_bind, load_lower, Cpu.reg]

@[simp] theorem setReg_eq (n : Fin 8) (value : UInt8) :
    setReg cpu (UInt8.ofNat n) value = .ok (cpu.setReg n value) := by
  rw [setReg, regIndex_eq, ok_bind, store_lower, Cpu.setReg]

@[simp] theorem readDirect_eq (addr : UInt8) : readDirect cpu addr = .ok (cpu.readDirect addr) := by
  unfold readDirect Cpu.readDirect
  split
  · exact load_lower cpu (Cpu.lowerIndex addr ‹_›)
  · exact sfr_eq cpu ⟨addr, _⟩

@[simp] theorem writeDirect_eq (addr value : UInt8) :
    writeDirect cpu addr value = .ok (cpu.writeDirect addr value) := by
  unfold writeDirect Cpu.writeDirect
  split
  · exact store_lower cpu (Cpu.lowerIndex addr ‹_›) value
  · exact setSfr_eq cpu ⟨addr, _⟩ value

@[simp] theorem readIndirect_eq (addr : UInt8) :
    readIndirect cpu addr = .ok (cpu.readIndirect addr) := by
  unfold readIndirect Cpu.readIndirect
  split
  · exact load_lower cpu (Cpu.lowerIndex addr ‹_›)
  · rename_i high
    rw [subByte, ensure_of (UInt8.not_lt.mp high), ok_bind, UInt8.toNat_sub_of_le _ _ (UInt8.not_lt.mp high)]
    rfl

@[simp] theorem writeIndirect_eq (addr value : UInt8) :
    writeIndirect cpu addr value = .ok (cpu.writeIndirect addr value) := by
  unfold writeIndirect Cpu.writeIndirect
  split
  · exact store_lower cpu (Cpu.lowerIndex addr ‹_›) value
  · rename_i high
    rw [subByte, ensure_of (UInt8.not_lt.mp high), ok_bind, UInt8.toNat_sub_of_le _ _ (UInt8.not_lt.mp high)]
    rfl

/-- The shift stays in the byte, and bits below 80h lie below address 30h. -/
theorem bitLocation_eq (bit : UInt8) :
    bitLocation bit = .ok (Cpu.bitByte bit, Cpu.bitMask bit) := by
  have small : ∀ bit : UInt8, bit &&& 0x07 < 8 := forall_byte (by decide +kernel)
  have eighth : ∀ bit : UInt8, bit >>> 3 = bit / 8 := forall_byte (by decide +kernel)
  have byte : ∀ bit : UInt8, bit < 0x80 → (0x20 : UInt8).toNat + (bit / 8).toNat < 0x100 :=
    forall_byte (by decide +kernel)
  rw [bitLocation, shiftByte, ensure_of (small bit), ok_bind, Cpu.bitByte, Cpu.bitMask]
  split
  · rename_i low
    rw [eighth, addByte, ensure_of (byte bit low)]
    rfl
  · rfl

@[simp] theorem readBit_eq (bit : UInt8) : readBit cpu bit = .ok (cpu.readBit bit) := by
  rw [readBit, bitLocation_eq, ok_bind]
  dsimp only
  rw [readDirect_eq, ok_bind, Cpu.readBit, pure_eq]

@[simp] theorem writeBit_eq (bit : UInt8) (on : Bool) :
    writeBit cpu bit on = .ok (cpu.writeBit bit on) := by
  rw [writeBit, bitLocation_eq, ok_bind]
  dsimp only
  rw [readDirect_eq, ok_bind, writeDirect_eq, Cpu.writeBit]

/-- An empty code memory supplies zeros, and in any other the address is wrapped before it is used. -/
@[simp] theorem fetch_eq (addr : UInt16) : fetch cpu addr = .ok (cpu.fetch addr) := by
  unfold fetch Cpu.fetch
  split
  · rename_i empty
    rw [Array.isEmpty_iff.mp empty]
    rfl
  · rename_i filled
    have size : cpu.code.size ≠ 0 := fun none => filled (Array.isEmpty_iff_size_eq_zero.mpr none)
    have bound : addr.toNat % cpu.code.size < cpu.spaceSize .rom :=
      Nat.mod_lt _ (Nat.pos_of_ne_zero size)
    rw [remIndex, ensure_of size, ok_bind, load, ensure_of bound]
    rfl

end Checked

end Mcs51
