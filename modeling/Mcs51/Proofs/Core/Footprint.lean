import Mcs51.Isa.Assembly
import Mcs51.Proofs.Core.Memory

/-! # What an instruction can change

The addresses 80h to FFh name two memories: the registers when they are direct, upper RAM when they are
indirect. Every access goes through one byte of one memory (`MemoryByte.direct`, `MemoryByte.indirect`), and every
instruction changes only the bytes that it reaches from the state in which it is executed (`Cpu.Reaches`).
Main statement: a step keeps the memories apart (`memories_stay_separate`).
-/

namespace Mcs51

structure MemoryByte where
  space : Space
  addr : Nat
deriving DecidableEq, Repr

theorem Sfr.toNat_addr (r : Sfr) : r.addr.toNat = 0x80 + r.index := by
  have high : 0x80 ≤ r.addr.toNat := UInt8.le_iff_toNat_le.mp r.high
  exact (Nat.add_sub_of_le high).symm

namespace MemoryByte

def sfr (r : Sfr) : MemoryByte :=
  ⟨.sfr, r.index⟩

def direct (addr : UInt8) : MemoryByte :=
  if addr < 0x80 then ⟨.lower, addr.toNat⟩ else ⟨.sfr, addr.toNat - 0x80⟩

def indirect (addr : UInt8) : MemoryByte :=
  if addr < 0x80 then ⟨.lower, addr.toNat⟩ else ⟨.upper, addr.toNat - 0x80⟩

variable {addr : UInt8} {r : Sfr}

/-- A direct address never names a byte of upper or external RAM or of code memory. -/
theorem space_direct (addr : UInt8) : (direct addr).space = .lower ∨ (direct addr).space = .sfr := by
  rw [direct]
  split
  · exact .inl rfl
  · exact .inr rfl

/-- An indirect address never names a register, nor a byte of external RAM or code memory. -/
theorem space_indirect (addr : UInt8) : (indirect addr).space = .lower ∨ (indirect addr).space = .upper := by
  rw [indirect]
  split
  · exact .inl rfl
  · exact .inr rfl

private theorem high_of_indirect_upper {place : Nat} (names : indirect addr = ⟨.upper, place⟩) :
    0x80 ≤ addr ∧ place = addr.toNat - 0x80 := by
  rw [indirect] at names
  split at names
  · exact absurd (congrArg space names) nofun
  · rename_i high
    rw [mk.injEq] at names
    exact ⟨UInt8.not_lt.mp high, names.2.symm⟩

/-- The byte of a register is the one at its direct address only. -/
theorem addr_of_direct_sfr (names : direct addr = sfr r) : r.addr = addr := by
  rw [direct] at names
  split at names
  · exact absurd (congrArg space names) nofun
  · rename_i high
    rw [sfr, mk.injEq] at names
    have above : 0x80 ≤ addr.toNat := UInt8.le_iff_toNat_le.mp (UInt8.not_lt.mp high)
    apply UInt8.toNat_inj.mp
    rw [r.toNat_addr, ← names.2]
    omega

theorem sfr_inj {other : Sfr} (same : sfr r = sfr other) : r = other := by
  rw [sfr, sfr, mk.injEq] at same
  have addrs : r.addr = other.addr := by
    apply UInt8.toNat_inj.mp
    rw [r.toNat_addr, other.toNat_addr, same.2]
  cases r
  cases other
  cases addrs
  rfl

/-- Two addresses name two bytes, since the halves of the address space are memories of their own. -/
theorem halves_inj {high : Space} (apart : high ≠ .lower) {a b : UInt8}
    (same : (if a < 0x80 then ⟨.lower, a.toNat⟩ else ⟨high, a.toNat - 0x80⟩ : MemoryByte) =
      if b < 0x80 then ⟨.lower, b.toNat⟩ else ⟨high, b.toNat - 0x80⟩) : a = b := by
  have above {addr : UInt8} (notLow : ¬addr < 0x80) : 0x80 ≤ addr.toNat :=
    UInt8.le_iff_toNat_le.mp (UInt8.not_lt.mp notLow)
  apply UInt8.toNat_inj.mp
  split at same <;> split at same <;> rw [mk.injEq] at same
  · exact same.2
  · exact absurd same.1.symm apart
  · exact absurd same.1 apart
  · have := above ‹¬a < 0x80›
    have := above ‹¬b < 0x80›
    omega

theorem direct_inj {a b : UInt8} (same : direct a = direct b) : a = b :=
  halves_inj (by decide) same

theorem indirect_inj {a b : UInt8} (same : indirect a = indirect b) : a = b :=
  halves_inj (by decide) same

end MemoryByte

/-! ### What an instruction writes -/

namespace Instruction

/-- The registers that an instruction writes without naming them by an address, apart from the program status
word, which every instruction writes. -/
def registers : Instruction → List Sfr
  | inc .acc | dec .acc | logic _ .acc _ | mov .acc _ | countBranch .acc _ => [.acc]
  | arith .. | decimalAdjust | clearAcc | complementAcc | rotate _ | swap => [.acc]
  | loadCode _ | loadExternal _ | exchange _ | exchangeDigit _ => [.acc]
  | mul | div => [.acc, .b]
  | incDptr | movDptr _ => [.dph, .dpl]
  | call .. | ret | reti | push _ | pop _ => [.sp]
  | _ => []

/-- The places that an instruction writes. -/
def destinations : Instruction → List Place
  | inc p | dec p | logic _ p _ | mov p _ | exchange p | countBranch p _ => [p]
  | exchangeDigit i => [.indirect i]
  | pop addr => [.direct addr]
  | _ => []

/-- The addressable bits that an instruction writes. -/
def bits : Instruction → List UInt8
  | bitOp _ (.bit bit) | bitFromCarry bit | bitBranch .setClearing bit _ => [bit]
  | _ => []

/-- How far above the stack pointer the bytes are that an instruction pushes. -/
def slots : Instruction → List UInt8
  | push _ => [1]
  | call .. => [1, 2]
  | _ => []

/-- Whether an instruction names a register by a direct or a bit operand. -/
def Names (i : Instruction) (r : Sfr) : Prop :=
  .direct r.addr ∈ i.operands ∨ ∃ bit, .bit bit ∈ i.operands ∧ Cpu.bitByte bit = r.addr

variable {i : Instruction}

private theorem operand_mem_operands {p : Place} (written : p ∈ i.destinations) : p.operand ∈ i.operands := by
  cases i <;> simp_all [destinations, operands, Place.operand]

private theorem bit_mem_operands {bit : UInt8} (written : bit ∈ i.bits) : .bit bit ∈ i.operands := by
  unfold bits at written
  split at written <;> simp_all [operands, BitPlace.operand]

private theorem acc_mem_registers (written : .acc ∈ i.destinations) : .acc ∈ i.registers := by
  cases i <;> simp only [destinations, List.mem_singleton, List.not_mem_nil, reduceCtorEq] at written <;>
    (subst written; exact .head _)

private theorem operation_of_mem_slots {n : UInt8} (pushed : n ∈ i.slots) :
    (i.operation = .push ∧ n = 1) ∨ ((i.operation = .acall ∨ i.operation = .lcall) ∧ (n = 1 ∨ n = 2)) := by
  unfold slots at pushed
  split at pushed
  · exact .inl ⟨rfl, List.mem_singleton.mp pushed⟩
  · rename_i form target
    have distance : n = 1 ∨ n = 2 := by simpa using pushed
    cases form with
    | absolute => exact .inr ⟨.inl rfl, distance⟩
    | long => exact .inr ⟨.inr rfl, distance⟩
  · exact absurd pushed List.not_mem_nil

private theorem registers_subset (i : Instruction) : .psw :: i.registers ⊆ [.acc, .b, .psw, .sp, .dpl, .dph] := by
  have status : [Sfr.psw] ⊆ [.acc, .b, .psw, .sp, .dpl, .dph] := by decide
  have accumulator : [Sfr.psw, .acc] ⊆ [.acc, .b, .psw, .sp, .dpl, .dph] := by decide
  have product : [Sfr.psw, .acc, .b] ⊆ [.acc, .b, .psw, .sp, .dpl, .dph] := by decide
  have dataPointer : [Sfr.psw, .dph, .dpl] ⊆ [.acc, .b, .psw, .sp, .dpl, .dph] := by decide
  have stack : [Sfr.psw, .sp] ⊆ [.acc, .b, .psw, .sp, .dpl, .dph] := by decide
  cases i with
  | inc p | dec p | logic _ p | mov p | countBranch p =>
    cases p with
    | acc => exact accumulator
    | reg | indirect | direct => exact status
  | arith | decimalAdjust | clearAcc | complementAcc | rotate | swap => exact accumulator
  | loadCode | loadExternal | exchange | exchangeDigit => exact accumulator
  | mul | div => exact product
  | incDptr | movDptr => exact dataPointer
  | call | ret | reti | push | pop => exact stack
  | _ => exact status

end Instruction

namespace Cpu

def load (cpu : Cpu) (l : MemoryByte) : UInt8 :=
  cpu.read l.space l.addr

def store (cpu : Cpu) (l : MemoryByte) (value : UInt8) : Cpu :=
  cpu.write l.space l.addr value

/-- The byte that a place stands for. -/
def byteAt (cpu : Cpu) : Place → MemoryByte
  | .acc => .sfr .acc
  | .reg n => ⟨.lower, cpu.regIndex n⟩
  | .indirect i => .indirect (cpu.pointer i)
  | .direct addr => .direct addr

/-- The bytes that an instruction can change when it is executed in a state. -/
inductive Reaches (cpu : Cpu) (i : Instruction) : MemoryByte → Prop
  /-- The program status word holds the parity of the accumulator and the other flags. -/
  | psw : Reaches cpu i (.sfr .psw)
  | register {r : Sfr} (written : r ∈ i.registers) : Reaches cpu i (.sfr r)
  | destination {p : Place} (written : p ∈ i.destinations) : Reaches cpu i (cpu.byteAt p)
  | bit {bit : UInt8} (written : bit ∈ i.bits) : Reaches cpu i (.direct (bitByte bit))
  | slot {n : UInt8} (pushed : n ∈ i.slots) : Reaches cpu i (.indirect (cpu.sfr .sp + n))
  | external {dst : Pointer} (stores : i = .storeExternal dst) :
      Reaches cpu i ⟨.external, cpu.externalAddr dst⟩

/-- The later of two processors differs from the earlier one at most in the bytes of a set. -/
structure ChangesOnly (bytes : MemoryByte → Prop) (before after : Cpu) : Prop where
  spaceSize : ∀ space, after.spaceSize space = before.spaceSize space
  load : ∀ l, ¬bytes l → after.load l = before.load l

variable {cpu before after : Cpu} {bytes : MemoryByte → Prop}

/-! ### Accesses -/

theorem load_store_of_ne {l other : MemoryByte} (apart : other ≠ l) (value : UInt8) :
    (cpu.store l value).load other = cpu.load other := by
  rw [store, load, read_write, if_neg, load]
  rintro ⟨⟨space, addr⟩, _⟩
  apply apart
  cases l
  cases other
  rw [MemoryByte.mk.injEq]
  exact ⟨space, addr⟩

theorem load_store_self {l : MemoryByte} (inside : l.addr < cpu.spaceSize l.space) (value : UInt8) :
    (cpu.store l value).load l = value := by
  rw [store, load, read_write, if_pos ⟨⟨rfl, rfl⟩, inside⟩]

theorem setSfr_eq_store (r : Sfr) (value : UInt8) : cpu.setSfr r value = cpu.store (.sfr r) value :=
  cpu.setSfr_eq_write r value

theorem sfr_eq_load (r : Sfr) : cpu.sfr r = cpu.load (.sfr r) :=
  cpu.sfr_eq_read r

theorem readDirect_eq_load (cpu : Cpu) (addr : UInt8) : cpu.readDirect addr = cpu.load (.direct addr) := by
  rw [readDirect, MemoryByte.direct]
  split
  · rename_i low
    have inside : addr.toNat < cpu.lower.toArray.size := by
      rw [cpu.lower.size_toArray]
      exact UInt8.lt_iff_toNat_lt.mp low
    rw [load, read, memory, Array.getElem?_eq_getElem inside]
    rfl
  · exact cpu.sfr_eq_read _

theorem writeDirect_eq_store (cpu : Cpu) (addr value : UInt8) :
    cpu.writeDirect addr value = cpu.store (.direct addr) value := by
  rw [writeDirect, MemoryByte.direct]
  split
  · rw [store, write, ← Checked.setIfInBounds_eq_set]
    rfl
  · exact cpu.setSfr_eq_write _ value

theorem readIndirect_eq_load (cpu : Cpu) (addr : UInt8) :
    cpu.readIndirect addr = cpu.load (.indirect addr) := by
  by_cases low : addr < 0x80
  · have same := cpu.readDirect_eq_load addr
    rw [readDirect, dif_pos low, MemoryByte.direct, if_pos low] at same
    rw [readIndirect, dif_pos low, MemoryByte.indirect, if_pos low, same]
  · rw [readIndirect, dif_neg low, MemoryByte.indirect, if_neg low]
    rfl

theorem writeIndirect_eq_store (cpu : Cpu) (addr value : UInt8) :
    cpu.writeIndirect addr value = cpu.store (.indirect addr) value := by
  by_cases low : addr < 0x80
  · have same := cpu.writeDirect_eq_store addr value
    rw [writeDirect, dif_pos low, MemoryByte.direct, if_pos low] at same
    rw [writeIndirect, dif_pos low, MemoryByte.indirect, if_pos low, same]
  · rw [writeIndirect, dif_neg low, MemoryByte.indirect, if_neg low]
    rfl

theorem writePlace_eq_store (cpu : Cpu) (p : Place) (value : UInt8) :
    cpu.writePlace p value = cpu.store (cpu.byteAt p) value := by
  cases p with
  | acc => exact setSfr_eq_store _ value
  | reg n => exact cpu.setReg_eq_write n value
  | indirect i => exact cpu.writeIndirect_eq_store _ value
  | direct addr => exact cpu.writeDirect_eq_store addr value

theorem sfr_setSfr_self (r : Sfr) (value : UInt8) : (cpu.setSfr r value).sfr r = value := by
  simp only [sfr, setSfr, Fin.getElem_fin, Vector.getElem_set_self]

theorem sfr_setSfr_of_ne {r other : Sfr} (apart : other ≠ r) (value : UInt8) :
    (cpu.setSfr r value).sfr other = cpu.sfr other := by
  rw [setSfr_eq_store, sfr_eq_load, load_store_of_ne, sfr_eq_load]
  intro same
  exact apart (MemoryByte.sfr_inj same)

theorem sfr_writeIndirect (r : Sfr) (addr value : UInt8) :
    (cpu.writeIndirect addr value).sfr r = cpu.sfr r := by
  rw [writeIndirect_eq_store, sfr_eq_load, load_store_of_ne, sfr_eq_load]
  intro same
  have space : (MemoryByte.indirect addr).space = .sfr := by rw [← same, MemoryByte.sfr]
  rcases MemoryByte.space_indirect addr with lower | upper
  · exact absurd (lower.symm.trans space) nofun
  · exact absurd (upper.symm.trans space) nofun

/-- Which byte a place stands for depends on no register but the program status word. -/
theorem byteAt_setSfr {r : Sfr} (apart : .psw ≠ r) (value : UInt8) (p : Place) :
    (cpu.setSfr r value).byteAt p = cpu.byteAt p := by
  have bank (n : Fin 8) : (cpu.setSfr r value).regIndex n = cpu.regIndex n := by
    simp only [regIndex, sfr_setSfr_of_ne apart]
  have reg (n : Fin 8) : (cpu.setSfr r value).reg n = cpu.reg n := by
    rw [reg_eq_read, reg_eq_read, bank]
    rfl
  cases p with
  | acc => rfl
  | reg n => rw [byteAt, byteAt, bank]
  | indirect i => rw [byteAt, byteAt, pointer, pointer, reg]
  | direct addr => rfl

/-! ### Changes of the accesses -/

namespace ChangesOnly

theorem refl (cpu : Cpu) : ChangesOnly bytes cpu cpu :=
  ⟨fun _ => rfl, fun _ _ => rfl⟩

theorem trans {last : Cpu} (first : ChangesOnly bytes before after) (second : ChangesOnly bytes after last) :
    ChangesOnly bytes before last := by
  constructor
  · intro space
    rw [second.spaceSize, first.spaceSize]
  · intro l untouched
    rw [second.load l untouched, first.load l untouched]

theorem mono {larger : MemoryByte → Prop} (changes : ChangesOnly bytes before after)
    (covers : ∀ l, bytes l → larger l) : ChangesOnly larger before after := by
  constructor
  · exact changes.spaceSize
  · intro l untouched
    exact changes.load l fun reached => untouched (covers l reached)

theorem store {l : MemoryByte} (changes : ChangesOnly bytes before after) (reached : bytes l) (value : UInt8) :
    ChangesOnly bytes before (after.store l value) := by
  apply changes.trans
  constructor
  · exact spaceSize_write after _ _ value
  · intro other untouched
    apply load_store_of_ne
    rintro rfl
    exact untouched reached

/-- The program counter lies in no memory. -/
theorem jump (changes : ChangesOnly bytes before after) (target : UInt16) :
    ChangesOnly bytes before (after.jump target) := by
  apply changes.trans
  constructor
  · rintro (_ | _ | _ | _ | _) <;> rfl
  · rintro ⟨_ | _ | _ | _ | _, addr⟩ _ <;> rfl

theorem jumpIf (changes : ChangesOnly bytes before after) (condition : Bool) (target : UInt16) :
    ChangesOnly bytes before (after.jumpIf condition target) := by
  rw [Cpu.jumpIf]
  split
  · exact changes.jump target
  · exact changes

theorem setSfr {r : Sfr} (changes : ChangesOnly bytes before after) (reached : bytes (.sfr r)) (value : UInt8) :
    ChangesOnly bytes before (after.setSfr r value) := by
  rw [setSfr_eq_store]
  exact changes.store reached value

theorem setFlag (changes : ChangesOnly bytes before after) (psw : bytes (.sfr .psw)) (mask : UInt8) (on : Bool) :
    ChangesOnly bytes before (after.setFlag mask on) :=
  changes.setSfr psw _

theorem setDptr (changes : ChangesOnly bytes before after) (dph : bytes (.sfr .dph)) (dpl : bytes (.sfr .dpl))
    (value : UInt16) : ChangesOnly bytes before (after.setDptr value) :=
  (changes.setSfr dph _).setSfr dpl _

theorem writeDirect {addr : UInt8} (changes : ChangesOnly bytes before after) (reached : bytes (.direct addr))
    (value : UInt8) : ChangesOnly bytes before (after.writeDirect addr value) := by
  rw [writeDirect_eq_store]
  exact changes.store reached value

theorem writePlace {p : Place} (changes : ChangesOnly bytes before after) (reached : bytes (after.byteAt p))
    (value : UInt8) : ChangesOnly bytes before (after.writePlace p value) := by
  rw [writePlace_eq_store]
  exact changes.store reached value

theorem writeBit {bit : UInt8} (changes : ChangesOnly bytes before after)
    (reached : bytes (.direct (bitByte bit))) (on : Bool) :
    ChangesOnly bytes before (after.writeBit bit on) :=
  changes.writeDirect reached _

/-- The accumulator is written before the byte that it is exchanged with, which is still the one it was. -/
theorem exchange {p : Place} (changes : ChangesOnly bytes before after) (acc : bytes (.sfr .acc))
    (reached : bytes (after.byteAt p)) (first second : UInt8) :
    ChangesOnly bytes before ((after.setAcc first).writePlace p second) := by
  have same : (after.setAcc first).byteAt p = after.byteAt p := byteAt_setSfr (by decide) first p
  rw [← same] at reached
  exact (changes.setSfr acc first).writePlace reached second

/-! ### Changes of the stack and of arithmetic -/

theorem push (changes : ChangesOnly bytes before after) (sp : bytes (.sfr .sp))
    (slot : bytes (.indirect (after.sfr .sp + 1))) (value : UInt8) :
    ChangesOnly bytes before (after.push value) := by
  rw [Cpu.push, writeIndirect_eq_store]
  exact (changes.setSfr sp _).store slot value

theorem pushPc (changes : ChangesOnly bytes before after) (sp : bytes (.sfr .sp))
    (low : bytes (.indirect (after.sfr .sp + 1))) (high : bytes (.indirect (after.sfr .sp + 2))) :
    ChangesOnly bytes before after.pushPc := by
  have moved : (after.push after.pc.toUInt8).sfr .sp + 1 = after.sfr .sp + 2 := by
    rw [Cpu.push, sfr_writeIndirect, sfr_setSfr_self, UInt8.add_assoc]
    rfl
  rw [← moved] at high
  exact (changes.push sp low _).push sp high _

theorem pop (changes : ChangesOnly bytes before after) (sp : bytes (.sfr .sp)) :
    ChangesOnly bytes before after.pop.2 :=
  changes.setSfr sp _

theorem popPc (changes : ChangesOnly bytes before after) (sp : bytes (.sfr .sp)) :
    ChangesOnly bytes before after.popPc :=
  ((changes.pop sp).pop sp).jump _

theorem add (changes : ChangesOnly bytes before after) (psw : bytes (.sfr .psw)) (acc : bytes (.sfr .acc))
    (value : UInt8) (carryIn : Bool) : ChangesOnly bytes before (after.add value carryIn) :=
  (((changes.setFlag psw _ _).setFlag psw _ _).setFlag psw _ _).setSfr acc _

theorem subtract (changes : ChangesOnly bytes before after) (psw : bytes (.sfr .psw))
    (acc : bytes (.sfr .acc)) (value : UInt8) : ChangesOnly bytes before (after.subtract value) :=
  (((changes.setFlag psw _ _).setFlag psw _ _).setFlag psw _ _).setSfr acc _

theorem multiply (changes : ChangesOnly bytes before after) (psw : bytes (.sfr .psw))
    (acc : bytes (.sfr .acc)) (b : bytes (.sfr .b)) : ChangesOnly bytes before after.multiply :=
  (((changes.setSfr acc _).setSfr b _).setFlag psw _ _).setFlag psw _ _

theorem divide (changes : ChangesOnly bytes before after) (psw : bytes (.sfr .psw))
    (acc : bytes (.sfr .acc)) (b : bytes (.sfr .b)) : ChangesOnly bytes before after.divide := by
  rw [Cpu.divide]
  split
  · exact (changes.setFlag psw _ _).setFlag psw _ _
  · exact (((changes.setFlag psw _ _).setSfr acc _).setSfr b _).setFlag psw _ _

theorem decimalAdjust (changes : ChangesOnly bytes before after) (psw : bytes (.sfr .psw))
    (acc : bytes (.sfr .acc)) : ChangesOnly bytes before after.decimalAdjust := by
  have carryIf {cpu : Cpu} (changes : ChangesOnly bytes before cpu) (sum : Nat) :
      ChangesOnly bytes before (if 0xFF < sum then cpu.setFlag Psw.cy true else cpu) := by
    split
    · exact changes.setFlag psw _ _
    · exact changes
  exact (carryIf (carryIf changes _) _).setSfr acc _

theorem rotate (changes : ChangesOnly bytes before after) (psw : bytes (.sfr .psw))
    (acc : bytes (.sfr .acc)) (how : Rotation) : ChangesOnly bytes before (after.rotate how) := by
  cases how with
  | rl => exact changes.setSfr acc _
  | rr => exact changes.setSfr acc _
  | rlc => exact (changes.setSfr acc _).setFlag psw _ _
  | rrc => exact (changes.setSfr acc _).setFlag psw _ _

end ChangesOnly

/-! ### Changes of an instruction -/

private theorem changesOnly_execute (cpu : Cpu) (i : Instruction) :
    ChangesOnly (cpu.Reaches i) cpu (cpu.execute i) := by
  have start : ChangesOnly (cpu.Reaches i) cpu cpu := .refl cpu
  have status : cpu.Reaches i (.sfr .psw) := .psw
  cases i with
  | nop => exact start
  | reserved => exact start
  | jump form target => exact start.jump target
  | jumpTable => exact start.jump _
  | call form target =>
    have pushed := start.pushPc (.register (.head _)) (.slot (.head _)) (.slot (.tail _ (.head _)))
    exact pushed.jump target
  | ret => exact start.popPc (.register (.head _))
  | reti => exact start.popPc (.register (.head _))
  | inc p => exact start.writePlace (.destination (.head _)) _
  | dec p => exact start.writePlace (.destination (.head _)) _
  | incDptr => exact start.setDptr (.register (.head _)) (.register (.tail _ (.head _))) _
  | arith op src =>
    have acc : cpu.Reaches (.arith op src) (.sfr .acc) := .register (.head _)
    cases op with
    | add => exact start.add status acc _ _
    | addc => exact start.add status acc _ _
    | subb => exact start.subtract status acc _
  | mul => exact start.multiply status (.register (.head _)) (.register (.tail _ (.head _)))
  | div => exact start.divide status (.register (.head _)) (.register (.tail _ (.head _)))
  | decimalAdjust => exact start.decimalAdjust status (.register (.head _))
  | logic op dst src => exact start.writePlace (.destination (.head _)) _
  | carryLogic op bit complement => exact start.setFlag status _ _
  | clearAcc => exact start.setSfr (.register (.head _)) _
  | complementAcc => exact start.setSfr (.register (.head _)) _
  | rotate how => exact start.rotate status (.register (.head _)) how
  | swap => exact start.setSfr (.register (.head _)) _
  | bitOp op target =>
    cases target with
    | carry => exact start.setFlag status _ _
    | bit bit => exact start.writeBit (.bit (.head _)) _
  | mov dst src => exact start.writePlace (.destination (.head _)) _
  | movDptr value => exact start.setDptr (.register (.head _)) (.register (.tail _ (.head _))) _
  | bitFromCarry bit => exact start.writeBit (.bit (.head _)) _
  | carryFromBit bit => exact start.setFlag status _ _
  | loadCode base =>
    have acc : cpu.Reaches (.loadCode base) (.sfr .acc) := .register (.head _)
    cases base with
    | dptr => exact start.setSfr acc _
    | pc => exact start.setSfr acc _
  | loadExternal src => exact start.setSfr (.register (.head _)) _
  | storeExternal dst => exact start.store (.external rfl) _
  | push addr => exact start.push (.register (.head _)) (.slot (.head _)) _
  | pop addr =>
    have popped := start.pop (.register (.head _))
    have reached : cpu.Reaches (.pop addr) (cpu.byteAt (.direct addr)) := .destination (.head _)
    exact popped.writeDirect reached _
  | exchange p =>
    exact start.exchange (.register (.head _)) (.destination (.head _)) _ _
  | exchangeDigit i =>
    exact start.exchange (.register (.head _)) (.destination (.head _)) _ _
  | branch condition target => exact start.jumpIf _ target
  | bitBranch condition bit target =>
    cases condition with
    | set => exact start.jumpIf _ target
    | clear => exact start.jumpIf _ target
    | setClearing =>
      rw [execute]
      split
      · exact (start.writeBit (.bit (.head _)) false).jump target
      · exact start
  | compareBranch lhs rhs target => exact (start.setFlag status _ _).jumpIf _ target
  | countBranch p target => exact (start.writePlace (.destination (.head _)) _).jumpIf _ target

/-- What an instruction reaches does not depend on the program counter. -/
theorem Reaches.of_jump {i : Instruction} {l : MemoryByte} {target : UInt16}
    (reached : (cpu.jump target).Reaches i l) : cpu.Reaches i l := by
  cases reached with
  | psw => exact .psw
  | register written => exact .register written
  | destination written =>
    rename_i p
    cases p <;> exact .destination written
  | bit written => exact .bit written
  | slot pushed => exact .slot pushed
  | external stores =>
    rename_i dst
    cases dst <;> exact .external stores

/-- A step changes only the bytes that the instruction at the program counter reaches. -/
theorem changesOnly_step (cpu : Cpu) : ChangesOnly (cpu.Reaches (cpu.decode cpu.pc)) cpu cpu.step := by
  generalize fetched : cpu.decode cpu.pc = i
  let next := cpu.jump (cpu.pc + UInt16.ofNat i.length)
  have moved : ChangesOnly (cpu.Reaches i) cpu next := (ChangesOnly.refl cpu).jump _
  have executed : ChangesOnly (cpu.Reaches i) next (next.execute i) :=
    (next.changesOnly_execute i).mono fun _ reached => reached.of_jump
  rw [step, fetched]
  exact (moved.trans executed).setFlag .psw _ _

theorem reaches_of_step_ne {l : MemoryByte} (changed : cpu.step.load l ≠ cpu.load l) :
    cpu.Reaches (cpu.decode cpu.pc) l := by
  apply Classical.byContradiction
  intro untouched
  exact changed (cpu.changesOnly_step.load l untouched)

/-! ### One memory at a time -/

theorem memory_eq_of_load {space : Space} (size : after.spaceSize space = before.spaceSize space)
    (kept : ∀ addr, after.load ⟨space, addr⟩ = before.load ⟨space, addr⟩) :
    after.memory space = before.memory space := by
  apply Array.ext size
  intro addr inside inside'
  have same := kept addr
  rw [load, load, read, read, Array.getElem?_eq_getElem inside, Array.getElem?_eq_getElem inside'] at same
  exact same

variable {i : Instruction} {l : MemoryByte}

/-- In which memory a place lies depends only on its addressing mode. -/
theorem space_byteAt (cpu : Cpu) (p : Place) :
    (cpu.byteAt p).space = .lower ∨
      ((cpu.byteAt p).space = .upper ∧ ∃ n, p = .indirect n) ∨
      ((cpu.byteAt p).space = .sfr ∧ (p = .acc ∨ ∃ addr, p = .direct addr)) := by
  cases p with
  | acc => exact .inr (.inr ⟨rfl, .inl rfl⟩)
  | reg n => exact .inl rfl
  | indirect n =>
    rcases MemoryByte.space_indirect (cpu.pointer n) with lower | upper
    · exact .inl lower
    · exact .inr (.inl ⟨upper, n, rfl⟩)
  | direct addr =>
    rcases MemoryByte.space_direct addr with lower | sfr
    · exact .inl lower
    · exact .inr (.inr ⟨sfr, .inr ⟨addr, rfl⟩⟩)

/-- Outside the internal memories only the byte that an external store goes to is in reach. -/
theorem Reaches.eq_external (reached : cpu.Reaches i l) (outside : l.space = .external ∨ l.space = .rom) :
    ∃ dst, i = .storeExternal dst ∧ l = ⟨.external, cpu.externalAddr dst⟩ := by
  cases reached with
  | psw => simp [MemoryByte.sfr] at outside
  | register written => simp [MemoryByte.sfr] at outside
  | destination written =>
    rename_i p
    rcases cpu.space_byteAt p with space | ⟨space, _⟩ | ⟨space, _⟩ <;> simp [space] at outside
  | bit written =>
    rename_i bit
    rcases MemoryByte.space_direct (bitByte bit) with space | space <;> simp [space] at outside
  | slot pushed =>
    rename_i n
    rcases MemoryByte.space_indirect (cpu.sfr .sp + n) with space | space <;> simp [space] at outside
  | external stores => exact ⟨_, stores, rfl⟩

/-- Upper RAM is in reach through the pointer registers and the stack pointer only. -/
theorem Reaches.eq_indirect (reached : cpu.Reaches i l) (upper : l.space = .upper) :
    ∃ addr, l = .indirect addr ∧
      ((∃ n, .indirect n ∈ i.destinations ∧ addr = cpu.pointer n) ∨
        ∃ n ∈ i.slots, addr = cpu.sfr .sp + n) := by
  cases reached with
  | psw => simp [MemoryByte.sfr] at upper
  | register written => simp [MemoryByte.sfr] at upper
  | destination written =>
    rename_i p
    rcases cpu.space_byteAt p with space | ⟨_, n, rfl⟩ | ⟨space, _⟩
    · simp [space] at upper
    · exact ⟨cpu.pointer n, rfl, .inl ⟨n, written, rfl⟩⟩
    · simp [space] at upper
  | bit written =>
    rename_i bit
    rcases MemoryByte.space_direct (bitByte bit) with space | space <;> simp [space] at upper
  | slot pushed => exact ⟨_, rfl, .inr ⟨_, pushed, rfl⟩⟩
  | external stores => simp at upper

/-- A register is in reach if the instruction implies it or names it by a direct or bit address. -/
theorem Reaches.eq_sfr {r : Sfr} (reached : cpu.Reaches i l) (register : l = .sfr r) :
    r ∈ .psw :: i.registers ∨ i.Names r := by
  have space : l.space = .sfr := by rw [register, MemoryByte.sfr]
  cases reached with
  | psw =>
    rw [← MemoryByte.sfr_inj register]
    exact .inl (.head _)
  | register written =>
    rw [← MemoryByte.sfr_inj register]
    exact .inl (.tail _ written)
  | destination written =>
    rename_i p
    rcases cpu.space_byteAt p with lower | ⟨upper, _⟩ | ⟨_, rfl | ⟨addr, rfl⟩⟩
    · simp [lower] at space
    · simp [upper] at space
    · rw [← MemoryByte.sfr_inj register]
      exact .inl (.tail _ (i.acc_mem_registers written))
    · have named := Instruction.operand_mem_operands written
      rw [Place.operand, ← MemoryByte.addr_of_direct_sfr register] at named
      exact .inr (.inl named)
  | bit written =>
    have named := Instruction.bit_mem_operands written
    exact .inr (.inr ⟨_, named, (MemoryByte.addr_of_direct_sfr register).symm⟩)
  | slot pushed =>
    rename_i n
    rcases MemoryByte.space_indirect (cpu.sfr .sp + n) with lower | upper
    · simp [lower] at space
    · simp [upper] at space
  | external stores => simp at space

/-! ### Separate memories -/

/-- Every access to a byte goes to the memory of its addressing mode: direct and bit addresses name bytes of
lower RAM or registers, indirect addresses and the stack bytes of lower or upper RAM. -/
structure AccessesApart (cpu : Cpu) : Prop where
  readPlace : ∀ p, cpu.readPlace p = cpu.load (cpu.byteAt p)
  writePlace : ∀ p value, cpu.writePlace p value = cpu.store (cpu.byteAt p) value
  indirect : ∀ n, cpu.byteAt (.indirect n) = .indirect (cpu.pointer n)
  direct : ∀ addr, cpu.byteAt (.direct addr) = .direct addr
  readBit : ∀ bit, cpu.readBit bit = (cpu.load (.direct (bitByte bit)) &&& bitMask bit != 0)
  writeBit : ∀ bit on, ∃ value, cpu.writeBit bit on = cpu.store (.direct (bitByte bit)) value
  push : ∀ value, cpu.push value =
    (cpu.setSfr .sp (cpu.sfr .sp + 1)).store (.indirect (cpu.sfr .sp + 1)) value
  pop : cpu.pop = (cpu.load (.indirect (cpu.sfr .sp)), cpu.setSfr .sp (cpu.sfr .sp - 1))
  notRegister : ∀ addr, (MemoryByte.indirect addr).space ≠ .sfr
  notUpper : ∀ addr, (MemoryByte.direct addr).space ≠ .upper

private theorem accessesApart (cpu : Cpu) : cpu.AccessesApart where
  readPlace p := by
    cases p with
    | acc => exact sfr_eq_load .acc
    | reg n => exact cpu.reg_eq_read n
    | indirect n => exact cpu.readIndirect_eq_load _
    | direct addr => exact cpu.readDirect_eq_load addr
  writePlace := cpu.writePlace_eq_store
  indirect _ := rfl
  direct _ := rfl
  readBit bit := by rw [Cpu.readBit, readDirect_eq_load]
  writeBit bit on := ⟨_, cpu.writeDirect_eq_store (bitByte bit) _⟩
  push value := writeIndirect_eq_store _ _ value
  pop := by rw [Cpu.pop, readIndirect_eq_load]
  notRegister addr := by rcases MemoryByte.space_indirect addr with space | space <;> simp [space]
  notUpper addr := by rcases MemoryByte.space_direct addr with space | space <;> simp [space]

/-- A step keeps code memory and the size of every memory. It changes an external byte only by storing to it,
a byte of upper RAM only through a pointer register or the stack, and a register only if the instruction
implies or names it. -/
theorem memories_stay_separate (cpu : Cpu) :
    let i := cpu.decode cpu.pc
    cpu.step.code = cpu.code ∧
      (∀ space, cpu.step.spaceSize space = cpu.spaceSize space) ∧
      (∀ addr, cpu.step.read .external addr ≠ cpu.read .external addr →
        ∃ dst, i = .storeExternal dst ∧ addr = cpu.externalAddr dst) ∧
      (∀ addr, cpu.step.read .upper addr ≠ cpu.read .upper addr →
        ∃ v : UInt8, 0x80 ≤ v ∧ addr = v.toNat - 0x80 ∧
          ((∃ n, .indirect n ∈ i.destinations ∧ v = cpu.pointer n) ∨
            (i.operation = .push ∧ v = cpu.sfr .sp + 1) ∨
            ((i.operation = .acall ∨ i.operation = .lcall) ∧
              (v = cpu.sfr .sp + 1 ∨ v = cpu.sfr .sp + 2)))) ∧
      (∀ r, cpu.step.sfr r ≠ cpu.sfr r →
        r ∈ .psw :: i.registers ∧ r ∈ [.acc, .b, .psw, .sp, .dpl, .dph] ∨ i.Names r) ∧
      cpu.AccessesApart := by
  intro i
  refine ⟨?_, ?_, ?_, ?_, ?_, ?_⟩
  · apply @memory_eq_of_load cpu cpu.step .rom (cpu.changesOnly_step.spaceSize .rom)
    intro addr
    apply cpu.changesOnly_step.load
    intro reached
    obtain ⟨_, _, external⟩ := reached.eq_external (.inr rfl)
    exact absurd (congrArg MemoryByte.space external) nofun
  · exact cpu.changesOnly_step.spaceSize
  · intro addr changed
    have reached : cpu.Reaches i ⟨.external, addr⟩ := reaches_of_step_ne changed
    obtain ⟨dst, stores, here⟩ := reached.eq_external (.inl rfl)
    exact ⟨dst, stores, congrArg MemoryByte.addr here⟩
  · intro addr changed
    have reached : cpu.Reaches i ⟨.upper, addr⟩ := reaches_of_step_ne changed
    obtain ⟨v, here, through⟩ := reached.eq_indirect rfl
    obtain ⟨high, place⟩ := MemoryByte.high_of_indirect_upper here.symm
    refine ⟨v, high, place, ?_⟩
    rcases through with pointed | ⟨n, pushed, rfl⟩
    · exact .inl pointed
    · rcases Instruction.operation_of_mem_slots pushed with ⟨push, rfl⟩ | ⟨call, rfl | rfl⟩
      · exact .inr (.inl ⟨push, rfl⟩)
      · exact .inr (.inr ⟨call, .inl rfl⟩)
      · exact .inr (.inr ⟨call, .inr rfl⟩)
  · intro r changed
    have reached : cpu.Reaches i (.sfr r) := by
      apply reaches_of_step_ne
      rwa [← sfr_eq_load, ← sfr_eq_load]
    rcases reached.eq_sfr rfl with implied | named
    · exact .inl ⟨implied, i.registers_subset implied⟩
    · exact .inr named
  · exact cpu.accessesApart

/-- `PUSH ACC` with the stack below 80h goes to the first byte of upper RAM. -/
theorem memories_stay_separate_push :
    let cpu := { ((Cpu.new 0 0 1).setSfr .sp 0x7F).setAcc 5 with code := #[0xC0, 0xE0] }
    cpu.step.read .upper 0 ≠ cpu.read .upper 0 ∧
      ∃ v : UInt8, 0x80 ≤ v ∧ 0 = v.toNat - 0x80 ∧
        ((∃ n, .indirect n ∈ (cpu.decode cpu.pc).destinations ∧ v = cpu.pointer n) ∨
          ((cpu.decode cpu.pc).operation = .push ∧ v = cpu.sfr .sp + 1) ∨
          (((cpu.decode cpu.pc).operation = .acall ∨ (cpu.decode cpu.pc).operation = .lcall) ∧
            (v = cpu.sfr .sp + 1 ∨ v = cpu.sfr .sp + 2))) :=
  ⟨by decide, (memories_stay_separate _).2.2.2.1 0 (by decide)⟩

end Cpu

end Mcs51
