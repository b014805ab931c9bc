import Mcs51.Proofs.Core.Status
import Mcs51.Proofs.Isa.Bytes

/-! # Addressable bits

Every bit address names a bit of its own: from the byte and the mask the address can be told
(`bitMask_apart`). So a write of one bit shows in no other (`readBit_writeBit_of_ne`), also when both lie in the program
status word, where carry and parity are themselves addressable. Main statement: an instruction on one bit changes
this bit and parity (`bit_write_touches_one`).
-/

namespace Mcs51

/-- The instructions that write one addressable bit. -/
inductive BitWrite
  | setb
  | clr
  | cpl
  /-- `MOV bit, C` -/
  | fromCarry
  /-- `JBC bit, target` -/
  | jumpClearing (target : UInt16)
deriving DecidableEq, Repr

namespace BitWrite

def instruction (bit : UInt8) : BitWrite → Instruction
  | setb => .bitOp .setb (.bit bit)
  | clr => .bitOp .clr (.bit bit)
  | cpl => .bitOp .cpl (.bit bit)
  | fromCarry => .bitFromCarry bit
  | jumpClearing target => .bitBranch .setClearing bit target

/-- What the bit holds afterwards. -/
def value (old carry : Bool) : BitWrite → Bool
  | setb => true
  | clr => false
  | cpl => !old
  | fromCarry => carry
  | jumpClearing _ => false

/-- Where execution continues. -/
def next (pc : UInt16) (old : Bool) : BitWrite → UInt16
  | jumpClearing target => if old then target else pc + 3
  | _ => pc + 2

end BitWrite

namespace Cpu

variable (cpu : Cpu)

/-! ### Bit addresses -/

/-- The byte of a bit address tells its upper five bits. -/
theorem and_eq_of_bitByte (bit : UInt8) :
    bit &&& 0xF8 = if bitByte bit < 0x80 then (bitByte bit - 0x20) * 8 else bitByte bit := by
  revert bit
  exact forall_byte (by decide +kernel)

private theorem bitMask_ne_zero (bit : UInt8) : bitMask bit ≠ 0 := by
  revert bit
  exact forall_byte (by decide +kernel)

/-- Masks of different positions are apart. -/
theorem mask_apart : ∀ i < 8, ∀ j < 8, i ≠ j → (1 : UInt8) <<< UInt8.ofNat i &&& 1 <<< UInt8.ofNat j = 0 := by
  decide

/-- Two bits of one byte have masks apart from each other. -/
theorem bitMask_apart {bit other : UInt8} (same : bitByte other = bitByte bit) (distinct : other ≠ bit) :
    bitMask bit &&& bitMask other = 0 := by
  have row : bit &&& 0xF8 = other &&& 0xF8 := by rw [and_eq_of_bitByte, and_eq_of_bitByte, same]
  have parts : ∀ addr : UInt8, addr &&& 0xF8 ||| addr &&& 0x07 = addr := forall_byte (by decide +kernel)
  have low : ∀ addr : UInt8, (addr &&& 0x07).toNat < 8 := forall_byte (by decide +kernel)
  have positions : (bit &&& 0x07).toNat ≠ (other &&& 0x07).toNat := by
    intro column
    rw [← parts bit, ← parts other, row, UInt8.toNat_inj.mp column] at distinct
    exact distinct rfl
  have apart := mask_apart _ (low bit) _ (low other) positions
  rwa [UInt8.ofNat_toNat, UInt8.ofNat_toNat] at apart

/-! ### Reading and writing bits -/

private theorem direct_inside (addr : UInt8) :
    (MemoryByte.direct addr).addr < cpu.spaceSize (MemoryByte.direct addr).space := by
  have bound := addr.toNat_lt
  rw [MemoryByte.direct]
  split
  · rename_i low
    exact Checked.lower_bound cpu (lowerIndex addr low)
  · exact Checked.sfr_bound cpu ⟨addr.toNat - 0x80, by omega⟩

theorem readDirect_writeDirect_self (addr value : UInt8) : (cpu.writeDirect addr value).readDirect addr = value := by
  rw [writeDirect_eq_store, readDirect_eq_load, load_store_self (cpu.direct_inside addr)]

private theorem writeDirect_readDirect (addr : UInt8) : cpu.writeDirect addr (cpu.readDirect addr) = cpu := by
  rw [writeDirect, readDirect]
  split
  · exact congrArg (fun lower => { cpu with lower := lower }) (Vector.set_getElem_self _)
  · exact cpu.setSfr_sfr _

private theorem readDirect_writeDirect_of_ne {addr other : UInt8} (apart : other ≠ addr) (value : UInt8) :
    (cpu.writeDirect addr value).readDirect other = cpu.readDirect other := by
  rw [writeDirect_eq_store, readDirect_eq_load, load_store_of_ne, readDirect_eq_load]
  exact fun same => apart (MemoryByte.direct_inj same)

theorem writeBit_eq_masked (bit : UInt8) (on : Bool) :
    cpu.writeBit bit on =
      cpu.writeDirect (bitByte bit) (masked (cpu.readDirect (bitByte bit)) (bitMask bit) on) :=
  rfl

private theorem readBit_writeBit_self (bit : UInt8) (on : Bool) : (cpu.writeBit bit on).readBit bit = on := by
  rw [readBit, writeBit_eq_masked, readDirect_writeDirect_self, masked_and_self]
  cases on with
  | true => exact bne_iff_ne.mpr (bitMask_ne_zero bit)
  | false => rfl

theorem readBit_writeBit_of_ne {bit other : UInt8} (distinct : other ≠ bit) (on : Bool) :
    (cpu.writeBit bit on).readBit other = cpu.readBit other := by
  rw [readBit, readBit, writeBit_eq_masked]
  by_cases same : bitByte other = bitByte bit
  · rw [same, readDirect_writeDirect_self, masked_and_of_apart (bitMask_apart same distinct)]
  · rw [readDirect_writeDirect_of_ne _ same]

/-- Clearing a bit that is clear changes nothing. -/
theorem writeBit_of_clear {bit : UInt8} (clear : cpu.readBit bit = false) : cpu.writeBit bit false = cpu := by
  have masks : cpu.readDirect (bitByte bit) &&& bitMask bit = 0 := bne_eq_false_iff_eq.mp clear
  rw [writeBit_eq_masked, masked_of_clear masks, writeDirect_readDirect]

/-! ### Flags as bits -/

private theorem setFlag_p_eq_writeBit (on : Bool) : cpu.setFlag Psw.p on = cpu.writeBit 0xD0 on :=
  rfl

/-- The carry flag is bit D7h, although the two are written on separate paths. -/
theorem execute_carryBit (op : BitOp) : cpu.execute (.bitOp op (.bit 0xD7)) = cpu.execute (.bitOp op .carry) :=
  rfl

theorem readBit_updateParity {bit : UInt8} (apart : bit ≠ 0xD0) : cpu.updateParity.readBit bit = cpu.readBit bit := by
  obtain ⟨odd, parity⟩ := cpu.exists_updateParity
  rw [parity, setFlag_p_eq_writeBit, readBit_writeBit_of_ne _ apart]

/-! ### Instructions -/

theorem writeBit_jump (bit : UInt8) (on : Bool) (target : UInt16) :
    (cpu.jump target).writeBit bit on = (cpu.writeBit bit on).jump target := by
  rw [writeBit_eq_masked, writeBit_eq_masked, writeDirect, writeDirect]
  split <;> rfl

/-- A bit instruction is one write of its bit; clearing a bit that is clear counts as a write of it. -/
theorem perform_bitWrite (write : BitWrite) (bit : UInt8) :
    cpu.perform (write.instruction bit) =
      ((cpu.writeBit bit (write.value (cpu.readBit bit) cpu.carry)).jump
        (write.next cpu.pc (cpu.readBit bit))).updateParity := by
  cases write with
  | setb | clr | cpl | fromCarry => exact congrArg updateParity (cpu.writeBit_jump bit _ _)
  | jumpClearing target =>
    let behind := cpu.jump (cpu.pc + 3)
    cases old : cpu.readBit bit with
    | false =>
      have executed : behind.execute (.bitBranch .setClearing bit target) = behind := by
        refine if_neg (Bool.eq_false_iff.mp ?_)
        exact old
      rw [BitWrite.value, cpu.writeBit_of_clear old]
      exact congrArg updateParity executed
    | true =>
      have executed : behind.execute (.bitBranch .setClearing bit target) = (behind.writeBit bit false).jump target :=
        if_pos old
      rw [writeBit_jump] at executed
      exact congrArg updateParity executed

/-! ### One bit at a time -/

/-- `SETB`, `CLR`, `CPL`, `MOV bit, C` and `JBC` leave their bit with the value that they name and every other bit
but parity as it was, and they change no byte but the one that holds the bit and the program status word. On the
carry flag the instructions do what they do on bit D7h. -/
theorem bit_write_touches_one (cpu : Cpu) :
    (∀ (write : BitWrite) (bit : UInt8), cpu.decode cpu.pc = write.instruction bit → bit ≠ 0xD0 →
      cpu.step.readBit bit = write.value (cpu.readBit bit) cpu.carry ∧
      (∀ other, other ≠ bit → other ≠ 0xD0 → cpu.step.readBit other = cpu.readBit other) ∧
      ChangesOnly (fun l => l = .direct (bitByte bit) ∨ l = .sfr .psw) cpu cpu.step ∧
      cpu.step.pc = write.next cpu.pc (cpu.readBit bit)) ∧
    ∀ (op : BitOp) (pc : UInt16) (code : Array UInt8), cpu.decode cpu.pc = .bitOp op .carry →
      let other := { cpu with pc := pc, code := code }
      other.decode pc = .bitOp op (.bit 0xD7) →
        cpu.step.pc = cpu.pc + 1 ∧ other.step = { cpu.step with pc := pc + 2, code := code } := by
  constructor
  · intro write bit decoded apart
    have stepped := cpu.perform_bitWrite write bit
    rw [← decoded, ← step_eq_perform] at stepped
    rw [stepped]
    refine ⟨?_, ?_, ?_, rfl⟩
    · rw [readBit_updateParity _ apart]
      exact cpu.readBit_writeBit_self bit _
    · intro other distinct notParity
      rw [readBit_updateParity _ notParity]
      exact cpu.readBit_writeBit_of_ne distinct _
    · apply ChangesOnly.updateParity _ (.inr rfl)
      exact ((ChangesOnly.refl cpu).writeBit (.inl rfl) _).jump _
  · intro op pc code onCarry other onBit
    rw [step_eq_perform, step_eq_perform, onCarry, show other.decode other.pc = _ from onBit]
    refine ⟨rfl, ?_⟩
    -- Both write the carry flag, so only the lengths of the instructions tell the states apart.
    rw [perform, execute_carryBit, perform]
    rfl

/-- `JBC CY` jumps and clears the carry flag; `SETB C` and `SETB CY` set it. -/
theorem bit_write_touches_one_carry :
    let cpu := { (Cpu.new 0 0 0).setSfr .psw 0x81 with code := #[0x10, 0xD7, 0x05] }
    let carry := { cpu with code := #[0xD3] }
    let bit := { cpu with code := #[0xD2, 0xD7] }
    cpu.decode cpu.pc = (BitWrite.jumpClearing 8).instruction 0xD7 ∧ cpu.step.readBit 0xD7 = false ∧
      cpu.step.pc = 8 ∧ carry.decode 0 = .bitOp .setb .carry ∧ bit.decode 0 = .bitOp .setb (.bit 0xD7) ∧
      bit.step = { carry.step with pc := 2, code := #[0xD2, 0xD7] } := by
  intro cpu carry bit
  have jump : cpu.decode cpu.pc = (BitWrite.jumpClearing 8).instruction 0xD7 := by decide
  have onCarry : carry.decode 0 = .bitOp .setb .carry := by decide
  have onBit : bit.decode 0 = .bitOp .setb (.bit 0xD7) := by decide
  obtain ⟨cleared, -, -, jumped⟩ := cpu.bit_write_touches_one.1 _ 0xD7 jump (by decide)
  have set : cpu.readBit 0xD7 = true := by decide
  rw [set] at jumped
  exact ⟨jump, cleared, jumped, onCarry, onBit, (carry.bit_write_touches_one.2 .setb 0 _ onCarry onBit).2⟩

end Cpu

end Mcs51
