import Mcs51.Proofs.Core.Footprint

/-! # Bits under a mask, flags, and single instructions

Flags and addressable bits are written the same way: a byte is read, the bits under a mask are set or cleared,
and the byte is written back (`masked`). What is under a mask afterwards is what was written, and what lies
beside it stays. A step executes one instruction and updates the parity flag (`step_eq_perform`), so flags other
than parity are what the instruction left.
-/

namespace Mcs51

/-- A byte with the bits under a mask set or cleared. -/
def masked (byte mask : UInt8) (on : Bool) : UInt8 :=
  if on then byte ||| mask else byte &&& ~~~mask

theorem masked_and_self (byte mask : UInt8) (on : Bool) : masked byte mask on &&& mask = if on then mask else 0 := by
  cases on with
  | true =>
    rw [masked, if_pos rfl, if_pos rfl, ← UInt8.toBitVec_inj]
    ext i
    simp only [UInt8.toBitVec_and, UInt8.toBitVec_or, BitVec.getElem_and, BitVec.getElem_or]
    cases byte.toBitVec[i] <;> cases mask.toBitVec[i] <;> rfl
  | false =>
    rw [masked, if_neg Bool.false_ne_true, if_neg Bool.false_ne_true, UInt8.and_assoc, UInt8.not_and_self,
      UInt8.and_zero]

/-- Bits beside the mask stay. -/
theorem masked_and_of_apart {mask other : UInt8} (apart : mask &&& other = 0) (byte : UInt8) (on : Bool) :
    masked byte mask on &&& other = byte &&& other := by
  rw [← UInt8.toBitVec_inj] at apart ⊢
  ext i inside
  have beside : (mask.toBitVec[i] && other.toBitVec[i]) = false := by
    rw [← BitVec.getElem_and, ← UInt8.toBitVec_and, apart]
    exact BitVec.getElem_zero inside
  cases on with
  | true =>
    simp only [masked, if_true, UInt8.toBitVec_and, UInt8.toBitVec_or, BitVec.getElem_and, BitVec.getElem_or]
    revert beside
    cases byte.toBitVec[i] <;> cases mask.toBitVec[i] <;> cases other.toBitVec[i] <;> decide
  | false =>
    simp only [masked, Bool.false_eq_true, if_false, UInt8.toBitVec_and, UInt8.toBitVec_not, BitVec.getElem_and,
      BitVec.getElem_not]
    revert beside
    cases byte.toBitVec[i] <;> cases mask.toBitVec[i] <;> cases other.toBitVec[i] <;> decide

/-- Clearing what is clear changes nothing. -/
theorem masked_of_clear {byte mask : UInt8} (clear : byte &&& mask = 0) : masked byte mask false = byte := by
  rw [masked, if_neg Bool.false_ne_true]
  rw [← UInt8.toBitVec_inj] at clear ⊢
  ext i inside
  have clear : (byte.toBitVec[i] && mask.toBitVec[i]) = false := by
    rw [← BitVec.getElem_and, ← UInt8.toBitVec_and, clear]
    exact BitVec.getElem_zero inside
  simp only [UInt8.toBitVec_and, UInt8.toBitVec_not, BitVec.getElem_and, BitVec.getElem_not]
  revert clear
  cases byte.toBitVec[i] <;> cases mask.toBitVec[i] <;> decide

namespace Cpu

variable (cpu : Cpu)

/-! ### Flags -/

theorem setFlag_eq_masked (mask : UInt8) (on : Bool) :
    cpu.setFlag mask on = cpu.setSfr .psw (masked (cpu.sfr .psw) mask on) :=
  rfl

@[simp] theorem flag_setFlag_self {mask : UInt8} (single : mask ≠ 0) (on : Bool) :
    (cpu.setFlag mask on).flag mask = on := by
  rw [flag, setFlag_eq_masked, sfr_setSfr_self, masked_and_self]
  cases on with
  | true => exact bne_iff_ne.mpr single
  | false => rfl

@[simp] theorem flag_setFlag_of_apart {mask other : UInt8} (apart : mask &&& other = 0) (on : Bool) :
    (cpu.setFlag mask on).flag other = cpu.flag other := by
  rw [flag, setFlag_eq_masked, sfr_setSfr_self, masked_and_of_apart apart, flag]

private theorem flag_setSfr_of_ne {r : Sfr} (apart : .psw ≠ r) (value mask : UInt8) :
    (cpu.setSfr r value).flag mask = cpu.flag mask := by
  rw [flag, sfr_setSfr_of_ne apart, flag]

@[simp] theorem flag_setAcc (value mask : UInt8) : (cpu.setAcc value).flag mask = cpu.flag mask :=
  cpu.flag_setSfr_of_ne (by decide) value mask

@[simp] theorem acc_setAcc (value : UInt8) : (cpu.setAcc value).acc = value :=
  sfr_setSfr_self .acc value

@[simp] theorem acc_setFlag (mask : UInt8) (on : Bool) : (cpu.setFlag mask on).acc = cpu.acc :=
  sfr_setSfr_of_ne (by decide) _

/-! ### One instruction -/

/-- What a step does with an instruction. -/
def perform (cpu : Cpu) (i : Instruction) : Cpu :=
  ((cpu.jump (cpu.pc + UInt16.ofNat i.length)).execute i).updateParity

theorem step_eq_perform : cpu.step = cpu.perform (cpu.decode cpu.pc) :=
  rfl

theorem exists_updateParity : ∃ odd, cpu.updateParity = cpu.setFlag Psw.p odd :=
  ⟨_, rfl⟩

@[simp] theorem acc_updateParity : cpu.updateParity.acc = cpu.acc :=
  cpu.acc_setFlag Psw.p _

@[simp] theorem flag_updateParity {mask : UInt8} (apart : Psw.p &&& mask = 0) :
    cpu.updateParity.flag mask = cpu.flag mask :=
  cpu.flag_setFlag_of_apart apart _

/-- Of the program status word only parity is updated. -/
theorem psw_updateParity : cpu.updateParity.sfr .psw &&& ~~~Psw.p = cpu.sfr .psw &&& ~~~Psw.p := by
  obtain ⟨odd, parity⟩ := cpu.exists_updateParity
  rw [parity, setFlag_eq_masked, sfr_setSfr_self, masked_and_of_apart (by decide)]

theorem ChangesOnly.updateParity {bytes : MemoryByte → Prop} {before after : Cpu}
    (changes : ChangesOnly bytes before after) (psw : bytes (.sfr .psw)) :
    ChangesOnly bytes before after.updateParity :=
  changes.setFlag psw _ _

end Cpu

end Mcs51
