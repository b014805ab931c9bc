import Mcs51.Proofs.Core.Fault

/-! # Memories, byte by byte

Registers are bytes of memories: every access to a register is an access to the byte of its memory
(`setSfr_eq_write`, `setReg_eq_write`). A write changes the byte that it goes to and nothing else
(`read_write`).
-/

namespace Mcs51.Cpu

variable (cpu : Cpu)

theorem memory_write (space : Space) (addr : Nat) (value : UInt8) (other : Space) :
    (cpu.write space addr value).memory other =
      if other = space then (cpu.memory space).setIfInBounds addr value else cpu.memory other := by
  by_cases same : other = space
  · subst same
    rw [if_pos rfl]
    cases other <;> simp [write, memory]
  · rw [if_neg same]
    cases space <;> cases other <;> first | rfl | contradiction

@[simp] theorem spaceSize_write (space : Space) (addr : Nat) (value : UInt8) (other : Space) :
    (cpu.write space addr value).spaceSize other = cpu.spaceSize other := by
  rw [spaceSize, memory_write]
  split
  · rename_i same
    rw [Array.size_setIfInBounds, same, spaceSize]
  · rfl

@[simp] theorem pc_write (space : Space) (addr : Nat) (value : UInt8) : (cpu.write space addr value).pc = cpu.pc := by
  cases space <;> rfl

/-- A write changes one byte, if it lies inside the memory. -/
theorem read_write (space : Space) (addr : Nat) (value : UInt8) (other : Space) (place : Nat) :
    (cpu.write space addr value).read other place =
      if (other = space ∧ place = addr) ∧ addr < cpu.spaceSize space then value else cpu.read other place := by
  rw [read, memory_write]
  by_cases same : other = space
  · subst same
    rw [if_pos rfl, Array.getElem?_setIfInBounds]
    by_cases here : addr = place
    · subst here
      rw [if_pos rfl, ← spaceSize]
      by_cases inside : addr < cpu.spaceSize other
      · rw [if_pos inside, if_pos ⟨⟨rfl, rfl⟩, inside⟩, Option.getD_some]
      · rw [if_neg inside, if_neg fun all => inside all.2, read, Array.getElem?_eq_none (Nat.le_of_not_lt inside)]
    · rw [if_neg here, if_neg fun all => here all.1.2.symm, read]
  · rw [if_neg same, if_neg fun all => same all.1.1, read]

/-- The later of two writes to one byte counts. -/
theorem write_write (space : Space) (addr : Nat) (first second : UInt8) :
    (cpu.write space addr first).write space addr second = cpu.write space addr second := by
  cases space <;> simp only [write, Vector.setIfInBounds_setIfInBounds, Array.setIfInBounds_setIfInBounds]

/-! ### Registers -/

theorem sfr_eq_read (r : Sfr) : cpu.sfr r = cpu.read .sfr r.index := by
  have inside : r.index.val < cpu.sfrs.toArray.size := by
    rw [cpu.sfrs.size_toArray]
    exact r.index.isLt
  rw [read, memory, Array.getElem?_eq_getElem inside]
  rfl

theorem reg_eq_read (n : Fin 8) : cpu.reg n = cpu.read .lower (cpu.regIndex n) := by
  have inside : (cpu.regIndex n).val < cpu.lower.toArray.size := by
    rw [cpu.lower.size_toArray]
    exact (cpu.regIndex n).isLt
  rw [read, memory, Array.getElem?_eq_getElem inside]
  rfl

theorem setSfr_eq_write (r : Sfr) (value : UInt8) : cpu.setSfr r value = cpu.write .sfr r.index value := by
  rw [setSfr, write, Checked.setIfInBounds_eq_set]

theorem setReg_eq_write (n : Fin 8) (value : UInt8) :
    cpu.setReg n value = cpu.write .lower (cpu.regIndex n) value := by
  rw [setReg, write, Checked.setIfInBounds_eq_set]

/-- Writing back what a register holds changes nothing. -/
theorem setSfr_sfr (r : Sfr) : cpu.setSfr r (cpu.sfr r) = cpu := by
  rw [setSfr, sfr]
  simp only [Fin.getElem_fin, Vector.set_getElem_self]

/-- Another high half of the data pointer is a write to DPH. -/
theorem setDptr_high (value : UInt8) :
    cpu.setDptr (value.toUInt16 <<< 8 ||| (cpu.sfr .dpl).toUInt16) = cpu.write .sfr Sfr.dph.index value := by
  have kept : (cpu.setSfr .dph value).sfr .dpl = cpu.sfr .dpl := by
    rw [sfr, sfr, setSfr]
    exact Vector.getElem_set_ne Sfr.dph.index.isLt Sfr.dpl.index.isLt (by decide)
  rw [setDptr, highByte_word, lowByte_word, ← kept, setSfr_sfr, setSfr_eq_write]

/-- Another low half of the data pointer is a write to DPL. -/
theorem setDptr_low (value : UInt8) :
    cpu.setDptr ((cpu.sfr .dph).toUInt16 <<< 8 ||| value.toUInt16) = cpu.write .sfr Sfr.dpl.index value := by
  rw [setDptr, highByte_word, lowByte_word, setSfr_sfr, setSfr_eq_write]

end Mcs51.Cpu
