import Mcs51.Proofs.Console.Position
import Mcs51.Proofs.Core.Memory

/-! # The bytes that can be edited

Whatever is pointed at, a digit ends up in one byte of the simulator's memories or of the address input: its
slot. Reading and writing what is pointed at is reading and writing that byte (`readTarget_eq`,
`store_writeTarget`), also for a half of the data pointer, which is written by way of its panel. Neighbouring
targets have different slots, so bytes that are written one after the other all stay
(`get_writeBytes_inside`).
-/

namespace Mcs51

/-- A byte of a memory, registers included, or of the address input. -/
inductive Slot
  | memory (space : Space) (addr : Nat)
  | input (half : Nat)
deriving DecidableEq, Repr

/-- What digits are written to: the machine and the address input. -/
structure Store where
  machine : Machine
  input : Vector UInt8 2

namespace Store

/-- The byte in a slot; 0 where there is none. -/
def get (s : Store) : Slot → UInt8
  | .memory space addr => s.machine.readByte space addr
  | .input half => (s.input[half]?).getD 0

/-- Write the byte in a slot; nothing happens where there is none. -/
def set (s : Store) (slot : Slot) (value : UInt8) : Store :=
  match slot with
  | .memory space addr => { s with machine := s.machine.writeByte space addr value }
  | .input half => { s with input := s.input.setIfInBounds half value }

/-- Whether there is a byte in a slot. -/
def Has (s : Store) : Slot → Prop
  | .memory space addr => addr < s.machine.cpu.spaceSize space
  | .input half => half < 2

variable (s : Store)

theorem get_set_self {slot : Slot} (present : s.Has slot) (value : UInt8) : (s.set slot value).get slot = value := by
  cases slot with
  | memory space addr => exact (s.machine.cpu.read_write ..).trans (if_pos ⟨⟨rfl, rfl⟩, present⟩)
  | input half =>
    have bound : half < 2 := present
    rw [set, get, Vector.getElem?_setIfInBounds, if_pos rfl, if_pos bound, Option.getD_some]

theorem get_set_of_ne {slot other : Slot} (different : other ≠ slot) (value : UInt8) :
    (s.set slot value).get other = s.get other := by
  cases slot with
  | memory space addr =>
    cases other with
    | memory space' addr' =>
      apply (s.machine.cpu.read_write ..).trans (if_neg _)
      rintro ⟨⟨rfl, rfl⟩, _⟩
      exact different rfl
    | input half => rfl
  | input half =>
    cases other with
    | memory space addr => rfl
    | input half' =>
      have apart : half ≠ half' := fun same => different (by rw [same])
      rw [set, get, Vector.getElem?_setIfInBounds, if_neg apart, get]

/-- The later of two writes to one byte counts. -/
theorem set_set (slot : Slot) (first second : UInt8) : (s.set slot first).set slot second = s.set slot second := by
  cases slot with
  | memory space addr => simp only [set, Machine.writeByte, Cpu.write_write]
  | input half => simp only [set, Vector.setIfInBounds_setIfInBounds]

/-- A write leaves run control, program counter and sizes alone. -/
theorem machine_set (slot : Slot) (value : UInt8) :
    (s.set slot value).machine = { s.machine with cpu := (s.set slot value).machine.cpu } ∧
      (s.set slot value).machine.cpu.pc = s.machine.cpu.pc ∧
      ∀ space, (s.set slot value).machine.cpu.spaceSize space = s.machine.cpu.spaceSize space := by
  cases slot with
  | memory space addr => exact ⟨rfl, s.machine.cpu.pc_write .., s.machine.cpu.spaceSize_write space addr value⟩
  | input half => exact ⟨rfl, rfl, fun _ => rfl⟩

end Store

/-! ### Slots -/

namespace EditTarget

/-- The byte that is edited. -/
def slot (cpu : Cpu) : EditTarget → Slot
  | .memory space addr => .memory space addr
  | .register index =>
    if index = 0 then .memory .sfr Sfr.acc.index
    else if bank : index - 1 < 8 then .memory .lower (cpu.regIndex ⟨index - 1, bank⟩)
    else .memory .sfr Sfr.b.index
  | .dataPointer half => .memory .sfr (if half = 0 then Sfr.dph.index else Sfr.dpl.index)
  | .addressInput half => .input half

/-- The byte so many places further on. -/
def shift (target : EditTarget) (n : Nat) : EditTarget :=
  match target with
  | .memory space addr => .memory space (addr + n)
  | .register index => .register (index + n)
  | .dataPointer half => .dataPointer (half + n)
  | .addressInput half => .addressInput (half + n)

/-- Whether there is a byte to edit: inside the memory, among A, R0 to R7 and B, or one of two halves. -/
def Present (cpu : Cpu) : EditTarget → Prop
  | .memory space addr => addr < cpu.spaceSize space
  | .register index => index < 10
  | .dataPointer half => half < 2
  | .addressInput half => half < 2

variable {target : EditTarget}

/-- Memories of the same sizes have the same targets. -/
theorem Present.of_sizes {cpu cpu' : Cpu} (present : target.Present cpu)
    (sizes : ∀ space, cpu'.spaceSize space = cpu.spaceSize space) : target.Present cpu' := by
  cases target with
  | memory space addr =>
    rw [Present, sizes]
    exact present
  | _ => exact present

theorem shift_zero (target : EditTarget) : target.shift 0 = target := by
  cases target <;> rfl

theorem shift_shift (target : EditTarget) (m n : Nat) : (target.shift m).shift n = target.shift (m + n) := by
  cases target <;> simp only [shift, Nat.add_assoc]

/-- A register other than A and B is a byte of the lower RAM. -/
theorem slot_bank (cpu : Cpu) {index : Nat} (low : 0 < index) (high : index < 9) :
    (register index).slot cpu = .memory .lower ((cpu.sfr .psw).toNat / 8 % 4 * 8 + (index - 1)) := by
  have bank : index - 1 < 8 := by omega
  rw [slot, if_neg (Nat.ne_of_gt low), dif_pos bank]
  rfl

/-- The registers are A, those of the bank, and B. -/
theorem register_cases {index : Nat} (present : index < 10) :
    index = 0 ∨ (0 < index ∧ index < 9) ∨ index = 9 := by
  omega

/-- Different registers have different slots. -/
theorem slot_register_ne (cpu : Cpu) {i j : Nat} (before : i < j) (present : j < 10) :
    (register i).slot cpu ≠ (register j).slot cpu := by
  have acc : (register 0).slot cpu = .memory .sfr 0x60 := rfl
  have b : (register 9).slot cpu = .memory .sfr 0x70 := rfl
  intro same
  rcases register_cases (Nat.lt_trans before present) with rfl | ⟨low, high⟩ | rfl
  · rcases register_cases present with rfl | ⟨low', high'⟩ | rfl
    · exact absurd before (Nat.lt_irrefl 0)
    · rw [acc, slot_bank cpu low' high'] at same
      cases same
    · rw [acc, b] at same
      cases same
  · rcases register_cases present with rfl | ⟨low', high'⟩ | rfl
    · exact absurd before (Nat.not_lt_zero i)
    · rw [slot_bank cpu low high, slot_bank cpu low' high'] at same
      simp only [Slot.memory.injEq, true_and] at same
      omega
    · rw [b, slot_bank cpu low high] at same
      cases same
  · omega

theorem has_slot {s : Store} (present : target.Present s.machine.cpu) : s.Has (target.slot s.machine.cpu) := by
  have sfr (i : Fin 128) : s.Has (.memory .sfr i) := Checked.sfr_bound _ i
  cases target with
  | memory space addr => exact present
  | register index =>
    rcases register_cases present with rfl | ⟨low, high⟩ | rfl
    · exact sfr Sfr.acc.index
    · rw [slot_bank _ low high]
      have lower (i : Fin 128) : s.Has (.memory .lower i) := Checked.lower_bound _ i
      exact lower ⟨(s.machine.cpu.sfr .psw).toNat / 8 % 4 * 8 + (index - 1), by omega⟩
    · exact sfr Sfr.b.index
  | dataPointer half =>
    rw [slot]
    split
    · exact sfr Sfr.dph.index
    · exact sfr Sfr.dpl.index
  | addressInput half => exact present

/-- Different targets of one kind have different slots. -/
theorem slot_shift_ne (cpu : Cpu) {m n : Nat} (before : m < n) (present : (target.shift n).Present cpu) :
    (target.shift m).slot cpu ≠ (target.shift n).slot cpu := by
  cases target with
  | memory space addr =>
    intro same
    simp only [shift, slot, Slot.memory.injEq, true_and] at same
    omega
  | register index => exact slot_register_ne cpu (Nat.add_lt_add_left before index) present
  | dataPointer half =>
    have first : half + m = 0 := by
      have bound : half + n < 2 := present
      omega
    have second : half + n ≠ 0 := by omega
    simp only [shift, slot, if_pos first, if_neg second]
    intro same
    cases same
  | addressInput half =>
    intro same
    simp only [shift, slot, Slot.input.injEq] at same
    omega

/-- Where a register lies depends on the register bank alone. -/
theorem slot_congr {cpu cpu' : Cpu} (same : cpu'.sfr .psw = cpu.sfr .psw) (target : EditTarget) :
    target.slot cpu' = target.slot cpu := by
  cases target with
  | register index => simp only [slot, Cpu.regIndex, same]
  | _ => rfl

/-- No register that can be edited holds the number of the register bank. -/
theorem slot_register_ne_psw (cpu : Cpu) {index : Nat} (present : index < 10) :
    .memory .sfr Sfr.psw.index ≠ (register index).slot cpu := by
  intro same
  rcases register_cases present with rfl | ⟨low, high⟩ | rfl
  · cases same
  · rw [slot_bank cpu low high] at same
    cases same
  · cases same

/-- Writing one target moves no other target of its kind. -/
theorem slot_shift_set (s : Store) (present : target.Present s.machine.cpu) (value : UInt8) (n : Nat) :
    (target.shift n).slot (s.set (target.slot s.machine.cpu) value).machine.cpu =
      (target.shift n).slot s.machine.cpu := by
  cases target with
  | register index =>
    apply slot_congr
    rw [Cpu.sfr_eq_read, Cpu.sfr_eq_read]
    exact s.get_set_of_ne (slot_register_ne_psw s.machine.cpu present) value
  | _ => rfl

end EditTarget

/-! ### Bytes one after the other -/

namespace Store

variable {s : Store} {target : EditTarget} {bytes : List UInt8}

/-- Write bytes to a target and those after it. -/
def writeBytes (s : Store) (target : EditTarget) : List UInt8 → Store
  | [] => s
  | byte :: rest => (s.set (target.slot s.machine.cpu) byte).writeBytes (target.shift 1) rest

/-- Whether there is a byte to edit for each of so many places. -/
def Room (s : Store) (target : EditTarget) (count : Nat) : Prop :=
  ∀ i < count, (target.shift i).Present s.machine.cpu

theorem present_set (slot : Slot) (value : UInt8) (present : target.Present s.machine.cpu) :
    target.Present (s.set slot value).machine.cpu :=
  present.of_sizes (s.machine_set slot value).2.2

theorem Room.tail {count : Nat} (room : s.Room target (count + 1)) (slot : Slot) (value : UInt8) :
    (s.set slot value).Room (target.shift 1) count := by
  intro i bound
  rw [EditTarget.shift_shift]
  exact present_set slot value (room (1 + i) (by omega))

theorem Room.head {count : Nat} (room : s.Room target (count + 1)) : target.Present s.machine.cpu := by
  have first := room 0 (Nat.succ_pos count)
  rwa [target.shift_zero] at first

/-- Bytes in other slots stay. -/
theorem get_writeBytes_of_outside (room : s.Room target bytes.length) {slot : Slot}
    (outside : ∀ i < bytes.length, slot ≠ (target.shift i).slot s.machine.cpu) :
    (s.writeBytes target bytes).get slot = s.get slot := by
  induction bytes generalizing s target with
  | nil => rfl
  | cons byte rest ih =>
    have first := outside 0 (Nat.succ_pos _)
    rw [target.shift_zero] at first
    rw [writeBytes, ih (room.tail _ _), s.get_set_of_ne first]
    intro i bound
    rw [target.shift_shift, EditTarget.slot_shift_set s room.head]
    exact outside (1 + i) (by simp only [List.length_cons]; omega)

/-- Every byte that is written stands where it was meant to go. -/
theorem get_writeBytes_inside (room : s.Room target bytes.length) {i : Nat} {byte : UInt8}
    (inside : bytes[i]? = some byte) :
    (s.writeBytes target bytes).get ((target.shift i).slot s.machine.cpu) = byte := by
  induction bytes generalizing s target i with
  | nil => contradiction
  | cons first rest ih =>
    have tail := room.tail (target.slot s.machine.cpu) first
    cases i with
    | zero =>
      obtain rfl := Option.some.inj inside
      have later : ∀ i < rest.length, target.slot s.machine.cpu ≠
          ((target.shift 1).shift i).slot (s.set (target.slot s.machine.cpu) first).machine.cpu := by
        intro i bound
        have apart := target.slot_shift_ne s.machine.cpu (Nat.lt_add_right i Nat.one_pos)
          (room (1 + i) (by simp only [List.length_cons]; omega))
        rw [target.shift_zero] at apart
        rwa [target.shift_shift, EditTarget.slot_shift_set s room.head]
      rw [target.shift_zero, writeBytes, get_writeBytes_of_outside tail later]
      exact s.get_set_self (EditTarget.has_slot room.head) first
    | succ i =>
      have moved := EditTarget.slot_shift_set s room.head first (1 + i)
      rw [Nat.add_comm i 1, ← moved, ← target.shift_shift]
      exact ih tail inside

/-- Run control, program counter and sizes stay. -/
theorem machine_writeBytes (s : Store) (target : EditTarget) (bytes : List UInt8) :
    (s.writeBytes target bytes).machine = { s.machine with cpu := (s.writeBytes target bytes).machine.cpu } ∧
      (s.writeBytes target bytes).machine.cpu.pc = s.machine.cpu.pc ∧
      ∀ space, (s.writeBytes target bytes).machine.cpu.spaceSize space = s.machine.cpu.spaceSize space := by
  induction bytes generalizing s target with
  | nil => exact ⟨rfl, rfl, fun _ => rfl⟩
  | cons byte rest ih =>
    obtain ⟨control, pc, sizes⟩ := s.machine_set (target.slot s.machine.cpu) byte
    obtain ⟨control', pc', sizes'⟩ := ih (s.set (target.slot s.machine.cpu) byte) (target.shift 1)
    rw [writeBytes]
    refine ⟨?_, pc'.trans pc, fun space => (sizes' space).trans (sizes space)⟩
    rw [control] at control'
    exact control'

/-- The targets stay where they are. -/
theorem slot_writeBytes (room : s.Room target bytes.length) (n : Nat) :
    (target.shift n).slot (s.writeBytes target bytes).machine.cpu = (target.shift n).slot s.machine.cpu := by
  cases target with
  | register index =>
    apply EditTarget.slot_congr
    rw [Cpu.sfr_eq_read, Cpu.sfr_eq_read]
    have outside (i : Nat) (bound : i < bytes.length) :
        .memory .sfr Sfr.psw.index ≠ ((EditTarget.register index).shift i).slot s.machine.cpu :=
      EditTarget.slot_register_ne_psw s.machine.cpu (room i bound)
    exact get_writeBytes_of_outside room outside
  | _ => rfl

end Store

/-! ### Reading and writing what is pointed at -/

namespace Console

variable {c : Console}

/-- What the digits that are typed into a console are written to. -/
def store (c : Console) : Store :=
  ⟨c.machine, c.addressBytes⟩

/-- What is pointed at reads as the byte in its slot. -/
theorem readTarget_eq {target : EditTarget} (present : target.Present c.machine.cpu) :
    c.readTarget target = c.store.get (target.slot c.machine.cpu) := by
  cases target with
  | memory space addr => rfl
  | register index =>
    have bound : index < 10 := present
    rw [readTarget, Machine.readRegister, EditTarget.slot]
    by_cases acc : index = 0
    · rw [if_pos acc, if_pos acc, UInt8.toUInt8_toUInt16]
      exact Cpu.sfr_eq_read _ _
    · rw [if_neg acc, if_neg acc]
      by_cases bank : index - 1 < 8
      · rw [dif_pos bank, dif_pos bank, UInt8.toUInt8_toUInt16]
        exact Cpu.reg_eq_read _ _
      · rw [dif_neg bank, dif_neg bank, if_pos (by omega), UInt8.toUInt8_toUInt16]
        exact Cpu.sfr_eq_read _ _
  | dataPointer half =>
    have bound : half < 2 := present
    have high : (c.machine.cpu.dptr >>> 8).toUInt8 = c.machine.cpu.sfr .dph := highByte_word _ _
    have low : c.machine.cpu.dptr.toUInt8 = c.machine.cpu.sfr .dpl := lowByte_word _ _
    rw [readTarget, wordBytes, high, low, EditTarget.slot]
    rcases Nat.le_one_iff_eq_zero_or_eq_one.mp (Nat.le_of_lt_succ bound) with rfl | rfl
    · exact Cpu.sfr_eq_read _ _
    · exact Cpu.sfr_eq_read _ _
  | addressInput half => rfl

/-- Whether the panel of the data pointer shows the data pointer. -/
def Synced (c : Console) : Prop :=
  c.panels.dataPointer.live.surface.get 0 0 = c.machine.cpu.sfr .dph ∧
    c.panels.dataPointer.live.surface.get 0 1 = c.machine.cpu.sfr .dpl

theorem synced_refresh (editable : c.panels.Editable) : c.refresh.Synced := by
  have shape := editable.shape_grid .dataPointer
  have rows : (c.panels.grid .dataPointer).surface.rows = 1 := congrArg Surface.Shape.rows shape
  have cols : (c.panels.grid .dataPointer).surface.cols = 2 := congrArg Surface.Shape.cols shape
  have get (half : Nat) (bound : half < 2) : (c.refresh.panels.grid .dataPointer).surface.get 0 half =
      ((wordBytes c.machine.cpu.dptr)[half]?).getD ((c.panels.grid .dataPointer).surface.get 0 half) := by
    rw [surface_refresh, Surface.get_setRowsFrom, rows, cols, if_pos ⟨Nat.le_refl 0, Nat.one_pos, bound⟩]
    rfl
  exact ⟨(get 0 (by decide)).trans (highByte_word _ _), (get 1 (by decide)).trans (lowByte_word _ _)⟩

/-- A half of the data pointer is written by way of its panel, which gives the other half back. -/
theorem store_writeTarget (editable : c.panels.Editable) (synced : c.Synced) {target : EditTarget}
    (present : target.Present c.machine.cpu) (value : UInt8) :
    (c.writeTarget target value).store = c.store.set (target.slot c.machine.cpu) value := by
  cases target with
  | memory space addr => rfl
  | register index =>
    have bound : index < 10 := present
    rw [writeTarget, Machine.writeRegister, EditTarget.slot, UInt8.toUInt8_toUInt16]
    by_cases acc : index = 0
    · rw [if_pos acc, if_pos acc, Cpu.setAcc, Cpu.setSfr_eq_write]
      rfl
    · rw [if_neg acc, if_neg acc]
      by_cases bank : index - 1 < 8
      · rw [dif_pos bank, dif_pos bank, Cpu.setReg_eq_write]
        rfl
      · rw [dif_neg bank, dif_neg bank, if_pos (by omega), Cpu.setSfr_eq_write]
        rfl
  | dataPointer half =>
    have bound : half < 2 := present
    have shape := editable.shape_grid .dataPointer
    have rows : c.panels.dataPointer.live.surface.rows = 1 := congrArg Surface.Shape.rows shape
    have cols : c.panels.dataPointer.live.surface.cols = 2 := congrArg Surface.Shape.cols shape
    have row (col : Nat) (inside : col < 2) : (c.panels.dataPointer.live.set 0 half value).surface.get 0 col =
        if col = half then value else c.panels.dataPointer.live.surface.get 0 col := by
      rw [DataGrid.set, DataGrid.surface_mapSurface, Surface.get_set, rows, cols]
      by_cases here : col = half
      · rw [if_pos ⟨⟨rfl, here⟩, Nat.one_pos, inside⟩, if_pos here]
      · rw [if_neg fun all => here all.1.2, if_neg here]
    have written (pointer : UInt16) : c.machine.writeRegister 10 pointer =
        { c.machine with cpu := c.machine.cpu.setDptr pointer } := rfl
    obtain ⟨high, low⟩ := synced
    rw [writeTarget, store, written, row 0 (by decide), row 1 (by decide), high, low, EditTarget.slot]
    rcases Nat.le_one_iff_eq_zero_or_eq_one.mp (Nat.le_of_lt_succ bound) with rfl | rfl
    · rw [if_pos rfl, if_pos rfl, if_neg (by decide), Cpu.setDptr_high]
      rfl
    · rw [if_neg (by decide), if_pos rfl, if_neg (by decide), Cpu.setDptr_low]
      rfl
  | addressInput half => rfl

end Console
end Mcs51
