import Mcs51.Proofs.Core.Status

/-! # The stack

The stack grows upwards through the 256 indirect addresses and wraps at their end, from upper RAM into the register
banks. What it holds is told from its top downwards (`Cpu.Stacked`): a push puts a byte on top and, as long as there
are at most 256, leaves the bytes below alone, and a pop takes the top byte off. The stack pointer is a register and
lies in none of these cells. Main statement: the stack is last-in first-out, and a call that is answered by a return
leaves nothing behind but its two cells (`stack_lifo`).
-/

namespace Mcs51.Cpu

variable {cpu : Cpu}

/-- Push bytes, the first one first. -/
def pushAll (cpu : Cpu) (bytes : List UInt8) : Cpu :=
  bytes.foldl push cpu

/-- Pop a number of bytes, in the order in which they come. -/
def popAll (cpu : Cpu) : Nat → List UInt8 × Cpu
  | 0 => ([], cpu)
  | n + 1 =>
    let (top, cpu) := cpu.pop
    let (others, cpu) := cpu.popAll n
    (top :: others, cpu)

/-- The topmost bytes of the stack, from the top downwards. -/
def Stacked (cpu : Cpu) (bytes : List UInt8) : Prop :=
  ∀ i (inside : i < bytes.length), cpu.readIndirect (cpu.sfr .sp - UInt8.ofNat i) = bytes[i]

/-- A byte is one of the `n` cells above a stack pointer. -/
def CellsAbove (sp : UInt8) (n : Nat) (l : MemoryByte) : Prop :=
  ∃ k < n, l = .indirect (sp + 1 + UInt8.ofNat k)

/-! ### Cells -/

/-- The stack reaches no register and no code. -/
theorem CellsAbove.space {sp : UInt8} {n : Nat} {l : MemoryByte} (cell : CellsAbove sp n l) :
    l.space = .lower ∨ l.space = .upper := by
  obtain ⟨k, _, rfl⟩ := cell
  exact MemoryByte.space_indirect _

/-- With all of upper RAM every indirect address has a byte. -/
theorem indirect_inside (upper : 128 ≤ cpu.spaceSize .upper) (addr : UInt8) :
    (MemoryByte.indirect addr).addr < cpu.spaceSize (MemoryByte.indirect addr).space := by
  have bound := addr.toNat_lt
  rw [MemoryByte.indirect]
  split
  · rename_i low
    exact Checked.lower_bound cpu ⟨addr.toNat, UInt8.lt_iff_toNat_lt.mp low⟩
  · dsimp only
    omega

private theorem readIndirect_writeIndirect_self (upper : 128 ≤ cpu.spaceSize .upper) (addr value : UInt8) :
    (cpu.writeIndirect addr value).readIndirect addr = value := by
  rw [writeIndirect_eq_store, readIndirect_eq_load, load_store_self (indirect_inside upper addr)]

private theorem readIndirect_writeIndirect_of_ne {addr other : UInt8} (apart : other ≠ addr) (value : UInt8) :
    (cpu.writeIndirect addr value).readIndirect other = cpu.readIndirect other := by
  rw [writeIndirect_eq_store, readIndirect_eq_load, load_store_of_ne, readIndirect_eq_load]
  exact fun same => apart (MemoryByte.indirect_inj same)

/-! ### Push and pop -/

theorem sub_ofNat_succ (sp : UInt8) (i : Nat) : sp - UInt8.ofNat (i + 1) = sp - 1 - UInt8.ofNat i := by
  rw [UInt8.ofNat_add]
  grind

theorem sp_push (value : UInt8) : (cpu.push value).sfr .sp = cpu.sfr .sp + 1 := by
  rw [push, sfr_writeIndirect, sfr_setSfr_self]

private theorem spaceSize_push (value : UInt8) (space : Space) :
    (cpu.push value).spaceSize space = cpu.spaceSize space := by
  rw [push, writeIndirect_eq_store, store, spaceSize_write, setSfr_eq_write, spaceSize_write]

private theorem pc_push (value : UInt8) : (cpu.push value).pc = cpu.pc := by
  rw [push, writeIndirect_eq_store, store, pc_write, setSfr_eq_write, pc_write]

/-- A push puts a byte on top of the stack. The cell that it writes is none of those below if there are at most
255 of them. -/
theorem Stacked.push {bytes : List UInt8} (stacked : cpu.Stacked bytes) (room : bytes.length < 256)
    (upper : 128 ≤ cpu.spaceSize .upper) (value : UInt8) : (cpu.push value).Stacked (value :: bytes) := by
  intro i inside
  rw [sp_push]
  cases i with
  | zero =>
    rw [show cpu.sfr .sp + 1 - UInt8.ofNat 0 = cpu.sfr .sp + 1 from UInt8.sub_zero _, Cpu.push]
    apply readIndirect_writeIndirect_self
    rwa [setSfr_eq_write, spaceSize_write]
  | succ i =>
    have inside' : i < bytes.length := Nat.lt_of_succ_lt_succ inside
    have apart : cpu.sfr .sp - UInt8.ofNat i ≠ cpu.sfr .sp + 1 := by
      intro same
      have wrapped : UInt8.ofNat (i + 1) = 0 := by
        rw [UInt8.ofNat_add]
        grind
      have value : (i + 1) % 256 = 0 := by rw [← UInt8.toNat_ofNat', wrapped]; rfl
      have bound : bytes.length < 256 := room
      omega
    rw [sub_ofNat_succ, UInt8.add_sub_cancel, Cpu.push, readIndirect_writeIndirect_of_ne apart]
    exact stacked i inside'

theorem Stacked.pop {top : UInt8} {bytes : List UInt8} (stacked : cpu.Stacked (top :: bytes)) :
    cpu.pop.1 = top ∧ cpu.pop.2.Stacked bytes := by
  constructor
  · have first := stacked 0 (Nat.succ_pos _)
    rwa [show cpu.sfr .sp - UInt8.ofNat 0 = cpu.sfr .sp from UInt8.sub_zero _] at first
  · intro i inside
    have next := stacked (i + 1) (Nat.succ_lt_succ inside)
    rw [sub_ofNat_succ] at next
    rw [Cpu.pop, sfr_setSfr_self]
    exact next

/-- What else happens to a processor does not matter to the stack as long as stack pointer and cells stay. -/
theorem Stacked.congr {other : Cpu} {bytes : List UInt8} (stacked : cpu.Stacked bytes)
    (sp : other.sfr .sp = cpu.sfr .sp) (cells : ∀ addr, other.readIndirect addr = cpu.readIndirect addr) :
    other.Stacked bytes := by
  intro i inside
  rw [sp, cells]
  exact stacked i inside

/-! ### Runs of pushes and pops -/

theorem pushAll_cons (byte : UInt8) (bytes : List UInt8) :
    cpu.pushAll (byte :: bytes) = (cpu.push byte).pushAll bytes :=
  rfl

theorem sp_pushAll (cpu : Cpu) (bytes : List UInt8) :
    (cpu.pushAll bytes).sfr .sp = cpu.sfr .sp + UInt8.ofNat bytes.length := by
  induction bytes generalizing cpu with
  | nil => exact (UInt8.add_zero _).symm
  | cons byte bytes ih =>
    rw [pushAll_cons, ih, sp_push, List.length_cons, UInt8.ofNat_add]
    grind

private theorem pc_pushAll (cpu : Cpu) (bytes : List UInt8) : (cpu.pushAll bytes).pc = cpu.pc := by
  induction bytes generalizing cpu with
  | nil => rfl
  | cons byte bytes ih => rw [pushAll_cons, ih, pc_push]

theorem Stacked.pushAll {below : List UInt8} (stacked : cpu.Stacked below) (upper : 128 ≤ cpu.spaceSize .upper)
    (bytes : List UInt8) (room : bytes.length + below.length ≤ 256) :
    (cpu.pushAll bytes).Stacked (bytes.reverse ++ below) := by
  -- A byte that is pushed lies below all later ones, so what lies below varies.
  induction bytes generalizing cpu below with
  | nil => exact stacked
  | cons byte bytes ih =>
    rw [List.length_cons] at room
    have pushed := stacked.push (by omega) upper byte
    have room' : bytes.length + (byte :: below).length ≤ 256 := by
      rw [List.length_cons]
      omega
    rw [pushAll_cons, List.reverse_cons, List.append_assoc]
    exact ih pushed (by rwa [spaceSize_push]) room'

theorem stacked_pushAll (upper : 128 ≤ cpu.spaceSize .upper) {bytes : List UInt8} (room : bytes.length ≤ 256) :
    (cpu.pushAll bytes).Stacked bytes.reverse := by
  have empty : cpu.Stacked [] := nofun
  have all := empty.pushAll upper bytes room
  rwa [List.append_nil] at all

theorem changesOnly_pushAll (cpu : Cpu) (bytes : List UInt8) :
    ChangesOnly (fun l => l = .sfr .sp ∨ CellsAbove (cpu.sfr .sp) bytes.length l) cpu (cpu.pushAll bytes) := by
  induction bytes generalizing cpu with
  | nil => exact .refl cpu
  | cons byte bytes ih =>
    have lowest : CellsAbove (cpu.sfr .sp) (bytes.length + 1) (.indirect (cpu.sfr .sp + 1)) :=
      ⟨0, Nat.succ_pos _, congrArg _ (UInt8.add_zero _).symm⟩
    apply ((ChangesOnly.refl cpu).push (.inl rfl) (.inr lowest) byte).trans
    apply (ih (cpu.push byte)).mono
    rintro l (sp | ⟨k, inside, rfl⟩)
    · exact .inl sp
    · refine .inr ⟨k + 1, Nat.succ_lt_succ inside, congrArg _ ?_⟩
      rw [sp_push, UInt8.ofNat_add]
      grind

/-- Other registers than the stack pointer stay. -/
theorem sfr_pushAll_of_ne {r : Sfr} (apart : r ≠ .sp) (bytes : List UInt8) :
    (cpu.pushAll bytes).sfr r = cpu.sfr r := by
  rw [sfr_eq_load, (cpu.changesOnly_pushAll bytes).load, ← sfr_eq_load]
  rintro (sp | cell)
  · exact apart (MemoryByte.sfr_inj sp)
  · exact cell.space.elim nofun nofun

private theorem popAll_succ (n : Nat) :
    cpu.popAll (n + 1) = (cpu.pop.1 :: (cpu.pop.2.popAll n).1, (cpu.pop.2.popAll n).2) :=
  rfl

/-- Popping reads the bytes and moves the stack pointer. -/
theorem Stacked.popAll {bytes : List UInt8} (stacked : cpu.Stacked bytes) :
    cpu.popAll bytes.length = (bytes, cpu.setSfr .sp (cpu.sfr .sp - UInt8.ofNat bytes.length)) := by
  induction bytes generalizing cpu with
  | nil => rw [List.length_nil, Cpu.popAll, show UInt8.ofNat 0 = 0 from rfl, UInt8.sub_zero, setSfr_sfr]
  | cons top bytes ih =>
    obtain ⟨first, others⟩ := stacked.pop
    have moved : cpu.pop.2 = cpu.setSfr .sp (cpu.sfr .sp - 1) := rfl
    rw [List.length_cons, popAll_succ, ih others, first, moved, sfr_setSfr_self, sub_ofNat_succ]
    simp only [setSfr_eq_write, write_write]

/-- A register that holds what it held before has not changed. -/
theorem ChangesOnly.restore {r : Sfr} {bytes : MemoryByte → Prop} {before after : Cpu}
    (changes : ChangesOnly (fun l => l = .sfr r ∨ bytes l) before after) (restored : after.sfr r = before.sfr r) :
    ChangesOnly bytes before after := by
  refine ⟨changes.spaceSize, fun l untouched => ?_⟩
  by_cases register : l = .sfr r
  · rwa [register, ← sfr_eq_load, ← sfr_eq_load]
  · exact changes.load l fun reached => reached.elim register untouched

/-! ### Calls and returns -/

theorem sfr_jump (target : UInt16) (r : Sfr) : (cpu.jump target).sfr r = cpu.sfr r :=
  rfl

theorem sp_updateParity : cpu.updateParity.sfr .sp = cpu.sfr .sp :=
  sfr_setSfr_of_ne (by decide) _

theorem Stacked.updateParity {bytes : List UInt8} (stacked : cpu.Stacked bytes) : cpu.updateParity.Stacked bytes :=
  stacked.congr sp_updateParity fun _ => rfl

theorem Stacked.jump {bytes : List UInt8} (stacked : cpu.Stacked bytes) (target : UInt16) :
    (cpu.jump target).Stacked bytes :=
  stacked.congr rfl fun _ => rfl

/-- A return takes its address off the stack, the high byte first. -/
theorem Stacked.popPc {high low : UInt8} (stacked : cpu.Stacked [high, low]) :
    cpu.popPc = (cpu.setSfr .sp (cpu.sfr .sp - 2)).jump (high.toUInt16 <<< 8 ||| low.toUInt16) := by
  have popped : ([cpu.pop.1, cpu.pop.2.pop.1], cpu.pop.2.pop.2) = ([high, low], cpu.setSfr .sp (cpu.sfr .sp - 2)) :=
    stacked.popAll
  simp only [Prod.mk.injEq, List.cons.injEq, and_true] at popped
  obtain ⟨⟨first, second⟩, moved⟩ := popped
  rw [← first, ← second, ← moved]
  rfl

/-- What a call leaves: it continues at its target, with the address of the next instruction on the stack. -/
structure Calls (before after : Cpu) (next target : UInt16) : Prop where
  pc : after.pc = target
  sp : after.sfr .sp = before.sfr .sp + 2
  stacked : after.Stacked [(next >>> 8).toUInt8, next.toUInt8]
  status : after.sfr .psw &&& ~~~Psw.p = before.sfr .psw &&& ~~~Psw.p
  changes : ChangesOnly (fun l => l = .sfr .sp ∨ l = .sfr .psw ∨ CellsAbove (before.sfr .sp) 2 l) before after

private theorem calls_perform (upper : 128 ≤ cpu.spaceSize .upper) (form : CallForm) (target : UInt16) :
    cpu.Calls (cpu.perform (.call form target)) (cpu.pc + UInt16.ofNat (Instruction.call form target).length)
      target := by
  generalize behind : cpu.pc + UInt16.ofNat (Instruction.call form target).length = next
  let bytes := [next.toUInt8, (next >>> 8).toUInt8]
  have performed : cpu.perform (.call form target) = (((cpu.jump next).pushAll bytes).jump target).updateParity := by
    rw [perform, behind]
    rfl
  rw [performed]
  constructor
  case pc => rfl
  case sp =>
    have two : UInt8.ofNat bytes.length = 2 := rfl
    rw [sp_updateParity, sfr_jump, sp_pushAll, sfr_jump, two]
  case stacked =>
    have upper : 128 ≤ (cpu.jump next).spaceSize .upper := upper
    have room : bytes.length ≤ 256 := show 2 ≤ 256 by decide
    exact ((stacked_pushAll upper room).jump target).updateParity
  case status => rw [psw_updateParity, sfr_jump, sfr_pushAll_of_ne (by decide), sfr_jump]
  case changes =>
    have moved := ((ChangesOnly.refl cpu).jump next).trans ((cpu.jump next).changesOnly_pushAll bytes)
    apply ChangesOnly.updateParity _ (.inr (.inl rfl))
    exact (moved.mono fun _ reached => reached.imp_right .inr).jump target

/-- A return gives back what the call took. -/
theorem Calls.perform_return {called : Cpu} {next target : UInt16} (calls : cpu.Calls called next target)
    {i : Instruction} (returns : i = .ret ∨ i = .reti) :
    (called.perform i).pc = next ∧ (called.perform i).sfr .sp = cpu.sfr .sp ∧
      (called.perform i).sfr .psw &&& ~~~Psw.p = cpu.sfr .psw &&& ~~~Psw.p ∧
      ChangesOnly (fun l => l = .sfr .psw ∨ CellsAbove (cpu.sfr .sp) 2 l) cpu (called.perform i) := by
  let behind := called.jump (called.pc + UInt16.ofNat i.length)
  let popped := (behind.setSfr .sp (cpu.sfr .sp)).jump next
  have performed : called.perform i = popped.updateParity := by
    have returned := (calls.stacked.jump (called.pc + UInt16.ofNat i.length)).popPc
    have restored : behind.sfr .sp - 2 = cpu.sfr .sp := by
      rw [show behind.sfr .sp = called.sfr .sp from rfl, calls.sp]
      exact UInt8.add_sub_cancel _ _
    rw [restored, word_of_bytes] at returned
    rcases returns with rfl | rfl <;> exact congrArg Cpu.updateParity returned
  have sp : popped.updateParity.sfr .sp = cpu.sfr .sp := sp_updateParity.trans (sfr_setSfr_self .sp _)
  rw [performed]
  refine ⟨rfl, sp, ?_, ?_⟩
  · have kept : popped.sfr .psw = called.sfr .psw := sfr_setSfr_of_ne (by decide) _
    rw [psw_updateParity, kept, calls.status]
  · refine ChangesOnly.restore ?_ sp
    exact (((calls.changes.jump _).setSfr (.inl rfl) _).jump next).updateParity (.inr (.inl rfl))

theorem Calls.code {called : Cpu} {next target : UInt16} (calls : cpu.Calls called next target) :
    called.code = cpu.code := by
  apply @memory_eq_of_load cpu called .rom (calls.changes.spaceSize .rom)
  intro addr
  apply calls.changes.load
  rintro (sp | psw | cell)
  · exact absurd (congrArg MemoryByte.space sp) nofun
  · exact absurd (congrArg MemoryByte.space psw) nofun
  · exact cell.space.elim nofun nofun

private theorem decode_of_code {other : Cpu} (same : other.code = cpu.code) (addr : UInt16) :
    other.decode addr = cpu.decode addr := by
  have fetch : other.fetch = cpu.fetch := by
    funext addr
    rw [Cpu.fetch, Cpu.fetch, same]
  rw [decode, fetch, decode]

/-! ### The stack as a whole -/

/-- Bytes that are pushed come back in reverse, and but for the cells that they were pushed to the processor is as
it was. A call to a return continues behind the call; besides its two cells only parity can have changed. -/
theorem stack_lifo (cpu : Cpu) (upper : 128 ≤ cpu.spaceSize .upper) :
    (∀ bytes : List UInt8, bytes.length ≤ 256 →
      let (popped, after) := (cpu.pushAll bytes).popAll bytes.length
      popped = bytes.reverse ∧ after.pc = cpu.pc ∧ after.sfr .sp = cpu.sfr .sp ∧
        ChangesOnly (CellsAbove (cpu.sfr .sp) bytes.length) cpu after) ∧
      ∀ form target, cpu.decode cpu.pc = .call form target →
        cpu.decode target = .ret ∨ cpu.decode target = .reti →
        let after := cpu.step.step
        after.pc = cpu.pc + UInt16.ofNat (Instruction.call form target).length ∧ after.sfr .sp = cpu.sfr .sp ∧
          after.sfr .psw &&& ~~~Psw.p = cpu.sfr .psw &&& ~~~Psw.p ∧
          ChangesOnly (fun l => l = .sfr .psw ∨ CellsAbove (cpu.sfr .sp) 2 l) cpu after := by
  constructor
  · intro bytes room
    have popped := (stacked_pushAll upper room).popAll
    rw [List.length_reverse, sp_pushAll, UInt8.add_sub_cancel] at popped
    have sp : ((cpu.pushAll bytes).setSfr .sp (cpu.sfr .sp)).sfr .sp = cpu.sfr .sp := sfr_setSfr_self .sp _
    rw [popped]
    refine ⟨rfl, cpu.pc_pushAll bytes, sp, ?_⟩
    exact ((cpu.changesOnly_pushAll bytes).setSfr (.inl rfl) _).restore sp
  · intro form target call returns
    have calls := cpu.calls_perform upper form target
    rw [← call, ← step_eq_perform, call] at calls
    have decoded : cpu.step.decode cpu.step.pc = cpu.decode target := by
      rw [decode_of_code calls.code, calls.pc]
    rw [← decoded] at returns
    exact calls.perform_return returns

/-- The stack wraps from upper RAM into the register banks, and the program counter from FFFDh to 0. -/
theorem stack_lifo_wrapping :
    let cpu := { (Cpu.new 0 0 128).setSfr .sp 0xFE with pc := 0xFFFD, code := #[0x22, 0x12, 0x00, 0x00] }
    128 ≤ cpu.spaceSize .upper ∧ ((cpu.pushAll [1, 2, 3]).popAll 3).1 = [3, 2, 1] ∧
      cpu.decode cpu.pc = .call .long 0 ∧ cpu.decode 0 = .ret ∧
      cpu.step.step.pc = 0 ∧ cpu.step.step.sfr .sp = 0xFE := by
  intro cpu
  have upper : 128 ≤ cpu.spaceSize .upper := Nat.le_of_eq Array.size_replicate.symm
  have call : cpu.decode cpu.pc = .call .long 0 := by decide
  have returns : cpu.decode 0 = .ret := by decide
  obtain ⟨lists, calls⟩ := cpu.stack_lifo upper
  obtain ⟨pc, sp, -, -⟩ := calls .long 0 call (.inl returns)
  have wrapped : cpu.pc + UInt16.ofNat (Instruction.call .long 0).length = 0 := by decide
  exact ⟨upper, (lists [1, 2, 3] (by decide)).1, call, returns, pc.trans wrapped, sp⟩

end Mcs51.Cpu
