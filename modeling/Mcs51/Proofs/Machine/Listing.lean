import Mcs51.Machine
import Mcs51.Proofs.Isa.Listing

/-! # Listed bytes and fetched bytes

An instruction is decoded from bytes that are fetched, and a fetch wraps around at the end of code memory. Its
bytes are listed from code memory as a space, where there is nothing behind the end. So the bytes of an
instruction that reaches past the end are listed as 0, whatever is executed there; the listing is right if and
only if the fetched ones happen to be 0 too (`opcodes_list`).
-/

namespace Mcs51

namespace Cpu

variable (cpu : Cpu) {addr : UInt16}

theorem fetch_eq_read (inside : addr.toNat < cpu.spaceSize .rom) : cpu.fetch addr = cpu.read .rom addr.toNat := by
  rw [fetch, read]
  congr 2
  exact Nat.mod_eq_of_lt inside

private theorem read_of_outside {space : Space} {place : Nat} (outside : cpu.spaceSize space ≤ place) :
    cpu.read space place = 0 := by
  rw [read, Array.getElem?_eq_none outside, Option.getD_none]

/-- A byte read as one of a space is the fetched one, except past the end, where it is 0. -/
theorem read_eq_ite (addr : UInt16) :
    cpu.read .rom addr.toNat = if addr.toNat < cpu.spaceSize .rom then cpu.fetch addr else 0 := by
  split
  case isTrue inside => rw [cpu.fetch_eq_read inside]
  case isFalse outside => rw [cpu.read_of_outside (Nat.le_of_not_lt outside)]

end Cpu

/-- A code image with the given bytes at an address and nothing else. -/
def Instruction.placed (bytes : List UInt8) (addr place : UInt16) : UInt8 :=
  bytes.getD (place - addr).toNat 0

private theorem Instruction.placed_add (bytes : List UInt8) (addr : UInt16) {k : Nat} (short : k < 3) :
    placed bytes addr (addr + UInt16.ofNat k) = bytes.getD k 0 := by
  have back : addr + UInt16.ofNat k - addr = UInt16.ofNat k := by
    rw [UInt16.add_comm, UInt16.add_sub_cancel]
  have small : (UInt16.ofNat k).toNat = k := UInt16.toNat_ofNat_of_lt' (by simp only [UInt16.size]; omega)
  rw [placed, back, small]

namespace Machine

/-- The bytes that the instruction at an address is decoded from, and that it is executed from. -/
def fetched (m : Machine) (addr : UInt16) : List UInt8 :=
  (List.range (m.cpu.decode addr).length).map fun i => m.cpu.fetch (addr + UInt16.ofNat i)

variable (m : Machine) (addr : UInt16)

theorem length_opcodes : (m.list addr).opcodes.length = (m.cpu.decode addr).length := by
  simp [list]

theorem getElem?_opcodes {i : Nat} (here : i < (m.cpu.decode addr).length) :
    (m.list addr).opcodes[i]? = some (m.cpu.read .rom (addr + UInt16.ofNat i).toNat) := by
  simp [list, here, readByte]

/-- The listed bytes are the fetched ones if and only if they are byte by byte. -/
theorem opcodes_eq_iff :
    (m.list addr).opcodes = m.fetched addr ↔
      ∀ i < (m.cpu.decode addr).length,
        m.cpu.read .rom (addr + UInt16.ofNat i).toNat = m.cpu.fetch (addr + UInt16.ofNat i) := by
  rw [list, fetched, List.map_inj_left]
  simp only [List.mem_range, readByte]

/-- The listed bytes decode to the listed text if and only if they are the fetched ones. -/
theorem text_placed_opcodes_iff :
    (Instruction.decode (Instruction.placed (m.list addr).opcodes addr) addr).text = (m.list addr).text ↔
      (m.list addr).opcodes = m.fetched addr := by
  have short : (m.cpu.decode addr).length ≤ 3 := Instruction.length_decode_le m.cpu.fetch addr
  -- Code bytes and text determine each other, so the texts are the same if the bytes are.
  have agree : (m.list addr).opcodes = m.fetched addr ↔
      Instruction.AgreeAt m.cpu.fetch (Instruction.placed (m.list addr).opcodes addr) addr
        (m.cpu.decode addr).length := by
    rw [opcodes_eq_iff]
    apply forall₂_congr
    intro i here
    rw [Instruction.placed_add _ _ (Nat.lt_of_lt_of_le here short), List.getD_eq_getElem?_getD,
      m.getElem?_opcodes addr here, Option.getD_some, eq_comm]
  rw [agree]
  constructor
  · intro same
    exact Instruction.agreeAt_of_decode (Instruction.text_injective same).symm
  · intro same
    rw [← Instruction.decode_of_agreeAt same]
    rfl

/-- The listed bytes of an instruction are as many as it has. Each is the one that is fetched for it, or 0 past
the end of code memory. So the bytes listed are those the instruction was decoded from if and only if every byte
that is fetched for it from past the end is 0; only then do they decode to the text listed with them. -/
theorem opcodes_list :
    (m.list addr).opcodes.length = (m.cpu.decode addr).length ∧
      (∀ i < (m.cpu.decode addr).length,
        (m.list addr).opcodes[i]? =
          some (if (addr + UInt16.ofNat i).toNat < m.cpu.spaceSize .rom then m.cpu.fetch (addr + UInt16.ofNat i)
            else 0)) ∧
      ((m.list addr).opcodes = m.fetched addr ↔
        ∀ i < (m.cpu.decode addr).length, m.cpu.spaceSize .rom ≤ (addr + UInt16.ofNat i).toNat →
          m.cpu.fetch (addr + UInt16.ofNat i) = 0) ∧
      ((Instruction.decode (Instruction.placed (m.list addr).opcodes addr) addr).text = (m.list addr).text ↔
        (m.list addr).opcodes = m.fetched addr) := by
  refine ⟨m.length_opcodes addr, ?_, ?_, m.text_placed_opcodes_iff addr⟩
  · intro i here
    rw [m.getElem?_opcodes addr here, m.cpu.read_eq_ite]
  · rw [opcodes_eq_iff]
    apply forall₂_congr
    intro i here
    rw [m.cpu.read_eq_ite]
    by_cases inside : (addr + UInt16.ofNat i).toNat < m.cpu.spaceSize .rom
    · rw [if_pos inside]
      exact iff_of_true rfl fun outside => absurd inside (Nat.not_lt_of_le outside)
    · rw [if_neg inside, eq_comm, imp_iff_right (Nat.le_of_not_lt inside)]

/-- A code memory of the full 65536 bytes has nothing past its end, and lists every instruction right. -/
theorem opcodes_list_of_full (full : 65536 ≤ m.cpu.spaceSize .rom) : (m.list addr).opcodes = m.fetched addr := by
  rw [opcodes_eq_iff]
  intro i here
  have bound := (addr + UInt16.ofNat i).toNat_lt
  rw [m.cpu.fetch_eq_read (by omega)]

/-- Sixteen bytes of code memory with a long jump across the end. -/
def jumpAcrossEnd : Machine :=
  let m := new 16 0 0
  ((m.writeByte .rom 15 0x02).writeByte .rom 0 0x12).writeByte .rom 1 0x34

/-- The jump goes to 1234h, as its text says, but zeros are listed for the address. -/
theorem opcodes_list_jumpAcrossEnd :
    jumpAcrossEnd.cpu.spaceSize .rom = 16 ∧ (jumpAcrossEnd.list 15).text = "LJMP 1234h" ∧
      jumpAcrossEnd.fetched 15 = [0x02, 0x12, 0x34] ∧
      (jumpAcrossEnd.list 15).opcodes = [0x02, 0x00, 0x00] ∧
      (Instruction.decode (Instruction.placed (jumpAcrossEnd.list 15).opcodes 15) 15).text = "LJMP 0000h" := by
  decide

end Machine

end Mcs51
