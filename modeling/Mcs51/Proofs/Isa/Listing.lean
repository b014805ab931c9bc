import Mcs51.Proofs.Isa.Encoding
import Mcs51.Proofs.Isa.Reading

/-! # Code bytes and assembly text

At every address, the bytes of an instruction determine its text and its text determines its bytes: nothing
behind the instruction is read, and assembly text loses nothing that the bytes say.
-/

namespace Mcs51.Instruction

/-- Two code images have the same `n` bytes from an address on, wrapping around behind FFFFh. -/
def AgreeAt (fetch fetch' : UInt16 → UInt8) (addr : UInt16) (n : Nat) : Prop :=
  ∀ k < n, fetch (addr + UInt16.ofNat k) = fetch' (addr + UInt16.ofNat k)

def bytesAt (fetch : UInt16 → UInt8) (addr : UInt16) : CodeBytes :=
  ⟨addr, fetch addr, fetch (addr + 1), fetch (addr + 2)⟩

theorem taken_bytesAt (fetch : UInt16 → UInt8) (addr : UInt16) {n : Nat} (short : n ≤ 3) :
    (bytesAt fetch addr).taken n = (List.range n).map fun k => fetch (addr + UInt16.ofNat k) := by
  have first : fetch addr = fetch (addr + UInt16.ofNat 0) := congrArg fetch (UInt16.add_zero addr).symm
  rw [CodeBytes.taken, bytesAt, first]
  interval_cases n <;> rfl

theorem agreeAt_iff_taken {fetch fetch' : UInt16 → UInt8} {addr : UInt16} {n : Nat} (short : n ≤ 3) :
    AgreeAt fetch fetch' addr n ↔ (bytesAt fetch addr).taken n = (bytesAt fetch' addr).taken n := by
  rw [taken_bytesAt fetch addr short, taken_bytesAt fetch' addr short, List.map_inj_left]
  simp only [List.mem_range, AgreeAt]

theorem length_decode_le (fetch : UInt16 → UInt8) (addr : UInt16) :
    (decode fetch addr).length ≤ 3 :=
  (CodeBytes.instruction_taken addr (fetch addr) (fetch (addr + 1)) (fetch (addr + 2)) 0 0).1

/-- Images that agree on the bytes of an instruction hold the same instruction. -/
theorem decode_of_agreeAt {fetch fetch' : UInt16 → UInt8} {addr : UInt16}
    (agree : AgreeAt fetch fetch' addr (decode fetch addr).length) :
    decode fetch addr = decode fetch' addr := by
  have opcode : fetch addr = fetch' addr := by
    have here := agree 0 (one_le_length _)
    rwa [show addr + UInt16.ofNat 0 = addr from UInt16.add_zero addr] at here
  rw [agreeAt_iff_taken (length_decode_le fetch addr), bytesAt, bytesAt, ← opcode] at agree
  rw [decode, decode, ← opcode]
  exact (CodeBytes.instruction_taken addr (fetch addr) _ _ _ _).2 agree

/-- Images that hold the same instruction agree on its bytes. -/
theorem agreeAt_of_decode {fetch fetch' : UInt16 → UInt8} {addr : UInt16}
    (same : decode fetch addr = decode fetch' addr) :
    AgreeAt fetch fetch' addr (decode fetch addr).length := by
  rw [agreeAt_iff_taken (length_decode_le fetch addr)]
  calc (bytesAt fetch addr).taken (decode fetch addr).length
    _ = (decode fetch addr).encode addr := (CodeBytes.encode_instruction (bytesAt fetch addr)).symm
    _ = (decode fetch' addr).encode addr := by rw [same]
    _ = (bytesAt fetch' addr).taken (decode fetch' addr).length :=
        CodeBytes.encode_instruction (bytesAt fetch' addr)
    _ = (bytesAt fetch' addr).taken (decode fetch addr).length := by rw [same]

/-- Code bytes and assembly text determine each other. An instruction has one to three bytes; images that agree
on these bytes hold the same instruction, and images that show the same text agree on the bytes. -/
theorem decode_determines (fetch fetch' : UInt16 → UInt8) (addr : UInt16) :
    (1 ≤ (decode fetch addr).length ∧ (decode fetch addr).length ≤ 3) ∧
      (AgreeAt fetch fetch' addr (decode fetch addr).length → decode fetch addr = decode fetch' addr) ∧
      ((decode fetch addr).text = (decode fetch' addr).text →
        (decode fetch addr).length = (decode fetch' addr).length ∧
          AgreeAt fetch fetch' addr (decode fetch addr).length) := by
  refine ⟨⟨one_le_length _, length_decode_le fetch addr⟩, decode_of_agreeAt, ?_⟩
  intro text
  have same := text_injective text
  exact ⟨congrArg length same, agreeAt_of_decode same⟩

/-- An image with a move to P1 across the end of the address range, filled up with one byte. -/
def acrossEnd (fill : UInt8) (addr : UInt16) : UInt8 :=
  if addr = 0xFFFF then 0x75 else if addr = 0 then 0x90 else if addr = 1 then 0x12 else fill

/-- The move reads the same in either image, and its text fixes the three bytes. -/
theorem decode_determines_acrossEnd :
    (decode (acrossEnd 0x00) 0xFFFF).text = "MOV P1, #12h" ∧
      decode (acrossEnd 0x00) 0xFFFF = decode (acrossEnd 0xFF) 0xFFFF ∧
      AgreeAt (acrossEnd 0x00) (acrossEnd 0xFF) 0xFFFF 3 := by
  obtain ⟨_, bytes, text⟩ := decode_determines (acrossEnd 0x00) (acrossEnd 0xFF) 0xFFFF
  have length : (decode (acrossEnd 0x00) 0xFFFF).length = 3 := by decide
  have shown : (decode (acrossEnd 0x00) 0xFFFF).text = (decode (acrossEnd 0xFF) 0xFFFF).text := by decide
  have agree : AgreeAt (acrossEnd 0x00) (acrossEnd 0xFF) 0xFFFF 3 := by
    rw [← length]
    exact (text shown).2
  refine ⟨by decide, bytes ?_, agree⟩
  rw [length]
  unfold AgreeAt
  decide

end Mcs51.Instruction
