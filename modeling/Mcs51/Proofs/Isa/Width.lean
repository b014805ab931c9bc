import Mcs51.Proofs.Text.Plain

/-! # How wide assembly text gets

No part of an instruction is written wider than its kind allows, and a part that is written wide is also encoded
in a byte of its own. The width of the text is therefore bounded by the number of bytes (`length_text_le`).
-/

namespace Mcs51

open Text

/-! ### Names and bits -/

theorem Sfr.length_name_le {addr : UInt8} {name : String} (named : Sfr.name? addr = some name) :
    name.length ≤ 4 := by
  have names : ∀ entry ∈ Sfr.named, entry.2.length ≤ 4 := by decide
  obtain ⟨entry, found, rfl⟩ := Option.map_eq_some_iff.mp named
  exact names entry (List.mem_of_find?_eq_some found)

theorem length_toString_of_lt {n : Nat} (digit : n < 10) : (toString n).length = 1 := by
  revert digit
  revert n
  decide

/-- A bit is written as the name of its register, a dot and a digit, or as a number. -/
theorem length_bitText_le (bit : UInt8) : (bitText bit).length ≤ 6 := by
  unfold bitText
  split
  · rename_i name named
    have digit : (bit &&& 0x07).toNat < 10 := by
      rw [UInt8.toNat_and]
      exact Nat.lt_of_le_of_lt Nat.and_le_right (by decide)
    have short : name.length ≤ 4 := by
      split at named
      · exact Sfr.length_name_le named
      · contradiction
    rw [String.length_append, String.length_append, length_toString_of_lt digit]
    exact Nat.add_le_add_right (Nat.add_le_add_right short 1) 1
  · rw [String.length_append, length_byteHex]
    decide

/-! ### Operands -/

namespace Operand

/-- The columns that an operand of this kind can take. -/
def room : Operand → Nat
  | .acc | .carry => 1
  | .pair | .reg _ => 2
  | .indirect _ => 3
  | .dptr | .direct _ | .immediate _ => 4
  | .atDptr | .atAccPc | .target _ => 5
  | .immediateWord _ | .bit _ => 6
  | .atAccDptr | .notBit _ => 7

theorem length_text_le (operand : Operand) : operand.text.length ≤ operand.room := by
  cases operand with
  | acc | pair | carry | dptr | atDptr | atAccDptr | atAccPc => decide
  | reg n =>
    rw [text, room, String.length_append, length_toString_of_lt (Nat.lt_trans n.isLt (by decide))]
    decide
  | indirect i =>
    rw [text, room, String.length_append, length_toString_of_lt (Nat.lt_trans i.isLt (by decide))]
    decide
  | direct addr =>
    rw [text, room]
    cases named : Sfr.name? addr with
    | none =>
      rw [Option.getD_none, String.length_append, length_byteHex]
      decide
    | some name => exact Sfr.length_name_le named
  | immediate value =>
    rw [text, room, String.length_append, String.length_append, length_byteHex]
    decide
  | immediateWord value =>
    rw [text, room, String.length_append, String.length_append, length_wordHex]
    decide
  | bit addr => exact length_bitText_le addr
  | notBit addr =>
    rw [text, room, String.length_append, Nat.add_comm]
    exact Nat.add_le_add_right (length_bitText_le addr) 1
  | target addr =>
    rw [text, room, String.length_append, length_wordHex]
    decide

end Operand

/-- A place that takes more than three columns is encoded in a byte of its own. -/
theorem Place.room_operand_le (p : Place) : p.operand.room ≤ 3 + p.size := by
  cases p <;> simp [Place.operand, Operand.room, Place.size]

theorem Source.room_operand_le (s : Source) : s.operand.room ≤ 3 + s.size := by
  cases s with
  | place p => exact p.room_operand_le
  | immediate value => simp [Source.operand, Operand.room, Source.size]

theorem BitPlace.room_operand_le (b : BitPlace) : b.operand.room ≤ 6 := by
  cases b <;> simp [BitPlace.operand, Operand.room]

theorem Pointer.room_operand_le (p : Pointer) : p.operand.room ≤ 5 := by
  cases p <;> simp [Pointer.operand, Operand.room]

theorem CodeBase.room_operand_le (b : CodeBase) : b.operand.room ≤ 7 := by
  cases b <;> simp [CodeBase.operand, Operand.room]

/-! ### Instructions -/

namespace Instruction

/-- The columns that operands take, each with a separator behind it. -/
def room : List Operand → Nat
  | [] => 0
  | first :: rest => first.room + 2 + room rest

/-- No separator is written behind the last operand. -/
theorem length_operandText_le (operands : List Operand) : (operandText operands).length ≤ room operands - 2 := by
  induction operands with
  | nil => decide
  | cons first rest ih =>
    have text := first.length_text_le
    cases rest with
    | nil => exact text
    | cons second rest =>
      have separator : (", " : String).length = 2 := by decide
      rw [operandText, String.length_append, String.length_append, separator, room]
      · rw [room] at ih ⊢
        omega
      · exact List.cons_ne_nil _ _

/-- The operands stand behind the mnemonic and a blank. -/
theorem length_text_le_room (i : Instruction) :
    i.text.length ≤ i.mnemonic.length + 1 + (room i.operands - 2) := by
  have blank : (" " : String).length = 1 := by decide
  unfold text
  split
  · omega
  · have operands := length_operandText_le i.operands
    rw [String.length_append, String.length_append]
    omega

theorem length_mnemonic_le (i : Instruction) : i.mnemonic.length ≤ 5 := by
  unfold mnemonic
  cases i.operation <;> decide

/-- A wide operand is encoded in a byte of its own, so the columns that are taken grow with the bytes. -/
theorem length_mnemonic_add_room_le (i : Instruction) : i.mnemonic.length + room i.operands ≤ 19 + i.length := by
  have mnemonic := i.length_mnemonic_le
  have acc : Operand.acc.room = 1 := rfl
  have target (addr : UInt16) : (Operand.target addr).room = 5 := rfl
  cases i with
  | nop | reserved | ret | reti | jumpTable | incDptr | mul | div | decimalAdjust | clearAcc | complementAcc
  | swap => decide
  | jump _ _ | call _ _ | rotate _ | bitFromCarry _ | carryFromBit _ | movDptr _ | push _ | pop _
  | exchangeDigit _ | branch _ _ | bitBranch _ _ _ =>
    simp only [operands, room, Operand.room, length]
    omega
  | inc p | dec p | exchange p | countBranch p _ =>
    have place := p.room_operand_le
    simp only [operands, room, acc, target, length]
    omega
  | arith _ src =>
    have source := src.room_operand_le
    simp only [operands, room, acc, length]
    omega
  | logic _ dst src | mov dst src =>
    have place := dst.room_operand_le
    have source := src.room_operand_le
    simp only [operands, room, length]
    omega
  | carryLogic _ bit complement =>
    have carry : Operand.carry.room = 1 := rfl
    have written : (if complement then Operand.notBit bit else .bit bit).room ≤ 7 := by
      cases complement <;> simp [Operand.room]
    simp only [operands, room, carry, length]
    omega
  | bitOp _ bit =>
    have written := bit.room_operand_le
    simp only [operands, room, length]
    omega
  | loadCode base =>
    have written := base.room_operand_le
    simp only [operands, room, acc, length]
    omega
  | loadExternal p | storeExternal p =>
    have written := p.room_operand_le
    simp only [operands, room, acc, length]
    omega
  | compareBranch lhs rhs addr =>
    -- Three operands fit, as the mnemonic has only four letters.
    have cjne : (compareBranch lhs rhs addr).mnemonic = "CJNE" := rfl
    have four : ("CJNE" : String).length = 4 := by decide
    have place := lhs.room_operand_le
    have source := rhs.room_operand_le
    rw [cjne, four]
    simp only [operands, room, target, length]
    omega

/-- The more bytes an instruction has, the wider its text can be. -/
theorem length_text_le (i : Instruction) : i.text.length ≤ 18 + i.length := by
  have text := i.length_text_le_room
  have room := i.length_mnemonic_add_room_le
  have mnemonic := i.length_mnemonic_le
  have one := i.one_le_length
  omega

/-- The widest text of three bytes, `CJNE @R0, #12h, 3456h`. -/
example :
    let widest := compareBranch (.indirect 0) (.immediate 0x12) 0x3456
    widest.length = 3 ∧ widest.text.length = 18 + 3 := by
  decide

end Instruction

end Mcs51
