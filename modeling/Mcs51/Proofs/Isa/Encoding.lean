import Mathlib.Tactic.IntervalCases
import Mcs51.Isa.Decode
import Mcs51.Proofs.Isa.Bytes

/-! # Encoding

The opcode map read the other way: the bytes of an instruction at an address. Relative targets are written
as their distance from the next instruction, page targets as their low eleven bits. Main statements: decoded
instructions encode to the bytes that they were decoded from (`encode_instruction`), and bytes behind the
length of an instruction do not change it (`instruction_taken`).
-/

namespace Mcs51

def opcodeAt (row column : Nat) : UInt8 :=
  UInt8.ofNat (row * 16 + column)

/-- A word as it stands in code, high byte first. -/
def wordBytes (word : UInt16) : List UInt8 :=
  [(word >>> 8).toUInt8, word.toUInt8]

/-- The signed offset to a target from the end of an instruction of `length` bytes. -/
def offsetTo (addr : UInt16) (length : UInt16) (target : UInt16) : UInt8 :=
  (target - (addr + length)).toUInt8

/-- The opcode in column 1 for a page target: its top three page bits, above a call or a jump. -/
def pageOpcode (row : UInt8) (target : UInt16) : UInt8 :=
  ((target >>> 8).toUInt8 &&& 0x07) * 0x20 + row * 0x10 + 0x01

/-- The column that names a place. -/
def Place.column : Place → Nat
  | .acc => 4
  | .direct _ => 5
  | .indirect i => 6 + i
  | .reg n => 8 + n

/-- What stands behind the opcode for a place. -/
def Place.bytes : Place → List UInt8
  | .direct addr => [addr]
  | _ => []

/-- The column that names a source. -/
def Source.column : Source → Nat
  | .place p => p.column
  | .immediate _ => 4

/-- What stands behind the opcode for a source. -/
def Source.bytes : Source → List UInt8
  | .place p => p.bytes
  | .immediate value => [value]

/-- The row of an arithmetic operation. -/
def ArithOp.row : ArithOp → Nat
  | .add => 0x2
  | .addc => 0x3
  | .subb => 0x9

/-- The row of a logic operation. -/
def LogicOp.row : LogicOp → Nat
  | .orl => 0x4
  | .anl => 0x5
  | .xrl => 0x6

/-- The opcode of logic into the carry flag. -/
def CarryOp.opcode : CarryOp → Bool → UInt8
  | .orl, false => opcodeAt 0x7 2
  | .anl, false => opcodeAt 0x8 2
  | .orl, true => opcodeAt 0xA 0
  | .anl, true => opcodeAt 0xB 0

/-- The row of a rotation. -/
def Rotation.row : Rotation → Nat
  | .rr => 0x0
  | .rrc => 0x1
  | .rl => 0x2
  | .rlc => 0x3

/-- The row of a change of a bit. -/
def BitOp.row : BitOp → Nat
  | .cpl => 0xB
  | .clr => 0xC
  | .setb => 0xD

/-- The row of a branch on a condition. -/
def Condition.row : Condition → Nat
  | .carry => 0x4
  | .noCarry => 0x5
  | .zero => 0x6
  | .nonzero => 0x7

/-- The row of a branch on a bit. -/
def BitCondition.row : BitCondition → Nat
  | .setClearing => 0x1
  | .set => 0x2
  | .clear => 0x3

/-- The column that names a pointer into external memory. -/
def Pointer.column : Pointer → Nat
  | .dptr => 0
  | .reg i => 2 + i

/-- The row of a read of code memory. -/
def CodeBase.row : CodeBase → Nat
  | .pc => 0x8
  | .dptr => 0x9

/-- The bytes of a logic operation. -/
def encodeLogic (op : LogicOp) : Place → Source → List UInt8
  | .direct addr, .place .acc => [opcodeAt op.row 2, addr]
  | .direct addr, .immediate value => [opcodeAt op.row 3, addr, value]
  | _, src => opcodeAt op.row src.column :: src.bytes

/-- The bytes of a move, none when the map has no such move. -/
def encodeMov : Place → Source → List UInt8
  | dst, .immediate value => opcodeAt 0x7 dst.column :: (dst.bytes ++ [value])
  | .acc, .place src => opcodeAt 0xE src.column :: src.bytes
  | dst, .place .acc => opcodeAt 0xF dst.column :: dst.bytes
  | .direct dst, .place (.direct src) => [opcodeAt 0x8 5, src, dst]
  | .direct dst, .place src => [opcodeAt 0x8 src.column, dst]
  | dst, .place (.direct src) => [opcodeAt 0xA dst.column, src]
  | _, .place _ => []

namespace Instruction

/-- The bytes of an instruction at an address. -/
def encode (addr : UInt16) : Instruction → List UInt8
  | nop => [opcodeAt 0x0 0]
  | reserved => [opcodeAt 0xA 5]
  | jump .absolute target => [pageOpcode 0 target, target.toUInt8]
  | jump .long target => opcodeAt 0x0 2 :: wordBytes target
  | jump .short target => [opcodeAt 0x8 0, offsetTo addr 2 target]
  | jumpTable => [opcodeAt 0x7 3]
  | call .absolute target => [pageOpcode 1 target, target.toUInt8]
  | call .long target => opcodeAt 0x1 2 :: wordBytes target
  | ret => [opcodeAt 0x2 2]
  | reti => [opcodeAt 0x3 2]
  | inc p => opcodeAt 0x0 p.column :: p.bytes
  | dec p => opcodeAt 0x1 p.column :: p.bytes
  | incDptr => [opcodeAt 0xA 3]
  | arith op src => opcodeAt op.row src.column :: src.bytes
  | mul => [opcodeAt 0xA 4]
  | div => [opcodeAt 0x8 4]
  | decimalAdjust => [opcodeAt 0xD 4]
  | logic op dst src => encodeLogic op dst src
  | carryLogic op bit complement => [op.opcode complement, bit]
  | clearAcc => [opcodeAt 0xE 4]
  | complementAcc => [opcodeAt 0xF 4]
  | rotate how => [opcodeAt how.row 3]
  | swap => [opcodeAt 0xC 4]
  | bitOp op .carry => [opcodeAt op.row 3]
  | bitOp op (.bit bit) => [opcodeAt op.row 2, bit]
  | mov dst src => encodeMov dst src
  | movDptr value => opcodeAt 0x9 0 :: wordBytes value
  | bitFromCarry bit => [opcodeAt 0x9 2, bit]
  | carryFromBit bit => [opcodeAt 0xA 2, bit]
  | loadCode base => [opcodeAt base.row 3]
  | loadExternal src => [opcodeAt 0xE src.column]
  | storeExternal dst => [opcodeAt 0xF dst.column]
  | push direct => [opcodeAt 0xC 0, direct]
  | pop direct => [opcodeAt 0xD 0, direct]
  | exchange p => opcodeAt 0xC p.column :: p.bytes
  | exchangeDigit i => [opcodeAt 0xD (6 + i)]
  | branch condition target => [opcodeAt condition.row 0, offsetTo addr 2 target]
  | bitBranch condition bit target => [opcodeAt condition.row 0, bit, offsetTo addr 3 target]
  | compareBranch .acc rhs target => opcodeAt 0xB rhs.column :: (rhs.bytes ++ [offsetTo addr 3 target])
  | compareBranch lhs rhs target => opcodeAt 0xB lhs.column :: (rhs.bytes ++ [offsetTo addr 3 target])
  | countBranch (.direct direct) target => [opcodeAt 0xD 5, direct, offsetTo addr 3 target]
  | countBranch p target => [opcodeAt 0xD p.column, offsetTo addr 2 target]

end Instruction

namespace CodeBytes

/-! ### Targets -/

/-- The offset to a relative target is the offset that it was resolved from. -/
theorem offsetTo_relative (c : CodeBytes) (length : UInt16) (offset : UInt8) :
    offsetTo c.addr length (c.relative length offset) = offset := by
  have narrow : offset.toInt8.toInt16.toUInt16.toUInt8 = offset := by
    revert offset
    exact forall_byte (by decide +kernel)
  rw [offsetTo, relative, UInt16.add_comm (c.addr + length), UInt16.add_sub_cancel, narrow]

private theorem wordBytes_word (c : CodeBytes) : wordBytes c.word = [c.first, c.second] := by
  rw [wordBytes, word, highByte_word, lowByte_word]

theorem toUInt8_pageTarget (c : CodeBytes) : c.pageTarget.toUInt8 = c.first := by
  have opcode : ((c.opcode &&& 0xE0).toUInt16 * 8).toUInt8 = 0 := by
    generalize c.opcode = opcode
    revert opcode
    exact forall_byte (by decide +kernel)
  have page : UInt16.toUInt8 0xF800 = 0 := rfl
  rw [pageTarget, UInt16.toUInt8_or, UInt16.toUInt8_or, opcode, UInt16.toUInt8_and, page,
    UInt8.and_zero, UInt8.or_zero, UInt8.zero_or, UInt8.toUInt8_toUInt16]

/-- A page target holds the top three bits of its opcode above the byte behind the opcode. -/
theorem pageOpcode_pageTarget (c : CodeBytes) (row : UInt8) :
    pageOpcode row c.pageTarget = (c.opcode &&& 0xE0) + row * 0x10 + 0x01 := by
  have page : (((c.addr + 2) &&& 0xF800) >>> 8).toUInt8 &&& 0x07 = 0 := by
    have mask : ((0xF800 : UInt16) >>> 8).toUInt8 &&& 0x07 = 0 := rfl
    rw [UInt16.shiftRight_and, UInt16.toUInt8_and, UInt8.and_assoc, mask, UInt8.and_zero]
  have opcode : ((((c.opcode &&& 0xE0).toUInt16 * 8) >>> 8).toUInt8 &&& 0x07) * 0x20 = c.opcode &&& 0xE0 := by
    generalize c.opcode = opcode
    revert opcode
    exact forall_byte (by decide +kernel)
  have first : (c.first.toUInt16 >>> 8).toUInt8 = 0 := by
    generalize c.first = first
    revert first
    exact forall_byte (by decide +kernel)
  have distrib (x y z : UInt8) : (x ||| y) &&& z = x &&& z ||| y &&& z :=
    UInt8.toBitVec_inj.mp BitVec.and_or_distrib_right
  rw [pageOpcode, pageTarget, UInt16.shiftRight_or, UInt16.shiftRight_or, UInt16.toUInt8_or,
    UInt16.toUInt8_or, first, UInt8.or_zero, distrib, page, UInt8.zero_or, opcode]

/-! ### The opcode map -/

theorem row_lt (c : CodeBytes) : c.row < 16 := by
  have bound := c.opcode.toNat_lt
  unfold row
  omega

theorem column_lt (c : CodeBytes) : c.column < 16 :=
  Nat.mod_lt _ (by decide)

private theorem opcodeAt_row_column (c : CodeBytes) : opcodeAt c.row c.column = c.opcode := by
  rw [opcodeAt, row, column, Nat.div_add_mod', UInt8.ofNat_toNat]

/-- Column 1 holds jumps in its even and calls in its odd rows. -/
theorem pageOpcode_column1 {c : CodeBytes} (column : c.column = 1) :
    (c.opcode &&& 0xE0) + UInt8.ofNat (c.row % 2) * 0x10 + 0x01 = c.opcode := by
  have every : ∀ opcode : UInt8, opcode.toNat % 16 = 1 →
      (opcode &&& 0xE0) + UInt8.ofNat (opcode.toNat / 16 % 2) * 0x10 + 0x01 = opcode :=
    forall_byte (by decide +kernel)
  exact every c.opcode column

/-- The code bytes that an instruction takes up. -/
def taken (c : CodeBytes) (length : Nat) : List UInt8 :=
  [c.opcode, c.first, c.second].take length

private theorem encode_column1 {c : CodeBytes} (column : c.column = 1) :
    c.instruction.encode c.addr = c.taken c.instruction.length := by
  have opcode := pageOpcode_column1 column
  have page : c.instruction =
      if c.row % 2 = 0 then .jump .absolute c.pageTarget else .call .absolute c.pageTarget := by
    unfold instruction
    rw [column]
    rfl
  rw [page]
  split
  · rename_i even
    rw [even] at opcode
    rw [Instruction.encode, pageOpcode_pageTarget, toUInt8_pageTarget]
    exact congrArg (fun opcode => [opcode, c.first]) opcode
  · rename_i odd
    rw [Nat.mod_two_ne_zero.mp odd] at opcode
    rw [Instruction.encode, pageOpcode_pageTarget, toUInt8_pageTarget]
    exact congrArg (fun opcode => [opcode, c.first]) opcode

theorem instruction_operandColumn {c : CodeBytes} (column : 4 ≤ c.column) :
    c.instruction = c.operandColumn := by
  unfold instruction
  split <;> first | rfl | omega

/-- A decoded instruction encodes to the bytes that it was decoded from. -/
theorem encode_instruction (c : CodeBytes) :
    c.instruction.encode c.addr = c.taken c.instruction.length := by
  by_cases page : c.column = 1
  · exact encode_column1 page
  · have opcode := c.opcodeAt_row_column
    have columns := c.column_lt
    have rows := c.row_lt
    have words := c.wordBytes_word
    have back2 := c.offsetTo_relative 2 c.first
    have back3 := c.offsetTo_relative 3 c.second
    unfold instruction column0 column2 column3 operandColumn source place
    rw [taken, ← opcode]
    interval_cases c.column
    case «1» => contradiction
    all_goals interval_cases c.row
    -- Offsets and words are the only operands that are not written as they stand.
    all_goals first
      | rfl
      | exact congrArg (fun offset => [_, offset]) back2
      | exact congrArg (fun offset => [_, _, offset]) back3
      | exact congrArg (_ :: ·) words

/-! ### Bytes that an instruction does not read -/

variable {addr : UInt16} {opcode first second first' second' : UInt8}

theorem first_of_taken {length : Nat} (long : Nat.ble 2 length = true)
    (agree : taken ⟨addr, opcode, first, second⟩ length = taken ⟨addr, opcode, first', second'⟩ length) :
    first = first' := by
  obtain ⟨n, rfl⟩ := Nat.exists_eq_add_of_le (Nat.le_of_ble_eq_true long)
  rw [Nat.add_comm] at agree
  exact (List.cons.inj (List.cons.inj agree).2).1

private theorem second_of_taken {length : Nat} (long : Nat.ble 3 length = true)
    (agree : taken ⟨addr, opcode, first, second⟩ length = taken ⟨addr, opcode, first', second'⟩ length) :
    second = second' := by
  obtain ⟨n, rfl⟩ := Nat.exists_eq_add_of_le (Nat.le_of_ble_eq_true long)
  rw [Nat.add_comm] at agree
  exact (List.cons.inj (List.cons.inj (List.cons.inj agree).2).2).1

/-- An instruction has at most three bytes, and the code bytes behind it do not change it. -/
theorem instruction_taken (addr : UInt16) (opcode first second first' second' : UInt8) :
    (instruction ⟨addr, opcode, first, second⟩).length ≤ 3 ∧
      (taken ⟨addr, opcode, first, second⟩ (instruction ⟨addr, opcode, first, second⟩).length =
          taken ⟨addr, opcode, first', second'⟩ (instruction ⟨addr, opcode, first, second⟩).length →
        instruction ⟨addr, opcode, first, second⟩ = instruction ⟨addr, opcode, first', second'⟩) := by
  have columns := column_lt ⟨addr, opcode, first, second⟩
  have rows := row_lt ⟨addr, opcode, first, second⟩
  have column : CodeBytes.column ⟨addr, opcode, first', second'⟩ =
      CodeBytes.column ⟨addr, opcode, first, second⟩ := rfl
  have row : CodeBytes.row ⟨addr, opcode, first', second'⟩ = CodeBytes.row ⟨addr, opcode, first, second⟩ :=
    rfl
  unfold instruction column0 column2 column3 operandColumn source place
  rw [row, column]
  interval_cases CodeBytes.column ⟨addr, opcode, first, second⟩
  all_goals interval_cases CodeBytes.row ⟨addr, opcode, first, second⟩
  all_goals
    refine ⟨Nat.le_of_ble_eq_true rfl, fun agree => ?_⟩
    first
      | rfl
      | obtain rfl := first_of_taken rfl agree
        rfl
      | obtain rfl := first_of_taken rfl agree
        obtain rfl := second_of_taken rfl agree
        rfl

end CodeBytes

end Mcs51
