import Mcs51.Proofs.Core.Status

/-! # Arithmetic on one byte

An arithmetic instruction takes two bytes and a carry. What it leaves is told by one exact result over the
integers (`ArithOp.exact`), taken of the bytes, of their low digits and of their values in two's complement: the
accumulator gets the result modulo 256, and each of the three flags says whether such a result lies outside the
numbers that a byte or a digit can hold (`Cpu.leaves_execute`).
-/

namespace Mcs51

/-- What an arithmetic operation computes of two numbers and a carry, without bounds. -/
def ArithOp.exact (op : ArithOp) (x y : Int) (c : Bool) : Int :=
  match op with
  | .add => x + y
  | .addc => x + y + c.toNat
  | .subb => x - y - c.toNat

/-- Whether a number lies outside the `size` numbers from `low` on. -/
def outside (low size number : Int) : Bool :=
  number < low ∨ low + size ≤ number

/-- What an arithmetic operation on two bytes and a carry leaves in the accumulator and the flags. -/
structure ArithOp.Leaves (op : ArithOp) (c : Bool) (x y : UInt8) (after : Cpu) : Prop where
  byte : (after.acc.toNat : Int) = op.exact x.toNat y.toNat c % 256
  carry : after.carry = outside 0 256 (op.exact x.toNat y.toNat c)
  /-- The carry or borrow out of bit 3. -/
  half : after.flag Psw.ac = outside 0 16 (op.exact (x.toNat % 16) (y.toNat % 16) c)
  overflow : after.flag Psw.ov =
    outside (-128) 256 (op.exact (Int.bmod x.toNat 256) (Int.bmod y.toNat 256) c)

theorem ArithOp.Leaves.updateParity {op : ArithOp} {c : Bool} {x y : UInt8} {after : Cpu}
    (left : op.Leaves c x y after) : op.Leaves c x y after.updateParity where
  byte := by rw [Cpu.acc_updateParity, left.byte]
  carry := by rw [← left.carry, Cpu.carry, Cpu.flag_updateParity _ (by decide), Cpu.carry]
  half := by rw [Cpu.flag_updateParity _ (by decide), left.half]
  overflow := by rw [Cpu.flag_updateParity _ (by decide), left.overflow]

/-- The value of a byte in two's complement. -/
theorem bmod_byte (byte : UInt8) :
    Int.bmod byte.toNat 256 = if byte.toNat < 128 then (byte.toNat : Int) else byte.toNat - 256 := by
  have bound := byte.toNat_lt
  rw [Int.bmod_def]
  split <;> split <;> omega

theorem toNat_sum_carry (x y : UInt8) (c : Bool) :
    (x + y + c.toUInt8).toNat = (x.toNat + y.toNat + c.toNat) % 256 := by
  have bit : c.toUInt8.toNat = c.toNat := by cases c <;> rfl
  rw [UInt8.toNat_add, UInt8.toNat_add, bit, Nat.mod_add_mod]

theorem toNat_difference_carry (x y : UInt8) (c : Bool) :
    ((x - y - c.toUInt8).toNat : Int) = ((x.toNat : Int) - y.toNat - c.toNat) % 256 := by
  have bit : c.toUInt8.toNat = c.toNat := by cases c <;> rfl
  have boundY := y.toNat_lt
  have boundC := c.toNat_le
  rw [UInt8.toNat_sub, UInt8.toNat_sub, bit]
  omega

/-- The overflow flag is read off two pairs of signs: in both of them the signs differ. -/
theorem signs_differ (a b c d : UInt8) :
    ((a ^^^ b) &&& (c ^^^ d) &&& 0x80 != 0) =
      decide ((128 ≤ a.toNat ↔ b.toNat < 128) ∧ (128 ≤ c.toNat ↔ d.toNat < 128)) := by
  have sign : ∀ byte : UInt8, (byte &&& 0x80 != 0) = byte.toBitVec.msb := forall_byte (by decide +kernel)
  have msb (byte : UInt8) : byte.toBitVec.msb = decide (128 ≤ byte.toNat) := BitVec.msb_eq_decide byte.toBitVec
  rw [sign, UInt8.toBitVec_and, UInt8.toBitVec_xor, UInt8.toBitVec_xor, BitVec.msb_and, BitVec.msb_xor,
    BitVec.msb_xor, msb, msb, msb, msb, Bool.eq_iff_iff]
  simp only [Bool.and_eq_true, bne_iff_ne, ne_eq, decide_eq_decide, decide_eq_true_eq]
  omega

/-- A sum overflows if both summands have the other sign than the result. -/
theorem overflow_sum (x y : UInt8) (c : Bool) :
    ((x ^^^ (x + y + c.toUInt8)) &&& (y ^^^ (x + y + c.toUInt8)) &&& 0x80 != 0) =
      outside (-128) 256 (Int.bmod x.toNat 256 + Int.bmod y.toNat 256 + c.toNat) := by
  have boundX := x.toNat_lt
  have boundY := y.toNat_lt
  have boundC := c.toNat_le
  have sum := toNat_sum_carry x y c
  rw [signs_differ, bmod_byte, bmod_byte, outside, decide_eq_decide]
  omega

/-- A difference overflows if the subtrahend and the result have the other sign than the minuend. -/
theorem overflow_difference (x y : UInt8) (c : Bool) :
    ((x ^^^ y) &&& (x ^^^ (x - y - c.toUInt8)) &&& 0x80 != 0) =
      outside (-128) 256 (Int.bmod x.toNat 256 - Int.bmod y.toNat 256 - c.toNat) := by
  have boundX := x.toNat_lt
  have boundY := y.toNat_lt
  have boundC := c.toNat_le
  have difference := toNat_difference_carry x y c
  rw [signs_differ, bmod_byte, bmod_byte, outside, decide_eq_decide]
  omega

namespace Cpu

variable (cpu : Cpu)

theorem leaves_add (value : UInt8) (c : Bool) : ArithOp.addc.Leaves c cpu.acc value (cpu.add value c) where
  byte := by
    rw [add, acc_setAcc, toNat_sum_carry, ArithOp.exact]
    omega
  carry := by
    rw [add, carry, flag_setAcc, flag_setFlag_of_apart _ (by decide), flag_setFlag_of_apart _ (by decide),
      flag_setFlag_self _ (by decide), outside, decide_eq_decide, ArithOp.exact]
    omega
  half := by
    rw [add, flag_setAcc, flag_setFlag_of_apart _ (by decide), flag_setFlag_self _ (by decide), outside,
      decide_eq_decide, ArithOp.exact]
    omega
  overflow := by
    rw [add, flag_setAcc, flag_setFlag_self _ (by decide), overflow_sum, ArithOp.exact]

private theorem leaves_subtract (value : UInt8) : ArithOp.subb.Leaves cpu.carry cpu.acc value (cpu.subtract value) where
  byte := by
    rw [subtract, acc_setAcc, toNat_difference_carry, ArithOp.exact]
  carry := by
    have bound := cpu.acc.toNat_lt
    rw [subtract, carry, flag_setAcc, flag_setFlag_of_apart _ (by decide), flag_setFlag_of_apart _ (by decide),
      flag_setFlag_self _ (by decide), outside, decide_eq_decide, ArithOp.exact]
    omega
  half := by
    rw [subtract, flag_setAcc, flag_setFlag_of_apart _ (by decide), flag_setFlag_self _ (by decide), outside,
      decide_eq_decide, ArithOp.exact]
    omega
  overflow := by
    rw [subtract, flag_setAcc, flag_setFlag_self _ (by decide), overflow_difference, ArithOp.exact]

/-- Every arithmetic instruction leaves the exact result, whatever its operand is. -/
theorem leaves_execute (op : ArithOp) (src : Source) :
    op.Leaves cpu.carry cpu.acc (cpu.readSource src) (cpu.execute (.arith op src)) := by
  cases op with
  | add =>
    have plain (x y : Int) : ArithOp.add.exact x y cpu.carry = ArithOp.addc.exact x y false :=
      (Int.add_zero (x + y)).symm
    obtain ⟨byte, carry, half, overflow⟩ := cpu.leaves_add (cpu.readSource src) false
    simp only [← plain] at byte carry half overflow
    exact ⟨byte, carry, half, overflow⟩
  | addc => exact cpu.leaves_add _ _
  | subb => exact cpu.leaves_subtract _

/-- The operand does not depend on the program counter. -/
theorem readSource_jump (target : UInt16) (src : Source) : (cpu.jump target).readSource src = cpu.readSource src := by
  cases src with
  | place p => cases p <;> rfl
  | immediate value => rfl

theorem leaves_perform (op : ArithOp) (src : Source) :
    op.Leaves cpu.carry cpu.acc (cpu.readSource src) (cpu.perform (.arith op src)) := by
  let ready := cpu.jump (cpu.pc + UInt16.ofNat (Instruction.arith op src).length)
  have left := ready.leaves_execute op src
  rw [show ready.readSource src = cpu.readSource src from cpu.readSource_jump _ src] at left
  exact left.updateParity

end Cpu

end Mcs51
