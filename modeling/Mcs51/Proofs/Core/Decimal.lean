import Mathlib.Tactic.SplitIfs
import Mcs51.Proofs.Core.Columns

/-! # Decimal arithmetic on numbers of any length

Packed decimal bytes are digits in base 100. Decimal adjustment turns the binary sum of two of them and a carry,
with the carries that the addition leaves, into the digit and the carry of their decimal sum (`digit_adjusted`).
Main statement: addition of packed decimal numbers is exact (`decimal_exact`).
-/

namespace Mcs51

/-- Whether a byte holds two decimal digits. -/
def Packed (byte : UInt8) : Prop :=
  byte.toNat / 16 ≤ 9 ∧ byte.toNat % 16 ≤ 9

instance (byte : UInt8) : Decidable (Packed byte) :=
  inferInstanceAs (Decidable (_ ∧ _))

/-- The number that two decimal digits in a byte stand for. -/
def twoDigits (byte : UInt8) : Nat :=
  byte.toNat / 16 * 10 + byte.toNat % 16

theorem Packed.twoDigits_lt {byte : UInt8} (packed : Packed byte) : twoDigits byte < 100 := by
  obtain ⟨high, low⟩ := packed
  rw [twoDigits]
  omega

/-- The number that packed decimal bytes stand for, least significant byte first. -/
def packedDecimal (bytes : List UInt8) : Nat :=
  number 100 twoDigits bytes

/-- The first correction of decimal adjustment, for the low digit and the carry out of bit 3. -/
def adjustLow (a : Nat) (half : Bool) : Nat :=
  if 9 < a % 16 || half then a + 0x06 else a

/-- Both corrections of decimal adjustment, the second for the high digit and the carry out of bit 7. -/
def adjusted (a : Nat) (half carry : Bool) : Nat :=
  let low := adjustLow a half
  if 9 < low / 16 % 16 || 0xFF < low || carry then low + 0x60 else low

/-- A first correction that passes FFh makes the second one pass it as well. -/
theorem large_adjusted {a : Nat} {half : Bool} (large : 0xFF < adjustLow a half) (carry : Bool) :
    0xFF < adjusted a half carry := by
  rw [adjusted]
  split <;> omega

/-- The sum of the low digits carries into the high digits when it passes 9, and theirs out of the byte. -/
theorem adjusted_eq {high low : Nat} (boundHigh : high ≤ 18) (boundLow : low ≤ 19) :
    adjusted ((16 * high + low) % 256) (16 ≤ low) (256 ≤ 16 * high + low) +
        (if 256 ≤ 16 * high + low then 256 else 0) =
      16 * (high + low / 10) + low % 10 + if 10 ≤ high + low / 10 then 0x60 else 0 := by
  simp only [adjusted, adjustLow, Bool.or_eq_true, decide_eq_true_eq]
  split_ifs <;> omega

private theorem adjusted_digits {high low : Nat} (boundHigh : high ≤ 18) (boundLow : low ≤ 19) :
    let result := adjusted ((16 * high + low) % 256) (16 ≤ low) (256 ≤ 16 * high + low)
    result % 256 = 16 * ((high + low / 10) % 10) + low % 10 ∧
      (256 ≤ 16 * high + low ∨ 0xFF < result ↔ 10 ≤ high + low / 10) := by
  intro result
  have total : result + _ = _ := adjusted_eq boundHigh boundLow
  clear_value result
  have smallDigit : low % 10 ≤ 9 := by omega
  have smallSum : high + low / 10 ≤ 19 := by omega
  have below : 16 * high + low ≤ 16 * (high + low / 10) + low % 10 := by omega
  generalize high + low / 10 = tens at *
  generalize low % 10 = digit at *
  constructor
  · split_ifs at total <;> omega
  · split_ifs at total <;> omega

/-- The adjusted sum of two bytes with two decimal digits each, and a carry, holds two digits of the decimal sum
of these bytes, and the carry flag is the carry of this sum. -/
theorem digit_adjusted {x y : UInt8} (packedX : Packed x) (packedY : Packed y) (c : Bool) :
    let sum := x.toNat + y.toNat + c.toNat
    let result := adjusted (sum % 256) (16 ≤ x.toNat % 16 + y.toNat % 16 + c.toNat) (256 ≤ sum)
    Packed (UInt8.ofNat result) ∧
      twoDigits (UInt8.ofNat result) = (twoDigits x + twoDigits y + c.toNat) % 100 ∧
      (256 ≤ sum ∨ 0xFF < result ↔ 100 ≤ twoDigits x + twoDigits y + c.toNat) := by
  intro sum result
  obtain ⟨highX, lowX⟩ := packedX
  obtain ⟨highY, lowY⟩ := packedY
  have bit := c.toNat_le
  let high := x.toNat / 16 + y.toNat / 16
  let low := x.toNat % 16 + y.toNat % 16 + c.toNat
  have decimal : twoDigits x + twoDigits y + c.toNat = 10 * high + low := by
    rw [twoDigits, twoDigits]
    omega
  obtain ⟨value, carried⟩ := adjusted_digits (show high ≤ 18 by omega) (show low ≤ 19 by omega)
  have binary : 16 * high + low = sum := by omega
  rw [binary] at value carried
  change 256 ≤ sum ∨ 0xFF < result ↔ _ at carried
  have byte : (UInt8.ofNat result).toNat = 16 * ((high + low / 10) % 10) + low % 10 :=
    UInt8.toNat_ofNat'.trans value
  rw [Packed, decimal, twoDigits, byte]
  refine ⟨⟨?_, ?_⟩, ?_, carried.trans ?_⟩ <;> omega

namespace Cpu

variable (cpu : Cpu)

/-- Set the carry flag if a sum is no byte. -/
def carryIf (sum : Nat) : Cpu :=
  if 0xFF < sum then cpu.setFlag Psw.cy true else cpu

theorem carry_carryIf (sum : Nat) : (cpu.carryIf sum).carry = (cpu.carry || decide (0xFF < sum)) := by
  rw [carryIf]
  split
  · rename_i large
    rw [carry, flag_setFlag_self _ (by decide), decide_eq_true large, Bool.or_true]
  · rename_i small
    rw [decide_eq_false small, Bool.or_false]

theorem decimalAdjust_eq :
    cpu.decimalAdjust =
      let sum := adjusted cpu.acc.toNat (cpu.flag Psw.ac) cpu.carry
      ((cpu.carryIf (adjustLow cpu.acc.toNat (cpu.flag Psw.ac))).carryIf sum).setAcc (UInt8.ofNat sum) := by
  -- The carry that the first correction sets is read by the second, which looks at the first sum anyway.
  have again (p q c : Bool) : (p || q || (c || q)) = (p || q || c) := by
    revert p q c
    decide
  have carried := cpu.carry_carryIf (adjustLow cpu.acc.toNat (cpu.flag Psw.ac))
  rw [adjusted, ← again, ← carried]
  rfl

private theorem acc_decimalAdjust :
    cpu.decimalAdjust.acc = UInt8.ofNat (adjusted cpu.acc.toNat (cpu.flag Psw.ac) cpu.carry) := by
  rw [decimalAdjust_eq]
  exact acc_setAcc _ _

private theorem carry_decimalAdjust :
    cpu.decimalAdjust.carry =
      (cpu.carry || decide (0xFF < adjusted cpu.acc.toNat (cpu.flag Psw.ac) cpu.carry)) := by
  have later (large : 0xFF < adjustLow cpu.acc.toNat (cpu.flag Psw.ac)) := large_adjusted large cpu.carry
  rw [decimalAdjust_eq, carry, flag_setAcc, ← carry, carry_carryIf, carry_carryIf, Bool.or_assoc]
  congr 1
  rw [Bool.eq_iff_iff, Bool.or_eq_true, decide_eq_true_eq, decide_eq_true_eq]
  exact ⟨fun large => large.elim later id, .inr⟩

private theorem acc_perform_decimalAdjust :
    (cpu.perform .decimalAdjust).acc = UInt8.ofNat (adjusted cpu.acc.toNat (cpu.flag Psw.ac) cpu.carry) := by
  rw [perform, acc_updateParity]
  exact acc_decimalAdjust _

private theorem carry_perform_decimalAdjust :
    (cpu.perform .decimalAdjust).carry =
      (cpu.carry || decide (0xFF < adjusted cpu.acc.toNat (cpu.flag Psw.ac) cpu.carry)) := by
  rw [carry, perform, flag_updateParity _ (by decide)]
  exact carry_decimalAdjust _

end Cpu

namespace ArithOp

/-- Load a byte, add another one to it and adjust the sum. -/
def decimalColumn (op : ArithOp) (x y : UInt8) : List Instruction :=
  op.column x y ++ [.decimalAdjust]

private theorem exists_exact_eq_sum {op : ArithOp} (adds : op ≠ .subb) (c : Bool) :
    ∃ carryIn : Bool, ∀ x y : Int, op.exact x y c = x + y + carryIn.toNat := by
  cases op with
  | add => exact ⟨false, fun x y => (Int.add_zero (x + y)).symm⟩
  | addc => exact ⟨c, fun _ _ => rfl⟩
  | subb => contradiction

private theorem next_ne_subb {op : ArithOp} (adds : op ≠ .subb) : op.next ≠ .subb := by
  cases op with
  | add => exact nofun
  | addc => exact nofun
  | subb => contradiction

/-- Adjustment of a binary sum of decimal digits. -/
theorem Leaves.decimalAdjust {op : ArithOp} {c : Bool} {x y : UInt8} {cpu : Cpu} (left : op.Leaves c x y cpu)
    (adds : op ≠ .subb) (packedX : Packed x) (packedY : Packed y) :
    Packed (cpu.perform .decimalAdjust).acc ∧ op.Digit 100 twoDigits c x y (cpu.perform .decimalAdjust) := by
  obtain ⟨carryIn, sum⟩ := exists_exact_eq_sum adds c
  obtain ⟨byte, carry, half, _⟩ := left
  have accSum : cpu.acc.toNat = (x.toNat + y.toNat + carryIn.toNat) % 256 := by
    rw [sum] at byte
    omega
  have carrySum : cpu.carry = decide (256 ≤ x.toNat + y.toNat + carryIn.toNat) := by
    rw [carry, sum, outside, decide_eq_decide]
    omega
  have halfSum : cpu.flag Psw.ac = decide (16 ≤ x.toNat % 16 + y.toNat % 16 + carryIn.toNat) := by
    rw [half, sum, outside, decide_eq_decide]
    omega
  obtain ⟨packed, digit, carried⟩ := digit_adjusted packedX packedY carryIn
  rw [← accSum, ← carrySum, ← halfSum] at packed digit carried
  have acc := cpu.acc_perform_decimalAdjust
  rw [← acc] at packed digit
  refine ⟨packed, packedX.twoDigits_lt, packedY.twoDigits_lt, ?_, ?_⟩
  · rw [digit, sum]
    omega
  · rw [cpu.carry_perform_decimalAdjust, sum, outside, carrySum, ← Bool.decide_or, decide_eq_decide, ← carrySum,
      carried]
    omega

private theorem digit_decimalColumn (cpu : Cpu) {op : ArithOp} (adds : op ≠ .subb) {x y : UInt8} (packedX : Packed x)
    (packedY : Packed y) :
    Packed (cpu.performAll (op.decimalColumn x y)).acc ∧
      op.Digit 100 twoDigits cpu.carry x y (cpu.performAll (op.decimalColumn x y)) := by
  rw [decimalColumn, Cpu.performAll, List.foldl_append]
  exact (leaves_column cpu op x y).decimalAdjust adds packedX packedY

/-- From every state, with every carry, the columns of a decimal sum are worked off exactly. -/
theorem chains_decimalColumns (cpu : Cpu) {op : ArithOp} (adds : op ≠ .subb) (xs ys : List UInt8)
    (packedX : ∀ byte ∈ xs, Packed byte) (packedY : ∀ byte ∈ ys, Packed byte) (same : xs.length = ys.length) :
    (∀ after ∈ cpu.afterEach (columns decimalColumn op xs ys), Packed after.acc) ∧
      op.Chains 100 twoDigits cpu.carry xs ys (cpu.afterEach (columns decimalColumn op xs ys)) := by
  induction xs generalizing cpu op ys with
  | nil =>
    obtain rfl : ys = [] := List.length_eq_zero_iff.mp same.symm
    exact ⟨nofun, .nil op 100 twoDigits cpu.carry⟩
  | cons x xs ih =>
    cases ys with
    | nil => exact absurd same nofun
    | cons y ys =>
      obtain ⟨firstX, othersX⟩ := List.forall_mem_cons.mp packedX
      obtain ⟨firstY, othersY⟩ := List.forall_mem_cons.mp packedY
      have same' : xs.length = ys.length := Nat.succ.inj same
      obtain ⟨packed, digit⟩ := digit_decimalColumn cpu adds firstX firstY
      obtain ⟨allPacked, chains⟩ :=
        ih (cpu.performAll (op.decimalColumn x y)) (next_ne_subb adds) ys othersX othersY same'
      exact ⟨List.forall_mem_cons.mpr ⟨packed, allPacked⟩, chains.cons digit same'⟩

end ArithOp

namespace Cpu

/-- Packed decimal numbers of any length, least significant byte first, are added exactly by ADD and then ADDC,
each followed by DA A: the bytes are packed, they stand for the sum modulo `100 ^ n`, and the last carry flag tells
whether the sum is too large. -/
theorem decimal_exact (cpu : Cpu) (xs ys : List UInt8) (packedX : ∀ byte ∈ xs, Packed byte)
    (packedY : ∀ byte ∈ ys, Packed byte) (same : xs.length = ys.length) (filled : xs ≠ []) :
    let n := xs.length
    let X := packedDecimal xs
    let Y := packedDecimal ys
    let sums := cpu.afterEach (ArithOp.columns ArithOp.decimalColumn .add xs ys)
    sums.length = n ∧ (∀ byte ∈ sums.map acc, Packed byte) ∧ packedDecimal (sums.map acc) = (X + Y) % 100 ^ n ∧
      ∃ last, sums.getLast? = some last ∧ last.carry = decide (100 ^ n ≤ X + Y) := by
  intro n X Y sums
  have adds : ArithOp.add ≠ .subb := nofun
  obtain ⟨packed, added⟩ := ArithOp.chains_decimalColumns cpu adds xs ys packedX packedY same
  refine ⟨added.length, List.forall_mem_map.mpr packed, ?_, ?_⟩
  · have value : (packedDecimal (sums.map acc) : Int) = (X + Y : Int) % 100 ^ n := added.value
    exact_mod_cast value
  · obtain ⟨last, isLast⟩ := added.exists_last filled
    refine ⟨last, isLast, ?_⟩
    rw [added.carry last isLast]
    exact_mod_cast outside_sum (100 ^ n) X Y

/-- `997958 + 4667 = 1002625` in three bytes. -/
theorem decimal_exact_threeBytes :
    let xs : List UInt8 := [0x58, 0x79, 0x99]
    let ys : List UInt8 := [0x67, 0x46, 0x00]
    let sums := (Cpu.new 0 0 0).afterEach (ArithOp.columns ArithOp.decimalColumn .add xs ys)
    (∀ byte ∈ xs, Packed byte) ∧ (∀ byte ∈ ys, Packed byte) ∧ xs.length = ys.length ∧ xs ≠ [] ∧
      packedDecimal (sums.map acc) = 2625 ∧ ∃ last, sums.getLast? = some last ∧ last.carry = true := by
  have packedX : ∀ byte ∈ [0x58, 0x79, 0x99], Packed byte := by
    simp only [List.forall_mem_cons]
    exact ⟨by decide, by decide, by decide, nofun⟩
  have packedY : ∀ byte ∈ [0x67, 0x46, 0x00], Packed byte := by
    simp only [List.forall_mem_cons]
    exact ⟨by decide, by decide, by decide, nofun⟩
  obtain ⟨_, _, value, last, isLast, carry⟩ := decimal_exact (Cpu.new 0 0 0) _ _ packedX packedY rfl nofun
  exact ⟨packedX, packedY, rfl, nofun, value.trans (by decide), last, isLast, carry.trans (by decide)⟩

end Cpu

end Mcs51
