import Mathlib.Data.Nat.Digits.Lemmas
import Mathlib.Tactic.LinearCombination
import Mcs51.Proofs.Core.Arithmetic

/-! # Arithmetic column by column

Numbers longer than a byte are added and subtracted one column after the other, from the least significant one
on: the accumulator is loaded with a digit of the first number, the operation is performed with a digit of the
second, and what is left in the accumulator is a digit of the result; the carry flag goes on to the next column.
The exact result splits into its first digit and the exact result of the other columns (`ArithOp.exact_column`),
in every base, and from this what a column leaves carries over to all of them (`ArithOp.Chains.cons`).
-/

namespace Mcs51

/-! ### Programs -/

namespace Cpu

/-- The state after instructions that are executed one after the other. -/
def performAll (cpu : Cpu) (instructions : List Instruction) : Cpu :=
  instructions.foldl perform cpu

/-- The states after each of the parts of a program. -/
def afterEach (cpu : Cpu) : List (List Instruction) → List Cpu
  | [] => []
  | part :: rest => cpu.performAll part :: (cpu.performAll part).afterEach rest

private theorem acc_load (cpu : Cpu) (x : UInt8) : (cpu.perform (.mov .acc (.immediate x))).acc = x := by
  rw [perform, acc_updateParity]
  exact acc_setAcc _ x

private theorem carry_load (cpu : Cpu) (x : UInt8) : (cpu.perform (.mov .acc (.immediate x))).carry = cpu.carry := by
  rw [carry, perform, flag_updateParity _ (by decide)]
  exact flag_setAcc _ x _

end Cpu

namespace ArithOp

/-- The operation for the next column, which takes the carry that this one leaves. -/
def next : ArithOp → ArithOp
  | .add | .addc => .addc
  | .subb => .subb

/-- The program that works off two lists of digits column by column. -/
def columns (column : ArithOp → UInt8 → UInt8 → List Instruction) : ArithOp → List UInt8 → List UInt8 →
    List (List Instruction)
  | op, x :: xs, y :: ys => column op x y :: columns column op.next xs ys
  | _, _, _ => []

/-- Load a byte and operate on it with another one. -/
def column (op : ArithOp) (x y : UInt8) : List Instruction :=
  [.mov .acc (.immediate x), .arith op (.immediate y)]

theorem leaves_column (cpu : Cpu) (op : ArithOp) (x y : UInt8) :
    op.Leaves cpu.carry x y (cpu.performAll (op.column x y)) := by
  have left := (cpu.perform (.mov .acc (.immediate x))).leaves_perform op (.immediate y)
  rw [cpu.acc_load, cpu.carry_load] at left
  exact left

end ArithOp

/-! ### Digits -/

/-- The later digits of a number decide whether it lies outside a range. -/
theorem outside_column {base digit : Int} (nonneg : 0 ≤ digit) (below : digit < base) (low size rest : Int) :
    outside (base * low) (base * size) (digit + base * rest) = outside low size rest := by
  have under : digit + base * rest < base * low ↔ rest < low := by
    constructor <;> intro less <;> nlinarith
  have beyond : base * low + base * size ≤ digit + base * rest ↔ low + size ≤ rest := by
    constructor <;> intro less <;> nlinarith
  rw [outside, outside, decide_eq_decide, under, beyond]

private theorem emod_column {base digit : Int} (nonneg : 0 ≤ digit) (below : digit < base) {size : Int}
    (positive : 0 < size) (rest : Int) : (digit + base * rest) % (base * size) = digit + base * (rest % size) := by
  have restNonneg := Int.emod_nonneg rest positive.ne'
  have restBelow := Int.emod_lt_of_pos rest positive
  have split : digit + base * rest = (digit + base * (rest % size)) + base * size * (rest / size) := by
    calc digit + base * rest
        = digit + base * (rest % size + size * (rest / size)) := by rw [Int.emod_add_mul_ediv]
      _ = _ := by ring
  rw [split, Int.add_mul_emod_self_left]
  apply Int.emod_eq_of_lt
  · nlinarith
  · nlinarith

/-- The digit and the carry of a sum of two digits. -/
theorem emod_of_sum {base sum : Int} (nonneg : 0 ≤ sum) (below : sum < 2 * base) :
    sum % base + base * (outside 0 base sum).toNat = sum := by
  by_cases fits : sum < base
  · have inside : outside 0 base sum = false := decide_eq_false (by omega)
    rw [inside, Int.emod_eq_of_lt nonneg fits, Bool.toNat_false, Nat.cast_zero, mul_zero, add_zero]
  · have carried : outside 0 base sum = true := decide_eq_true (by omega)
    rw [carried, ← Int.sub_emod_right, Int.emod_eq_of_lt (by omega) (by omega), Bool.toNat_true, Nat.cast_one,
      mul_one, sub_add_cancel]

/-- The digit and the borrow of a difference of two digits. -/
theorem emod_of_difference {base difference : Int} (above : -base ≤ difference) (below : difference < base) :
    difference % base - base * (outside 0 base difference).toNat = difference := by
  by_cases fits : 0 ≤ difference
  · have inside : outside 0 base difference = false := decide_eq_false (by omega)
    rw [inside, Int.emod_eq_of_lt fits below, Bool.toNat_false, Nat.cast_zero, mul_zero, sub_zero]
  · have borrowed : outside 0 base difference = true := decide_eq_true (by omega)
    rw [borrowed, ← Int.add_emod_right, Int.emod_eq_of_lt (by omega) (by omega), Bool.toNat_true, Nat.cast_one,
      mul_one, add_sub_cancel_right]

namespace ArithOp

/-- The exact result splits into the digit of the first column and the exact result of the others, which take
the carry of the first. -/
theorem exact_column (op : ArithOp) {base x y : Int} (digitX : 0 ≤ x ∧ x < base) (digitY : 0 ≤ y ∧ y < base)
    (X Y : Int) (c : Bool) :
    op.exact (x + base * X) (y + base * Y) c =
      op.exact x y c % base + base * op.next.exact X Y (outside 0 base (op.exact x y c)) := by
  have bit := c.toNat_le
  cases op with
  | add =>
    have digit : (x + y) % base + base * (outside 0 base (x + y)).toNat = x + y :=
      emod_of_sum (by omega) (by omega)
    simp only [exact, next]
    linear_combination -digit
  | addc =>
    have digit : (x + y + c.toNat) % base + base * (outside 0 base (x + y + c.toNat)).toNat = x + y + c.toNat :=
      emod_of_sum (by omega) (by omega)
    simp only [exact, next]
    linear_combination -digit
  | subb =>
    have digit : (x - y - c.toNat) % base - base * (outside 0 base (x - y - c.toNat)).toNat = x - y - c.toNat :=
      emod_of_difference (by omega) (by omega)
    simp only [exact, next]
    linear_combination -digit

end ArithOp

/-! ### From one column to all of them -/

/-- The number that bytes stand for, least significant byte first, where each byte stands for one digit. -/
def number (base : Nat) (digit : UInt8 → Nat) (bytes : List UInt8) : Nat :=
  Nat.ofDigits base (bytes.map digit)

theorem number_cons (base : Nat) (digit : UInt8 → Nat) (byte : UInt8) (bytes : List UInt8) :
    (number base digit (byte :: bytes) : Int) = digit byte + base * number base digit bytes := by
  rw [number, List.map_cons, Nat.ofDigits_cons, Nat.cast_add, Nat.cast_mul, number]

theorem number_singleton (base : Nat) (digit : UInt8 → Nat) (byte : UInt8) : number base digit [byte] = digit byte :=
  Nat.ofDigits_singleton

/-- The last column is the first one if it is the only one, and else the last of the others. -/
theorem last_column {after last : Cpu} {states : List Cpu} {xs ys : List UInt8}
    (isLast : (after :: states).getLast? = some last) (length : states.length = xs.length)
    (same : xs.length = ys.length) :
    (xs = [] ∧ ys = [] ∧ after = last) ∨ (xs ≠ [] ∧ ys ≠ [] ∧ states.getLast? = some last) := by
  cases xs with
  | nil =>
    obtain rfl : states = [] := List.length_eq_zero_iff.mp length
    exact .inl ⟨rfl, List.length_eq_zero_iff.mp same.symm, Option.some.inj isLast⟩
  | cons x xs =>
    cases ys with
    | nil => contradiction
    | cons y ys =>
      cases states with
      | nil => contradiction
      | cons state states => exact .inr ⟨nofun, nofun, isLast⟩

namespace ArithOp

/-- A column of an operation on numbers in a base, in which each byte stands for one digit. -/
structure Digit (op : ArithOp) (base : Nat) (digit : UInt8 → Nat) (c : Bool) (x y : UInt8) (after : Cpu) :
    Prop where
  left : digit x < base
  right : digit y < base
  value : (digit after.acc : Int) = op.exact (digit x) (digit y) c % base
  carry : after.carry = outside 0 base (op.exact (digit x) (digit y) c)

/-- The states after each column of an operation on numbers that have equally many digits. -/
structure Chains (op : ArithOp) (base : Nat) (digit : UInt8 → Nat) (c : Bool) (xs ys : List UInt8)
    (states : List Cpu) : Prop where
  length : states.length = xs.length
  value : (number base digit (states.map Cpu.acc) : Int) =
    op.exact (number base digit xs) (number base digit ys) c % base ^ xs.length
  carry : ∀ last, states.getLast? = some last →
    last.carry = outside 0 (base ^ xs.length) (op.exact (number base digit xs) (number base digit ys) c)

variable {op : ArithOp} {base : Nat} {digit : UInt8 → Nat} {c : Bool} {x y : UInt8} {xs ys : List UInt8}
  {after : Cpu} {states : List Cpu}

/-- The exact result of numbers that have one more digit. -/
theorem Digit.exact_number (column : op.Digit base digit c x y after) (xs ys : List UInt8) :
    op.exact (number base digit (x :: xs)) (number base digit (y :: ys)) c =
      digit after.acc + base * op.next.exact (number base digit xs) (number base digit ys) after.carry := by
  have left : ((digit x : Nat) : Int) < base := Nat.cast_lt.mpr column.left
  have right : ((digit y : Nat) : Int) < base := Nat.cast_lt.mpr column.right
  rw [number_cons, number_cons, op.exact_column ⟨Int.natCast_nonneg _, left⟩ ⟨Int.natCast_nonneg _, right⟩,
    ← column.value, ← column.carry]

theorem Chains.nil (op : ArithOp) (base : Nat) (digit : UInt8 → Nat) (c : Bool) : op.Chains base digit c [] [] [] where
  length := rfl
  value := (Int.emod_one _).symm
  carry := nofun

/-- What the first column and the columns behind it leave is what all columns leave. -/
theorem Chains.cons (column : op.Digit base digit c x y after)
    (rest : op.next.Chains base digit after.carry xs ys states) (same : xs.length = ys.length) :
    op.Chains base digit c (x :: xs) (y :: ys) (after :: states) := by
  have positive : (0 : Int) < base := Nat.cast_pos.mpr (Nat.zero_lt_of_lt column.left)
  have below : ((digit after.acc : Nat) : Int) < base := by
    rw [column.value]
    exact Int.emod_lt_of_pos _ positive
  have nonneg : (0 : Int) ≤ (digit after.acc : Nat) := Int.natCast_nonneg _
  have exact := column.exact_number xs ys
  constructor
  · rw [List.length_cons, List.length_cons, rest.length]
  · rw [exact, List.length_cons, pow_succ', emod_column nonneg below (pow_pos positive _), ← rest.value,
      List.map_cons, number_cons]
  · intro last isLast
    rcases last_column isLast rest.length same with ⟨rfl, rfl, rfl⟩ | ⟨-, -, isLast⟩
    · rw [column.carry, List.length_singleton, pow_one, number_singleton, number_singleton]
    · rw [exact, List.length_cons, pow_succ', ← mul_zero (base : Int), outside_column nonneg below]
      exact rest.carry last isLast

theorem Chains.exists_last (chains : op.Chains base digit c xs ys states) (filled : xs ≠ []) :
    ∃ last, states.getLast? = some last := by
  cases states with
  | nil => exact absurd (List.length_eq_zero_iff.mp chains.length.symm) filled
  | cons state states => exact ⟨_, List.getLast?_cons⟩

end ArithOp

/-! ### Ranges -/

/-- A sum of natural numbers can only be too large. -/
theorem outside_sum (size x y : Nat) : outside 0 size (x + y : Int) = decide (size ≤ x + y) := by
  rw [outside, decide_eq_decide]
  omega

/-- A difference of numbers in a range can only be negative. -/
theorem outside_difference {size x : Nat} (inside : x < size) (y : Nat) :
    outside 0 size (x - y : Int) = decide (x < y) := by
  rw [outside, decide_eq_decide]
  omega

/-- A range in two's complement. -/
theorem outside_signed {size : Int} (even : size % 2 = 0) (result : Int) :
    outside (-(size / 2)) size result = decide (result < -(size / 2) ∨ size / 2 ≤ result) := by
  rw [outside, decide_eq_decide]
  omega

end Mcs51
