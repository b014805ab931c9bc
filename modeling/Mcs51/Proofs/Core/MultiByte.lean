import Mcs51.Proofs.Core.Columns

/-! # Binary arithmetic on numbers of any length

Bytes are digits in base 256. Beside result and carry, the flags that are read after a column are the carry or
borrow out of bit 3 of its byte, which is a bit of the whole numbers, and the signed overflow, which after the last
column is the overflow of the whole numbers in two's complement. Main statement: addition by ADD and ADDC and
subtraction by SUBB are exact (`multiByte_exact`).
-/

namespace Mcs51

/-- The number that bytes stand for, least significant byte first. -/
def littleEndian (bytes : List UInt8) : Nat :=
  number 256 UInt8.toNat bytes

/-- The number that bytes stand for in two's complement, least significant byte first. -/
def twosComplement (bytes : List UInt8) : Int :=
  Int.bmod (littleEndian bytes) (256 ^ bytes.length)

theorem littleEndian_cons (byte : UInt8) (bytes : List UInt8) :
    littleEndian (byte :: bytes) = byte.toNat + 256 * littleEndian bytes := by
  rw [littleEndian, number, List.map_cons, Nat.ofDigits_cons, littleEndian, number]

theorem littleEndian_lt (bytes : List UInt8) : littleEndian bytes < 256 ^ bytes.length := by
  have digits : ∀ digit ∈ bytes.map UInt8.toNat, digit < 256 := by
    intro digit listed
    obtain ⟨byte, _, rfl⟩ := List.mem_map.mp listed
    exact byte.toNat_lt
  have bound := Nat.ofDigits_lt_base_pow_length (by decide) digits
  rwa [List.length_map] at bound

theorem twosComplement_eq (bytes : List UInt8) :
    twosComplement bytes = if 2 * littleEndian bytes < 256 ^ bytes.length then (littleEndian bytes : Int)
      else littleEndian bytes - (256 ^ bytes.length : Nat) := by
  have bound := littleEndian_lt bytes
  rw [twosComplement, Int.bmod_def, Int.emod_eq_of_lt (Int.natCast_nonneg _) (Int.ofNat_lt.mpr bound)]
  generalize 256 ^ bytes.length = size at bound ⊢
  split <;> split <;> omega

theorem two_dvd_size {bytes : List UInt8} (filled : bytes ≠ []) : 2 ∣ 256 ^ bytes.length :=
  dvd_pow ⟨128, rfl⟩ (mt List.length_eq_zero_iff.mp filled)

/-- In two's complement only the last byte has a sign. -/
theorem twosComplement_cons (byte : UInt8) {bytes : List UInt8} (filled : bytes ≠ []) :
    twosComplement (byte :: bytes) = byte.toNat + 256 * twosComplement bytes := by
  have digit := byte.toNat_lt
  have bound := littleEndian_lt bytes
  have even : 256 ^ bytes.length % 2 = 0 := Nat.mod_eq_zero_of_dvd (two_dvd_size filled)
  rw [twosComplement_eq, twosComplement_eq, littleEndian_cons, List.length_cons, pow_succ]
  generalize 256 ^ bytes.length = size at bound even ⊢
  split <;> split <;> omega

theorem twosComplement_singleton (byte : UInt8) : twosComplement [byte] = Int.bmod byte.toNat 256 := by
  rw [twosComplement, littleEndian, number_singleton, List.length_singleton, pow_one]

namespace ArithOp

/-- Whether an operation carries or borrows out of the lowest `k` bits. -/
def carriesOut (op : ArithOp) (k x y : Nat) (c : Bool) : Bool :=
  outside 0 (2 ^ k) (op.exact (x % 2 ^ k : Nat) (y % 2 ^ k : Nat) c)

/-- The flags after each column that are not passed on: the carry or borrow out of bit 3, and overflow. -/
structure Flags (op : ArithOp) (c : Bool) (xs ys : List UInt8) (states : List Cpu) : Prop where
  half : ∀ i after, states[i]? = some after →
    after.flag Psw.ac = op.carriesOut (8 * i + 4) (littleEndian xs) (littleEndian ys) c
  overflow : ∀ last, states.getLast? = some last →
    last.flag Psw.ov =
      outside (-(256 ^ xs.length / 2)) (256 ^ xs.length) (op.exact (twosComplement xs) (twosComplement ys) c)

variable {op : ArithOp} {c : Bool} {x y : UInt8} {xs ys : List UInt8} {after : Cpu} {states : List Cpu}

theorem Leaves.digit (left : op.Leaves c x y after) : op.Digit 256 UInt8.toNat c x y after where
  left := x.toNat_lt
  right := y.toNat_lt
  value := left.byte
  carry := left.carry

theorem mod_bits_cons {byte : Nat} (digit : byte < 256) (k rest : Nat) :
    (byte + 256 * rest) % 2 ^ (8 + k) = byte + 256 * (rest % 2 ^ k) := by
  have first : (byte + 256 * rest) % 2 ^ 8 = byte := by omega
  have others : (byte + 256 * rest) / 2 ^ 8 = rest := by omega
  rw [pow_add, Nat.mod_mul, first, others]
  rfl

/-- Whether there is a carry behind the first byte is decided by the other bytes and the carry of the first. -/
theorem Leaves.carriesOut (left : op.Leaves c x y after) (k X Y : Nat) :
    op.carriesOut (8 + k) (x.toNat + 256 * X) (y.toNat + 256 * Y) c = op.next.carriesOut k X Y after.carry := by
  have boundX := x.toNat_lt
  have boundY := y.toNat_lt
  have exact := @exact_column op 256 x.toNat y.toNat (by omega) (by omega) (X % 2 ^ k : Nat) (Y % 2 ^ k : Nat) c
  rw [← left.byte, ← left.carry] at exact
  have digit := after.acc.toNat_lt
  rw [ArithOp.carriesOut, mod_bits_cons boundX, mod_bits_cons boundY, Nat.cast_add, Nat.cast_add, Nat.cast_mul,
    Nat.cast_mul, Nat.cast_ofNat, exact, pow_add, ← mul_zero (2 ^ 8 : Int)]
  exact outside_column (Int.natCast_nonneg _) (by omega) _ _ _

/-- Overflow of numbers with one more byte in front is overflow of the numbers. -/
theorem Leaves.overflow_cons (left : op.Leaves c x y after) (X Y size : Int) (even : size % 2 = 0) :
    outside (-(256 * size / 2)) (256 * size) (op.exact (x.toNat + 256 * X) (y.toNat + 256 * Y) c) =
      outside (-(size / 2)) size (op.next.exact X Y after.carry) := by
  have boundX := x.toNat_lt
  have boundY := y.toNat_lt
  have digit := after.acc.toNat_lt
  have low : -(256 * size / 2) = 256 * -(size / 2) := by omega
  rw [op.exact_column (by omega) (by omega), ← left.byte, ← left.carry, low]
  exact outside_column (Int.natCast_nonneg _) (by omega) _ _ _

theorem Flags.nil (op : ArithOp) (c : Bool) : op.Flags c [] [] [] where
  half := nofun
  overflow := nofun

theorem Flags.cons (left : op.Leaves c x y after) (rest : op.next.Flags after.carry xs ys states)
    (same : xs.length = ys.length) (states_length : states.length = xs.length) :
    op.Flags c (x :: xs) (y :: ys) (after :: states) := by
  have boundX := x.toNat_lt
  have boundY := y.toNat_lt
  constructor
  · intro i state here
    rw [littleEndian_cons, littleEndian_cons]
    cases i with
    | zero =>
      obtain rfl : after = state := Option.some.inj here
      have lowX : (x.toNat + 256 * littleEndian xs) % 2 ^ 4 = x.toNat % 16 := by omega
      have lowY : (y.toNat + 256 * littleEndian ys) % 2 ^ 4 = y.toNat % 16 := by omega
      rw [left.half, mul_zero, zero_add, ArithOp.carriesOut, lowX, lowY]
      rfl
    | succ i =>
      rw [show 8 * (i + 1) + 4 = 8 + (8 * i + 4) by omega, left.carriesOut]
      exact rest.half i state here
  · intro last isLast
    rcases last_column isLast states_length same with ⟨rfl, rfl, rfl⟩ | ⟨filledX, filledY, isLast⟩
    · rw [left.overflow, twosComplement_singleton, twosComplement_singleton, List.length_singleton, pow_one]
      rfl
    · have even : (256 ^ xs.length : Int) % 2 = 0 := by exact_mod_cast Nat.mod_eq_zero_of_dvd (two_dvd_size filledX)
      rw [twosComplement_cons x filledX, twosComplement_cons y filledY, List.length_cons, pow_succ',
        left.overflow_cons _ _ _ even]
      exact rest.overflow last isLast

/-- From every state, with every carry, the columns are worked off exactly. -/
theorem exact_columns (cpu : Cpu) (op : ArithOp) (xs ys : List UInt8) (same : xs.length = ys.length) :
    op.Chains 256 UInt8.toNat cpu.carry xs ys (cpu.afterEach (columns column op xs ys)) ∧
      op.Flags cpu.carry xs ys (cpu.afterEach (columns column op xs ys)) := by
  induction xs generalizing cpu op ys with
  | nil =>
    obtain rfl : ys = [] := List.length_eq_zero_iff.mp same.symm
    exact ⟨.nil op 256 UInt8.toNat cpu.carry, .nil op cpu.carry⟩
  | cons x xs ih =>
    cases ys with
    | nil => contradiction
    | cons y ys =>
      have same' : xs.length = ys.length := Nat.succ.inj same
      have left := leaves_column cpu op x y
      obtain ⟨chains, flags⟩ := ih (cpu.performAll (op.column x y)) op.next ys same'
      exact ⟨chains.cons left.digit same', flags.cons left same' chains.length⟩

end ArithOp

namespace Cpu

private theorem carry_clear (cpu : Cpu) : (cpu.perform (.bitOp .clr .carry)).carry = false := by
  rw [carry, perform, flag_updateParity _ (by decide)]
  exact flag_setFlag_self _ (by decide) false

/-- Numbers of any length, least significant byte first, are added exactly by ADD and then ADDC, and subtracted
exactly by SUBB after CLR C: the bytes are those of the result modulo `256 ^ n`, the last carry flag tells
whether the sum is too large or the difference negative, and the last overflow flag whether the result does not
fit in two's complement. After each byte the auxiliary carry is the carry or borrow out of its bit 3, which is
bit `8 * i + 3` of the numbers. -/
theorem multiByte_exact (cpu : Cpu) (xs ys : List UInt8) (same : xs.length = ys.length) (filled : xs ≠ []) :
    let n := xs.length
    let X := littleEndian xs
    let Y := littleEndian ys
    let overflows (result : Int) : Bool := result < -(256 ^ n / 2) ∨ 256 ^ n / 2 ≤ result
    let sums := cpu.afterEach (ArithOp.columns ArithOp.column .add xs ys)
    let differences := (cpu.perform (.bitOp .clr .carry)).afterEach (ArithOp.columns ArithOp.column .subb xs ys)
    (sums.length = n ∧ littleEndian (sums.map acc) = (X + Y) % 256 ^ n ∧
      (∃ last, sums.getLast? = some last ∧ last.carry = decide (256 ^ n ≤ X + Y) ∧
        last.flag Psw.ov = overflows (twosComplement xs + twosComplement ys)) ∧
      ∀ i after, sums[i]? = some after →
        after.flag Psw.ac = decide (2 ^ (8 * i + 4) ≤ X % 2 ^ (8 * i + 4) + Y % 2 ^ (8 * i + 4))) ∧
    (differences.length = n ∧ (littleEndian (differences.map acc) : Int) = ((X : Int) - Y) % 256 ^ n ∧
      (∃ last, differences.getLast? = some last ∧ last.carry = decide (X < Y) ∧
        last.flag Psw.ov = overflows (twosComplement xs - twosComplement ys)) ∧
      ∀ i after, differences[i]? = some after →
        after.flag Psw.ac = decide (X % 2 ^ (8 * i + 4) < Y % 2 ^ (8 * i + 4))) := by
  intro n X Y overflows sums differences
  obtain ⟨added, addFlags⟩ := ArithOp.exact_columns cpu .add xs ys same
  obtain ⟨subtracted, subFlags⟩ := ArithOp.exact_columns (cpu.perform (.bitOp .clr .carry)) .subb xs ys same
  rw [cpu.carry_clear] at subtracted subFlags
  have exact_without_borrow (x y : Int) : ArithOp.subb.exact x y false = x - y := Int.sub_zero (x - y)
  have even : (256 ^ n : Int) % 2 = 0 := by exact_mod_cast Nat.mod_eq_zero_of_dvd (two_dvd_size filled)
  refine ⟨⟨added.length, ?_, ?_, ?_⟩, ⟨subtracted.length, ?_, ?_, ?_⟩⟩
  · have value : (littleEndian (sums.map acc) : Int) = (X + Y : Int) % 256 ^ n := added.value
    exact_mod_cast value
  · obtain ⟨last, isLast⟩ := added.exists_last filled
    refine ⟨last, isLast, ?_, ?_⟩
    · rw [added.carry last isLast]
      exact_mod_cast outside_sum (256 ^ n) X Y
    · rw [addFlags.overflow last isLast]
      exact outside_signed even _
  · intro i after here
    rw [addFlags.half i after here]
    exact_mod_cast outside_sum (2 ^ (8 * i + 4)) _ _
  · rw [← exact_without_borrow]
    exact subtracted.value
  · obtain ⟨last, isLast⟩ := subtracted.exists_last filled
    refine ⟨last, isLast, ?_, ?_⟩
    · rw [subtracted.carry last isLast, exact_without_borrow]
      exact_mod_cast outside_difference (littleEndian_lt xs) Y
    · rw [subFlags.overflow last isLast, exact_without_borrow]
      exact outside_signed even _
  · intro i after here
    rw [subFlags.half i after here, ArithOp.carriesOut, exact_without_borrow]
    exact_mod_cast outside_difference (Nat.mod_lt X (Nat.two_pow_pos (8 * i + 4))) _

/-- `7FFFFFh` and `FFFFFFh`, which is -1 in two's complement: the sum carries and does not overflow, the difference
borrows and overflows. -/
theorem multiByte_exact_threeBytes :
    let xs : List UInt8 := [0xFF, 0xFF, 0x7F]
    let ys : List UInt8 := [0xFF, 0xFF, 0xFF]
    let cpu := Cpu.new 0 0 0
    let sums := cpu.afterEach (ArithOp.columns ArithOp.column .add xs ys)
    let differences := (cpu.perform (.bitOp .clr .carry)).afterEach (ArithOp.columns ArithOp.column .subb xs ys)
    xs.length = ys.length ∧ xs ≠ [] ∧
      (littleEndian (sums.map acc) = 0x7FFFFE ∧
        ∃ last, sums.getLast? = some last ∧ last.carry = true ∧ last.flag Psw.ov = false) ∧
      (littleEndian (differences.map acc) : Int) = 0x800000 ∧
        ∃ last, differences.getLast? = some last ∧ last.carry = true ∧ last.flag Psw.ov = true := by
  obtain ⟨⟨_, sum, ⟨lastSum, isLastSum, carry, fits⟩, _⟩,
    ⟨_, difference, ⟨lastDifference, isLastDifference, borrow, overflow⟩, _⟩⟩ :=
    multiByte_exact (Cpu.new 0 0 0) [0xFF, 0xFF, 0x7F] [0xFF, 0xFF, 0xFF] rfl nofun
  exact ⟨rfl, nofun,
    ⟨sum.trans (by decide), lastSum, isLastSum, carry.trans (by decide), fits.trans (by decide)⟩,
    difference.trans (by decide), lastDifference, isLastDifference, borrow.trans (by decide),
    overflow.trans (by decide)⟩

end Cpu

end Mcs51
