import Mathlib.Logic.Function.Iterate
import Mcs51.Machine

/-! # Free run

A running machine executes one instruction on each tick until the next instruction to be executed stands at
the breakpoint. It then halts in front of that instruction and stays halted. So after any number of ticks
the processor is one of the states that single instructions lead to (`tick_iterate`), and without a halt
also the one that as many single steps lead to.
-/

namespace Mcs51.Machine

/-- The processor before the instruction with a number, counted from 0, of a run without breakpoint. -/
def stateAt (m : Machine) (j : Nat) : Cpu :=
  Cpu.step^[j] m.cpu

/-- Whether a free run halts in front of an instruction. The first one is executed in any case if
execution halted there before. -/
def HaltsBefore (m : Machine) (j : Nat) : Prop :=
  (m.atBreakpoint = true → 1 ≤ j) ∧ m.breakpoint = some (m.stateAt j).pc

instance (m : Machine) (j : Nat) : Decidable (m.HaltsBefore j) :=
  inferInstanceAs (Decidable (_ ∧ _))

/-- One single step: the request and the tick that delivers it. -/
def singleStep (m : Machine) : Machine :=
  m.step.tick

variable {m t : Machine} {n k : Nat}

theorem stateAt_succ (m : Machine) (j : Nat) : m.stateAt (j + 1) = (m.stateAt j).step :=
  Function.iterate_succ_apply' Cpu.step j m.cpu

/-! ### One tick -/

theorem halts_iff : t.halts = true ↔ t.breakpoint = some t.cpu.pc ∧ t.atBreakpoint = false := by
  rw [halts, Bool.and_eq_true, beq_iff_eq, Bool.not_eq_true']

private theorem tick_of_halts (running : t.running = true) (halts : t.halts = true) :
    t.tick = { t with atBreakpoint := true, running := false, hit := true, stepPending := false } := by
  rw [tick, running, Bool.true_or, if_pos rfl, if_pos halts]

theorem tick_of_runs (active : t.running = true ∨ t.stepPending = true) (runs : t.halts = false) :
    t.tick =
      { t with
        cpu := t.cpu.step
        cycles := t.cycles + cyclesPerInstruction
        atBreakpoint := false
        stepPending := false } := by
  have executes : (t.running || t.stepPending) = true := by
    rw [Bool.or_eq_true]
    exact active
  rw [tick, if_pos executes, if_neg (by rw [runs]; decide), execute]

theorem tick_of_stopped (stopped : t.running = false) (idle : t.stepPending = false) :
    t.tick = t := by
  rw [tick, stopped, idle, Bool.or_false, if_neg Bool.false_ne_true, ← idle]

private theorem singleStep_of_free (free : t.breakpoint = none) :
    t.singleStep =
      { t with
        running := false
        cpu := t.cpu.step
        cycles := t.cycles + cyclesPerInstruction
        atBreakpoint := false
        stepPending := false } := by
  have runs : t.step.halts = false := by
    rw [Bool.eq_false_iff, ne_eq, halts_iff, step, free]
    exact fun halts => Option.some_ne_none _ halts.1.symm
  rw [singleStep, tick_of_runs (.inr rfl) runs]
  rfl

/-! ### A run without a halt -/

/-- A machine that has executed a number of instructions of a free run. -/
structure Ran (m : Machine) (n : Nat) (t : Machine) : Prop where
  cpu : t.cpu = m.stateAt n
  running : t.running = true
  breakpoint : t.breakpoint = m.breakpoint
  /-- A halt is forgotten as soon as an instruction is executed. -/
  atBreakpoint : t.atBreakpoint = true ↔ m.atBreakpoint = true ∧ n = 0
  cycles : t.cycles = m.cycles + cyclesPerInstruction * n

/-- The tick after `n` instructions halts exactly if the run halts before the next one. -/
theorem Ran.halts_iff (ran : Ran m n t) : t.halts = true ↔ m.HaltsBefore n := by
  rw [Machine.halts_iff, ran.breakpoint, ran.cpu, HaltsBefore, ← Bool.not_eq_true, ran.atBreakpoint]
  constructor
  · rintro ⟨here, fresh⟩
    exact ⟨fun halted => Nat.one_le_iff_ne_zero.mpr fun start => fresh ⟨halted, start⟩, here⟩
  · rintro ⟨moved, here⟩
    refine ⟨here, ?_⟩
    rintro ⟨halted, rfl⟩
    exact absurd (moved halted) (by decide)

theorem Ran.tick (ran : Ran m n t) (free : ¬m.HaltsBefore n) : Ran m (n + 1) t.tick := by
  have runs : t.halts = false := by
    rw [← Bool.not_eq_true, ran.halts_iff]
    exact free
  rw [tick_of_runs (.inl ran.running) runs]
  constructor
  · rw [stateAt_succ, ran.cpu]
  · exact ran.running
  · exact ran.breakpoint
  · exact ⟨fun never => (Bool.false_ne_true never).elim, fun ⟨_, start⟩ => absurd start (Nat.succ_ne_zero n)⟩
  · rw [ran.cycles, Nat.mul_add, Nat.mul_one, Nat.add_assoc]

/-- Up to the first halt, every tick executes an instruction. -/
theorem ran_iterate (running : m.running = true) (free : ∀ j < n, ¬m.HaltsBefore j) :
    Ran m n (Machine.tick^[n] m) := by
  induction n with
  | zero => exact ⟨rfl, running, rfl, ⟨fun halted => ⟨halted, rfl⟩, fun halted => halted.1⟩, rfl⟩
  | succ n ih =>
    rw [Function.iterate_succ_apply']
    exact (ih fun j before => free j (Nat.lt_succ_of_lt before)).tick (free n (Nat.lt_succ_self n))

/-! ### A halt -/

/-- A machine that has halted after a number of instructions. -/
structure Halted (m : Machine) (k : Nat) (t : Machine) : Prop where
  cpu : t.cpu = m.stateAt k
  running : t.running = false
  idle : t.stepPending = false
  hit : t.hit = true
  cycles : t.cycles = m.cycles + cyclesPerInstruction * k

theorem Ran.halted (ran : Ran m k t) (halts : m.HaltsBefore k) : Halted m k t.tick := by
  rw [tick_of_halts ran.running (ran.halts_iff.mpr halts)]
  exact ⟨ran.cpu, rfl, rfl, rfl, ran.cycles⟩

/-- A halted machine stays as it is. -/
theorem Halted.iterate (halted : Halted m k t) (ticks : Nat) :
    Halted m k (Machine.tick^[ticks] t) := by
  induction ticks with
  | zero => exact halted
  | succ ticks ih => rwa [Function.iterate_succ_apply', tick_of_stopped ih.running ih.idle]

private theorem halted_iterate (running : m.running = true) (before : k < n) (halts : m.HaltsBefore k)
    (least : ∀ j < k, ¬m.HaltsBefore j) : Halted m k (Machine.tick^[n] m) := by
  have stopped := (ran_iterate running least).halted halts
  obtain ⟨later, rfl⟩ := Nat.exists_eq_add_of_lt before
  rw [show k + later + 1 = later + (k + 1) by omega, Function.iterate_add_apply, Function.iterate_succ_apply']
  exact stopped.iterate later

/-! ### Single steps -/

/-- Without a breakpoint, every single step executes an instruction. -/
theorem singleStep_iterate (free : t.breakpoint = none) (n : Nat) :
    (singleStep^[n] t).cpu = t.stateAt n ∧ (singleStep^[n] t).cycles = t.cycles + cyclesPerInstruction * n ∧
      (singleStep^[n] t).breakpoint = none := by
  induction n with
  | zero => exact ⟨rfl, rfl, free⟩
  | succ n ih =>
    obtain ⟨cpu, cycles, free⟩ := ih
    rw [Function.iterate_succ_apply', singleStep_of_free free]
    refine ⟨?_, ?_, free⟩
    · rw [stateAt_succ, cpu]
    · rw [cycles, Nat.mul_add, Nat.mul_one, Nat.add_assoc]

/-- A free run refines single instructions. As long as no instruction before the `n`-th is halted at,
`n` ticks execute `n` instructions, just as `n` single steps without breakpoint do; otherwise the machine
stands, halted, before the first such instruction. -/
theorem tick_iterate (m : Machine) (running : m.running = true) (n : Nat) :
    ((∀ j < n, ¬m.HaltsBefore j) →
      (Machine.tick^[n] m).cpu = m.stateAt n ∧ (Machine.tick^[n] m).running = true ∧
        (Machine.tick^[n] m).cycles = m.cycles + 12 * n ∧
        ∀ other : Machine, other.cpu = m.cpu → other.cycles = m.cycles → other.breakpoint = none →
          (singleStep^[n] other).cpu = (Machine.tick^[n] m).cpu ∧
            (singleStep^[n] other).cycles = (Machine.tick^[n] m).cycles) ∧
    ∀ k < n, m.HaltsBefore k → (∀ j < k, ¬m.HaltsBefore j) →
      (Machine.tick^[n] m).cpu = m.stateAt k ∧ (Machine.tick^[n] m).running = false ∧
        (Machine.tick^[n] m).hit = true ∧ (Machine.tick^[n] m).cycles = m.cycles + 12 * k := by
  constructor
  · intro free
    have ran := ran_iterate running free
    refine ⟨ran.cpu, ran.running, ran.cycles, ?_⟩
    intro other sameCpu sameCycles unbroken
    obtain ⟨cpu, cycles, -⟩ := singleStep_iterate unbroken n
    constructor
    · rw [cpu, ran.cpu, stateAt, stateAt, sameCpu]
    · rw [cycles, ran.cycles, sameCycles]
  · intro k before halts least
    have halted := halted_iterate running before halts least
    exact ⟨halted.cpu, halted.running, halted.hit, halted.cycles⟩

/-- Three ticks towards a breakpoint at address 2, through `NOP`s. -/
theorem tick_iterate_to_breakpoint :
    let m := { Machine.new 4 0 0 with running := true, breakpoint := some 2 }
    m.running = true ∧ (Machine.tick^[3] m).cpu = m.stateAt 2 ∧ (Machine.tick^[3] m).running = false ∧
      (Machine.tick^[3] m).hit = true ∧ (Machine.tick^[3] m).cycles = m.cycles + 12 * 2 :=
  ⟨rfl, (tick_iterate { Machine.new 4 0 0 with running := true, breakpoint := some 2 } rfl 3).2 2 (by decide)
    (by decide) (by decide)⟩

end Mcs51.Machine
