import Mathlib.Data.Nat.Count
import Mcs51.Proofs.Machine.Breakpoint

/-! # Halts are announced once

A halt on the breakpoint is an event of its own. A machine that halted does not halt again before it has
moved on or its breakpoint was taken away, and it announces each halt at most once
(`notifications_not_repeated`). The announcements are counted with the one that is still due: together they
never exceed the halts so far (`count_reportsAt_add_hit_le`).
-/

namespace Mcs51.Machine

/-- Whether an operation of a history asks for a halt and is told of one. -/
def ReportsAt (m : Machine) (history : List Operation) (k : Nat) : Prop :=
  history[k]? = some .takeHit ∧ (m.before history k).takeHit.1 = true

instance (m : Machine) (history : List Operation) (k : Nat) : Decidable (m.ReportsAt history k) :=
  inferInstanceAs (Decidable (_ ∧ _))

/-- Whether something between two operations undoes a halt: an instruction is executed, the machine is
reset or the breakpoint is removed. -/
def MovesOnBetween (m : Machine) (history : List Operation) (j k : Nat) : Prop :=
  ∃ i, j < i ∧ i < k ∧ (m.ExecutesAt history i ∨ ∃ op ∈ history[i]?, op.forgets = true)

variable {m : Machine} {history : List Operation} {op : Operation} {j k : Nat}

/-! ### Two halts -/

/-- A halt that nothing undoes stands. -/
theorem HaltsAt.stands (halts : m.HaltsAt history j) (before : j < k) (rests : ¬m.MovesOnBetween history j k) :
    m.HaltStands history j k := by
  constructor
  · exact before
  · exact halts
  · intro i after upTo executes
    exact rests ⟨i, after, upTo, .inl executes⟩
  · intro i after upTo op present
    rw [← Bool.not_eq_true]
    intro forgets
    exact rests ⟨i, after, upTo, .inr ⟨op, present, forgets⟩⟩

/-- A machine does not halt again as long as a halt stands. -/
theorem HaltStands.not_haltsAt (stands : m.HaltStands history j k) : ¬m.HaltsAt history k := by
  rintro ⟨-, stops⟩
  have remembers := stands.remembers stands.before (Nat.le_refl k)
  have fresh := (stops_iff.mp stops).2.2
  exact absurd (remembers.symm.trans fresh) (by decide)

private theorem movesOnBetween_of_haltsAt (first : m.HaltsAt history j) (second : m.HaltsAt history k)
    (before : j < k) : m.MovesOnBetween history j k := by
  by_contra rests
  exact (first.stands before rests).not_haltsAt second

/-! ### What a halt leaves -/

private theorem executes_eq_false_of_stops (stops : m.stops = true) : m.executes = false := by
  obtain ⟨_, halts⟩ := Bool.and_eq_true_iff.mp stops
  rw [executes, halts, Bool.not_true, Bool.and_false]

private theorem tick_of_stops (stops : m.stops = true) :
    m.tick = { m with atBreakpoint := true, running := false, hit := true, stepPending := false } := by
  rcases m.tick_cases with ⟨executes, _⟩ | ⟨_, ticked⟩ | ⟨_, idle, _⟩
  · exact absurd (executes.symm.trans (executes_eq_false_of_stops stops)) (by decide)
  · exact ticked
  · exact absurd (stops.symm.trans idle) (by decide)

/-- The machine behind a halting tick. -/
theorem HaltsAt.before_succ (halts : m.HaltsAt history k) :
    m.before history (k + 1) =
      { m.before history k with atBreakpoint := true, running := false, hit := true, stepPending := false } := by
  obtain ⟨ticks, stops⟩ := halts
  rw [Machine.before_succ ticks, perform, tick_of_stops stops]

/-! ### Announcements -/

/-- A machine has a halt to announce only if it halts just now, or if it had one and is not asked. -/
theorem hit_perform (due : (m.perform op).hit = true) :
    op = .tick ∧ m.stops = true ∨ m.hit = true ∧ op ≠ .takeHit := by
  by_cases asked : op = .takeHit
  · subst asked
    exact absurd due Bool.false_ne_true
  · cases op with
    | tick =>
      rcases m.tick_cases with ⟨_, ticked⟩ | ⟨stops, _⟩ | ⟨_, _, ticked⟩
      · rw [perform, ticked] at due
        exact .inr ⟨due, asked⟩
      · exact .inl ⟨rfl, stops⟩
      · rw [perform, ticked] at due
        exact .inr ⟨due, asked⟩
    | takeHit => contradiction
    | step => exact .inr ⟨due, asked⟩
    | setRunning running => exact .inr ⟨due, asked⟩
    | setPc addr => exact .inr ⟨due, asked⟩
    | setBreakpoint addr => exact .inr ⟨due, asked⟩
    | reset wipe => exact .inr ⟨due, asked⟩
    | writeByte space addr value => exact .inr ⟨due, asked⟩
    | writeRegister index value => exact .inr ⟨due, asked⟩

/-- What one operation adds to the halts pays for what it adds to the announcements: a halt makes one due,
and an announcement takes the one that is due. -/
theorem hit_perform_le (op : Operation) :
    (if op = .takeHit ∧ m.takeHit.1 = true then 1 else 0) + (m.perform op).hit.toNat ≤
      m.hit.toNat + if op = .tick ∧ m.stops = true then 1 else 0 := by
  by_cases asked : op = .takeHit
  · subst asked
    cases due : m.hit <;> simp [perform, takeHit, due]
  · rw [if_neg fun both => asked both.1, Nat.zero_add]
    cases later : (m.perform op).hit with
    | false => exact Nat.zero_le _
    | true =>
      rcases hit_perform later with halts | ⟨due, _⟩
      · rw [if_pos halts]
        exact Nat.le_add_left 1 _
      · rw [due]
        exact Nat.le_add_right 1 _

/-- The announcements so far and the one that is due are at most as many as the halts so far. -/
theorem count_reportsAt_add_hit_le (fresh : m.hit = false) (history : List Operation) (k : Nat) :
    Nat.count (m.ReportsAt history) k + (m.before history k).hit.toNat ≤
      Nat.count (m.HaltsAt history) k := by
  induction k with
  | zero => simp [before, fresh]
  | succ k ih =>
    rw [Nat.count_succ, Nat.count_succ]
    cases present : history[k]? with
    | none => simpa [ReportsAt, HaltsAt, present, before_succ_of_end present] using ih
    | some op =>
      have step := (m.before history k).hit_perform_le op
      simp only [ReportsAt, HaltsAt, present, Option.some.injEq, before_succ present]
      omega

/-- Between two halts a machine has executed an instruction, or was reset, or lost its breakpoint. A halting
tick leaves it stopped in front of the instruction, and it announces no more halts than there were. -/
theorem notifications_not_repeated (codeSize externalSize upperSize : Nat) (history : List Operation) :
    let m := Machine.new codeSize externalSize upperSize
    (∀ j k, j < k → m.HaltsAt history j → m.HaltsAt history k → m.MovesOnBetween history j k) ∧
      (∀ k, m.HaltsAt history k →
        (m.before history (k + 1)).running = false ∧
          (m.before history (k + 1)).stepPending = false ∧
          (m.before history (k + 1)).cpu = (m.before history k).cpu ∧
          (m.before history (k + 1)).cycles = (m.before history k).cycles) ∧
      ∀ k, Nat.count (m.ReportsAt history) k ≤ Nat.count (m.HaltsAt history) k := by
  intro m
  refine ⟨?_, ?_, ?_⟩
  · intro j k before first second
    exact movesOnBetween_of_haltsAt first second before
  · intro k halts
    rw [halts.before_succ]
    exact ⟨rfl, rfl, rfl, rfl⟩
  · intro k
    have fresh : m.hit = false := rfl
    exact Nat.le_of_add_right_le (count_reportsAt_add_hit_le fresh history k)

/-- A machine halts at address 0, loses its breakpoint and halts there again, and is asked twice about the
first halt. -/
theorem notifications_not_repeated_twice :
    let m := Machine.new 4 0 0
    let history := [.setBreakpoint (some 0), .setRunning true, .tick, .takeHit, .takeHit, .setBreakpoint none,
      .setBreakpoint (some 0), .step, .tick]
    m.HaltsAt history 2 ∧ m.HaltsAt history 8 ∧ m.MovesOnBetween history 2 8 ∧
      (m.before history 9).running = false ∧ Nat.count (m.ReportsAt history) 9 = 1 ∧
      Nat.count (m.ReportsAt history) 9 ≤ Nat.count (m.HaltsAt history) 9 :=
  have general := notifications_not_repeated 4 0 0 [.setBreakpoint (some 0), .setRunning true, .tick, .takeHit,
    .takeHit, .setBreakpoint none, .setBreakpoint (some 0), .step, .tick]
  ⟨by decide, by decide, general.1 2 8 (by decide) (by decide) (by decide), (general.2.1 8 (by decide)).1,
    by decide, general.2.2 9⟩

end Mcs51.Machine
