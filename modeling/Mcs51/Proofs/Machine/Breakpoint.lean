import Mcs51.Proofs.Machine.FreeRun

/-! # Breakpoints are not missed

A tick that would execute the instruction at the breakpoint halts instead, and the machine remembers that
it halted. What it does not remember is where: the memory of a halt outlives a breakpoint that is moved to
another address without being removed first. So whenever a tick does execute the instruction at the
breakpoint, a halt has been announced before and nothing has undone it (`executes_at_breakpoint`), but the
halt is one at this breakpoint exactly if the breakpoint was not set again since
(`executes_at_moved_breakpoint` shows a breakpoint that is missed).
-/

namespace Mcs51.Machine

/-! ### Histories -/

/-- What can be asked of a machine. -/
inductive Operation
  | step
  | setRunning (running : Bool)
  | setPc (addr : UInt16)
  | setBreakpoint (addr : Option UInt16)
  | reset (wipe : Bool)
  | writeByte (space : Space) (addr : Nat) (value : UInt8)
  | writeRegister (index : Nat) (value : UInt16)
  | tick
  | takeHit
deriving DecidableEq, Repr

namespace Operation

/-- Whether an operation resets the machine or removes the breakpoint. -/
def forgets : Operation → Bool
  | reset _ | setBreakpoint none => true
  | _ => false

/-- Whether an operation sets the breakpoint to an address. -/
def setsBreakpoint : Operation → Bool
  | setBreakpoint (some _) => true
  | _ => false

end Operation

def perform (m : Machine) : Operation → Machine
  | .step => m.step
  | .setRunning running => m.setRunning running
  | .setPc addr => m.setPc addr
  | .setBreakpoint addr => m.setBreakpoint addr
  | .reset wipe => m.reset wipe
  | .writeByte space addr value => m.writeByte space addr value
  | .writeRegister index value => m.writeRegister index value
  | .tick => m.tick
  | .takeHit => m.takeHit.2

/-- The machine in front of the operation with a number, counted from 0, of a history. -/
def before (m : Machine) (history : List Operation) (k : Nat) : Machine :=
  (history.take k).foldl perform m

/-- Whether the next tick of a machine executes an instruction. -/
def executes (m : Machine) : Bool :=
  (m.running || m.stepPending) && !m.halts

/-- Whether the next tick of a machine halts on the breakpoint. -/
def stops (m : Machine) : Bool :=
  (m.running || m.stepPending) && m.halts

/-- Whether an operation of a history is a tick that executes an instruction. -/
def ExecutesAt (m : Machine) (history : List Operation) (k : Nat) : Prop :=
  history[k]? = some .tick ∧ (m.before history k).executes = true

/-- Whether an operation of a history is a tick that halts on the breakpoint. -/
def HaltsAt (m : Machine) (history : List Operation) (k : Nat) : Prop :=
  history[k]? = some .tick ∧ (m.before history k).stops = true

instance (m : Machine) (history : List Operation) (k : Nat) : Decidable (m.ExecutesAt history k) :=
  inferInstanceAs (Decidable (_ ∧ _))

instance (m : Machine) (history : List Operation) (k : Nat) : Decidable (m.HaltsAt history k) :=
  inferInstanceAs (Decidable (_ ∧ _))

/-- Operation `j` is a halt that nothing has undone when operation `k` comes: since then no instruction was
executed, the machine was not reset and the breakpoint was not removed. -/
structure HaltStands (m : Machine) (history : List Operation) (j k : Nat) : Prop where
  before : j < k
  halts : m.HaltsAt history j
  parked : ∀ i, j < i → i < k → ¬m.ExecutesAt history i
  kept : ∀ i, j < i → i < k → ∀ op ∈ history[i]?, op.forgets = false

/-- Whether the breakpoint was set to an address between two operations. -/
def SetsBetween (history : List Operation) (j k : Nat) : Prop :=
  ∃ i, j < i ∧ i < k ∧ ∃ op ∈ history[i]?, op.setsBreakpoint = true

/-- Whether an earlier tick halted at the address where the machine stands now, under the present setting
of the breakpoint, and nothing has undone that halt since. -/
def HaltedHere (m : Machine) (history : List Operation) (k : Nat) : Prop :=
  ∃ j, m.HaltStands history j k ∧ ¬SetsBetween history j k ∧
    (m.before history j).cpu.pc = (m.before history k).cpu.pc ∧
    (m.before history j).breakpoint = (m.before history k).breakpoint

variable {m : Machine} {history : List Operation} {op : Operation} {j k : Nat}

theorem before_succ (present : history[k]? = some op) :
    m.before history (k + 1) = (m.before history k).perform op := by
  obtain ⟨inside, rfl⟩ := List.getElem?_eq_some_iff.mp present
  rw [before, before, List.take_succ_eq_append_getElem inside, List.foldl_append]
  rfl

/-- Behind the end of a history the machine stays as it is. -/
theorem before_succ_of_end (past : history[k]? = none) : m.before history (k + 1) = m.before history k := by
  have behind : history.length ≤ k := List.getElem?_eq_none_iff.mp past
  rw [before, before, List.take_of_length_le behind, List.take_of_length_le (Nat.le_succ_of_le behind)]

/-! ### One operation -/

/-- What a tick does: it executes an instruction, halts, or is idle. -/
theorem tick_cases (m : Machine) :
    (m.executes = true ∧
      m.tick =
        { m with
          cpu := m.cpu.step
          cycles := m.cycles + cyclesPerInstruction
          atBreakpoint := false
          stepPending := false }) ∨
    (m.stops = true ∧
      m.tick = { m with atBreakpoint := true, running := false, hit := true, stepPending := false }) ∨
    (m.executes = false ∧ m.stops = false ∧ m.tick = m) := by
  by_cases active : m.running = true ∨ m.stepPending = true
  · have live : (m.running || m.stepPending) = true := by
      rw [Bool.or_eq_true]
      exact active
    cases halts : m.halts with
    | false => exact .inl ⟨by simp [executes, live, halts], tick_of_runs active halts⟩
    | true => exact .inr (.inl ⟨by simp [stops, live, halts], by simp [tick, live, halts]⟩)
  · simp only [not_or, Bool.not_eq_true] at active
    exact .inr (.inr ⟨by simp [executes, active], by simp [stops, active], tick_of_stopped active.1 active.2⟩)

theorem breakpoint_tick (m : Machine) : m.tick.breakpoint = m.breakpoint := by
  rcases m.tick_cases with ⟨_, ticked⟩ | ⟨_, ticked⟩ | ⟨_, _, ticked⟩ <;> rw [ticked]

/-- A machine remembers a halt only if it halts just now, or if it remembered one and nothing undoes it. -/
theorem atBreakpoint_perform (remembers : (m.perform op).atBreakpoint = true) :
    op = .tick ∧ m.stops = true ∨
      m.atBreakpoint = true ∧ ¬(op = .tick ∧ m.executes = true) ∧ op.forgets = false := by
  cases op with
  | tick =>
    rcases m.tick_cases with ⟨_, ticked⟩ | ⟨stops, _⟩ | ⟨idle, _, ticked⟩
    · exact absurd remembers (by simp [perform, ticked])
    · exact .inl ⟨rfl, stops⟩
    · rw [perform, ticked] at remembers
      exact .inr ⟨remembers, by simp [idle], rfl⟩
  | setBreakpoint addr =>
    cases addr with
    | none => exact absurd remembers (by simp [perform, setBreakpoint])
    | some addr =>
      simp only [perform, setBreakpoint, Option.isSome_some, Bool.and_true] at remembers
      exact .inr ⟨remembers, by simp, rfl⟩
  | reset wipe => exact absurd remembers (by simp [perform, reset])
  | step => exact .inr ⟨remembers, by simp, rfl⟩
  | setRunning running => exact .inr ⟨remembers, by simp, rfl⟩
  | setPc addr => exact .inr ⟨remembers, by simp, rfl⟩
  | writeByte space addr value => exact .inr ⟨remembers, by simp, rfl⟩
  | writeRegister index value => exact .inr ⟨remembers, by simp, rfl⟩
  | takeHit => exact .inr ⟨remembers, by simp, rfl⟩

/-- A machine that remembers a halt goes on to do so until something undoes the halt. -/
theorem atBreakpoint_perform_of_kept (remembers : m.atBreakpoint = true)
    (parked : ¬(op = .tick ∧ m.executes = true)) (kept : op.forgets = false) :
    (m.perform op).atBreakpoint = true := by
  cases op with
  | tick =>
    rcases m.tick_cases with ⟨executes, _⟩ | ⟨_, ticked⟩ | ⟨_, _, ticked⟩
    · exact absurd ⟨rfl, executes⟩ parked
    · rw [perform, ticked]
    · rw [perform, ticked, remembers]
  | setBreakpoint addr =>
    cases addr with
    | none => contradiction
    | some addr => simp [perform, setBreakpoint, remembers]
  | reset wipe => contradiction
  | step => exact remembers
  | setRunning running => exact remembers
  | setPc addr => exact remembers
  | writeByte space addr value => exact remembers
  | writeRegister index value => exact remembers
  | takeHit => exact remembers

/-- Only a reset and a change of the breakpoint itself change the breakpoint. -/
theorem breakpoint_perform (kept : op.forgets = false) (unset : op.setsBreakpoint = false) :
    (m.perform op).breakpoint = m.breakpoint := by
  cases op with
  | tick => exact m.breakpoint_tick
  | setBreakpoint addr => cases addr <;> contradiction
  | reset wipe => contradiction
  | step => rfl
  | setRunning running => rfl
  | setPc addr => rfl
  | writeByte space addr value => rfl
  | writeRegister index value => rfl
  | takeHit => rfl

/-! ### Histories of halts -/

/-- What a machine remembers is a halt that stands. -/
theorem exists_haltStands (fresh : m.atBreakpoint = false)
    (remembers : (m.before history k).atBreakpoint = true) : ∃ j, m.HaltStands history j k := by
  induction k with
  | zero => exact absurd remembers (by simp [before, fresh])
  | succ k ih =>
    -- A halt that stands before operation `k` still stands behind it if `k` does not undo it.
    have extend (earlier : ∃ j, m.HaltStands history j k) (parked : ¬m.ExecutesAt history k)
        (kept : ∀ op ∈ history[k]?, op.forgets = false) : ∃ j, m.HaltStands history j (k + 1) := by
      obtain ⟨j, stands⟩ := earlier
      refine ⟨j, Nat.lt_succ_of_lt stands.before, stands.halts, ?_, ?_⟩
      · intro i after upTo
        rcases Nat.lt_succ_iff_lt_or_eq.mp upTo with inside | rfl
        · exact stands.parked i after inside
        · exact parked
      · intro i after upTo
        rcases Nat.lt_succ_iff_lt_or_eq.mp upTo with inside | rfl
        · exact stands.kept i after inside
        · exact kept
    cases present : history[k]? with
    | none =>
      rw [before_succ_of_end present] at remembers
      exact extend (ih remembers) (by simp [ExecutesAt, present]) (by simp [present])
    | some op =>
      rw [before_succ present] at remembers
      rcases atBreakpoint_perform remembers with ⟨rfl, stops⟩ | ⟨remembered, parked, kept⟩
      · refine ⟨k, Nat.lt_succ_self k, ⟨present, stops⟩, ?_, ?_⟩
        · intro i after upTo
          omega
        · intro i after upTo
          omega
      · refine extend (ih remembered) ?_ (by simp [present, kept])
        rintro ⟨ticks, executes⟩
        rw [present, Option.some.injEq] at ticks
        exact parked ⟨ticks, executes⟩

theorem stops_iff : m.stops = true ↔
    (m.running || m.stepPending) = true ∧ m.breakpoint = some m.cpu.pc ∧ m.atBreakpoint = false := by
  rw [stops, Bool.and_eq_true, halts_iff]

/-- As long as a halt stands, the machine remembers it. -/
theorem HaltStands.remembers {i : Nat} (stands : m.HaltStands history j k) (after : j < i) (upTo : i ≤ k) :
    (m.before history i).atBreakpoint = true := by
  induction i with
  | zero => omega
  | succ i ih =>
    rcases Nat.lt_succ_iff_lt_or_eq.mp after with later | rfl
    · have remembered := ih later (by omega)
      cases present : history[i]? with
      | none => rwa [before_succ_of_end present]
      | some op =>
        rw [before_succ present]
        apply atBreakpoint_perform_of_kept remembered
        · rintro ⟨rfl, executes⟩
          exact stands.parked i later upTo ⟨present, executes⟩
        · exact stands.kept i later upTo op (by simp [present])
    · obtain ⟨ticks, stops⟩ := stands.halts
      rw [before_succ ticks, perform]
      rcases (m.before history j).tick_cases with ⟨executes, _⟩ | ⟨_, ticked⟩ | ⟨_, idle, _⟩
      · simp only [Machine.executes, Machine.stops, Bool.and_eq_true, Bool.not_eq_true'] at executes stops
        exact absurd (executes.2.symm.trans stops.2) Bool.false_ne_true
      · rw [ticked]
      · exact absurd (idle.symm.trans stops) Bool.false_ne_true

/-- Only one halt stands at a time, as a machine that remembers a halt does not halt again. -/
theorem HaltStands.unique {j' : Nat} (stands : m.HaltStands history j k)
    (stands' : m.HaltStands history j' k) : j = j' := by
  have excluded {i l : Nat} (stands : m.HaltStands history i k) (stands' : m.HaltStands history l k) :
      ¬i < l := by
    intro later
    have remembers := stands.remembers later (Nat.le_of_lt stands'.before)
    have fresh := (stops_iff.mp stands'.halts.2).2.2
    exact absurd (remembers.symm.trans fresh) (by decide)
  exact Nat.le_antisymm (Nat.not_lt.mp (excluded stands' stands)) (Nat.not_lt.mp (excluded stands stands'))

/-- While a halt stands and the breakpoint is not set again, it stays where it was. -/
theorem HaltStands.breakpoint_eq {i : Nat} (stands : m.HaltStands history j k)
    (unset : ¬SetsBetween history j k) (after : j < i) (upTo : i ≤ k) :
    (m.before history i).breakpoint = (m.before history j).breakpoint := by
  induction i with
  | zero => omega
  | succ i ih =>
    rcases Nat.lt_succ_iff_lt_or_eq.mp after with later | rfl
    · rw [← ih later (by omega)]
      cases present : history[i]? with
      | none => rw [before_succ_of_end present]
      | some op =>
        rw [before_succ present]
        apply breakpoint_perform (stands.kept i later upTo op (by simp [present]))
        rw [← Bool.not_eq_true]
        intro sets
        exact unset ⟨i, later, upTo, op, by simp [present], sets⟩
    · rw [before_succ stands.halts.1]
      exact breakpoint_tick _

/-! ### Executing at the breakpoint -/

/-- Whatever is asked of a machine, when a tick executes the instruction at the breakpoint, an earlier tick
has halted and nothing has undone that halt. It was a halt here, at this breakpoint, exactly if the
breakpoint was not set again in between. -/
theorem executes_at_breakpoint (codeSize externalSize upperSize : Nat) (history : List Operation) (k : Nat)
    (executes : (Machine.new codeSize externalSize upperSize).ExecutesAt history k)
    (here : ((Machine.new codeSize externalSize upperSize).before history k).breakpoint =
      some ((Machine.new codeSize externalSize upperSize).before history k).cpu.pc) :
    ∃ j, (Machine.new codeSize externalSize upperSize).HaltStands history j k ∧
      ((Machine.new codeSize externalSize upperSize).HaltedHere history k ↔ ¬SetsBetween history j k) := by
  generalize new : Machine.new codeSize externalSize upperSize = m at executes here ⊢
  have fresh : m.atBreakpoint = false := by
    rw [← new]
    rfl
  -- At the breakpoint only a machine that remembers a halt executes.
  have remembers : (m.before history k).atBreakpoint = true := by
    have runs : (m.before history k).halts = false := by
      have both := executes.2
      rw [Machine.executes, Bool.and_eq_true, Bool.not_eq_true'] at both
      exact both.2
    rw [← Bool.not_eq_false]
    intro forgotten
    have halts := halts_iff.mpr ⟨here, forgotten⟩
    exact absurd (runs.symm.trans halts) Bool.false_ne_true
  obtain ⟨j, stands⟩ := exists_haltStands fresh remembers
  refine ⟨j, stands, ?_, ?_⟩
  · rintro ⟨j', stands', unset, _, _⟩
    rwa [stands.unique stands']
  · intro unset
    have same := stands.breakpoint_eq unset stands.before (Nat.le_refl k)
    have stood := (stops_iff.mp stands.halts.2).2.1
    rw [here, stood, Option.some.injEq] at same
    exact ⟨j, stands, unset, same.symm, by rw [stood, here, same]⟩

/-- A machine that halted at address 0 is resumed there. -/
theorem executes_at_breakpoint_resumed :
    let m := Machine.new 4 0 0
    let history := [.setBreakpoint (some 0), .setRunning true, .tick, .takeHit, .setRunning true, .tick]
    m.ExecutesAt history 5 ∧ (m.before history 5).breakpoint = some (m.before history 5).cpu.pc ∧
      ∃ j, m.HaltStands history j 5 ∧ (m.HaltedHere history 5 ↔ ¬SetsBetween history j 5) :=
  ⟨by decide, by decide, executes_at_breakpoint 4 0 0 _ 5 (by decide) (by decide)⟩

/-- A machine that halted at address 0 runs over a breakpoint that is then set to address 1: it executes the
instruction there, although no tick has halted at that address. -/
theorem executes_at_moved_breakpoint :
    let m := Machine.new 16 0 0
    let history := [.setBreakpoint (some 0), .setRunning true, .tick, .setBreakpoint (some 1), .setPc 1,
      .setRunning true, .tick]
    m.ExecutesAt history 6 ∧ (m.before history 6).breakpoint = some (m.before history 6).cpu.pc ∧
      ¬m.HaltedHere history 6 := by
  intro m history
  refine ⟨by decide, by decide, ?_⟩
  rintro ⟨j, stands, _, same, _⟩
  -- The only tick before the last one came to address 0.
  have elsewhere : ∀ j < 6, m.HaltsAt history j → (m.before history j).cpu.pc ≠ (m.before history 6).cpu.pc := by
    decide
  exact elsewhere j stands.before stands.halts same

end Mcs51.Machine
