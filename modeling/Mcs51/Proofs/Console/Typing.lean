import Mcs51.Proofs.Console.Frames
import Mcs51.Proofs.Console.Store

/-! # Typing bytes

Whatever happened to a console before, the digits of bytes that are typed one at a time, with any number of
frames after each, write these bytes from the cursor on and change nothing else (`typed_of_reached`). Two
digits write one byte (`At.byte`), and the bytes follow by induction (`At.bytes`).
-/

namespace Mcs51

open Command (digitKeys)

/-! ### What is typed -/

/-- A key that is typed, with the time of the frame that takes it and the times of the frames after that. -/
structure Stroke where
  key : UInt8
  time : Float
  later : List Float

namespace Stroke

/-- What happens to a console when a key is typed. -/
def events (s : Stroke) : List Console.Event :=
  .push s.key :: .frame s.time :: s.later.map .frame

end Stroke

/-- Whether strokes type the digits of bytes, the high nibble of each byte first. -/
inductive Spells : List Stroke → List UInt8 → Prop
  | nil : Spells [] []
  | cons {first second : Stroke} {byte : UInt8} {strokes : List Stroke} {bytes : List UInt8}
      (high : first.key ∈ digitKeys (Nibble.high.digit byte))
      (low : second.key ∈ digitKeys (Nibble.low.digit byte)) (rest : Spells strokes bytes) :
      Spells (first :: second :: strokes) (byte :: bytes)

/-- The second digit completes what the first one has begun. -/
theorem complete_byte (byte current : UInt8) :
    (UInt8.ofNat (Nibble.high.digit byte) * 16 + current % 16) / 16 * 16 + UInt8.ofNat (Nibble.low.digit byte) =
      byte := by
  have bound := byte.toNat_lt
  apply UInt8.toNat_inj.mp
  simp only [Nibble.digit, UInt8.toNat_add, UInt8.toNat_mul, UInt8.toNat_div, UInt8.toNat_mod, UInt8.toNat_ofNat',
    UInt8.toNat_ofNat, Nat.reducePow, Nat.reduceMod]
  omega

namespace Console

variable {c : Console} {s : Store} {p : Position}

private theorem Position.target_right {n : Nat} (room : p.cursor.col + n < p.cols) :
    (p.right n).target = p.target.shift n := by
  have same : min (p.cursor.col + n) (p.cols - 1) = p.cursor.col + n := by omega
  unfold Position.right Position.target
  rw [same]
  cases p.focus with
  | memory =>
    simp only [EditTarget.shift, EditTarget.memory.injEq, true_and]
    omega
  | _ => rfl

/-! ### Frames -/

theorem replay_append (c : Console) (first second : List Event) :
    c.replay (first ++ second) = (c.replay first).replay second :=
  List.foldl_append

theorem store_ready (c : Console) (time : Float) : (c.ready time).store = c.store := by
  obtain ⟨_, _, _, _, _, same⟩ := c.ready_eq time
  rw [same]
  rfl

private theorem synced_ready (editable : c.panels.Editable) (time : Float) : (c.ready time).Synced := by
  obtain ⟨_, _, _, _, _, same⟩ := c.ready_eq time
  rw [same]
  exact synced_refresh editable

/-- A console that listens, with what is typed into, the nibble that comes next, and the position. -/
structure At (c : Console) (s : Store) (next : Nibble) (p : Position) : Prop where
  listens : c.Listens
  store : c.store = s
  next : c.edit.next = next
  position : c.position = p

private theorem At.col_lt {next : Nibble} (stands : c.At s next p) : p.cursor.col < p.cols := by
  have bounds := cursor_bounds stands.listens.poised.editable c.focus
  rw [← stands.position, ← focused_eq] at *
  exact bounds.2

theorem At.frame {next : Nibble} (stands : c.At s next p) (time : Float) : (c.tick time).At s next p := by
  have listens := stands.listens
  refine ⟨listens_tick listens time, ?_, ?_, ?_⟩
  · rw [tick_of_idle listens.poised listens.idle, store_ready, stands.store]
  · rw [tick_of_idle listens.poised listens.idle, edit_ready]
    exact stands.next
  · rw [tick_of_idle listens.poised listens.idle, position_ready, stands.position]

theorem At.frames {next : Nibble} (stands : c.At s next p) (times : List Float) :
    (c.replay (times.map .frame)).At s next p := by
  induction times generalizing c with
  | nil => exact stands
  | cons time rest ih => exact ih (stands.frame time)

/-! ### Digits -/

/-- The first digit of a byte goes to its high nibble. -/
theorem store_commitDigit_high (editable : c.panels.Editable) (synced : c.Synced) (aimed : c.Aimed)
    (high : c.edit.next = .high) (present : c.pointed.Present c.machine.cpu) (digit : Fin 16) :
    let slot := c.pointed.slot c.machine.cpu
    (c.commitDigit digit).store = c.store.set slot (UInt8.ofNat digit * 16 + c.store.get slot % 16) := by
  rw [commitDigit_high aimed high, readTarget_eq present]
  exact @store_writeTarget (c.turnTo .low 1) editable synced c.pointed present _

/-- The second digit of a byte goes to its low nibble. -/
theorem store_commitDigit_low (editable : c.panels.Editable) (synced : c.Synced) (aimed : c.Aimed)
    (low : c.edit.next = .low) (present : c.pointed.Present c.machine.cpu) (digit : Fin 16) :
    let slot := c.pointed.slot c.machine.cpu
    (c.commitDigit digit).store = c.store.set slot (c.store.get slot / 16 * 16 + UInt8.ofNat digit) := by
  have moved (d : Console) : (d.moveFocused .right).store = d.store := rfl
  rw [commitDigit_low aimed low, readTarget_eq present, moved]
  exact @store_writeTarget (c.turnTo .high (-1)) editable synced c.pointed present _

/-! ### Strokes -/

/-- A key is taken by a console that aims, with a synced data pointer, at the byte where it stood before. -/
theorem At.ready {next : Nibble} (stands : c.At s next p) (key : UInt8) (time : Float) :
    let d := (c.push key).ready time
    d.panels.Editable ∧ d.Synced ∧ d.Aimed ∧ d.edit.next = next ∧ d.store = s ∧ d.pointed = p.target := by
  have pushed := poised_push stands.listens.poised key
  refine ⟨(poised_ready pushed time).editable, synced_ready pushed.editable time, aimed_ready pushed time, ?_, ?_, ?_⟩
  · rw [edit_ready]
    exact stands.next
  · rw [store_ready]
    exact stands.store
  · rw [pointed_congr ((c.push key).position_ready time), ← stands.position]
    rfl

/-- The first digit of a byte goes to its high nibble. -/
theorem At.begin (stands : c.At s .high p) (present : p.target.Present s.machine.cpu) {key : UInt8}
    {value : Fin 16} (digit : key ∈ digitKeys value) (time : Float) :
    let slot := p.target.slot s.machine.cpu
    ((c.push key).tick time).At (s.set slot (UInt8.ofNat value * 16 + s.get slot % 16)) .low p := by
  obtain ⟨low, position⟩ := begun_tick_push stands.listens stands.next digit time
  refine ⟨listens_tick_push stands.listens digit time, ?_, low, position.trans stands.position⟩
  obtain ⟨editable, synced, aimed, next, rfl, pointed⟩ := stands.ready key time
  rw [tick_push stands.listens digit]
  rw [← pointed] at present ⊢
  exact store_commitDigit_high editable synced aimed next present value

/-- The second digit of a byte goes to its low nibble, and the cursor moves on. -/
theorem At.complete (stands : c.At s .low p) (present : p.target.Present s.machine.cpu) {key : UInt8}
    {value : Fin 16} (digit : key ∈ digitKeys value) (time : Float) :
    let slot := p.target.slot s.machine.cpu
    ((c.push key).tick time).At (s.set slot (s.get slot / 16 * 16 + UInt8.ofNat value)) .high (p.right 1) := by
  obtain ⟨high, position⟩ := completed_tick_push stands.listens stands.next digit time
  rw [stands.position] at position
  refine ⟨listens_tick_push stands.listens digit time, ?_, high, position⟩
  obtain ⟨editable, synced, aimed, next, rfl, pointed⟩ := stands.ready key time
  rw [tick_push stands.listens digit]
  rw [← pointed] at present ⊢
  exact store_commitDigit_low editable synced aimed next present value

theorem replay_events (c : Console) (stroke : Stroke) :
    c.replay stroke.events = ((c.push stroke.key).tick stroke.time).replay (stroke.later.map .frame) := rfl

/-- Two digits write a byte. -/
theorem At.byte (stands : c.At s .high p) (present : p.target.Present s.machine.cpu) {first second : Stroke}
    {byte : UInt8} (high : first.key ∈ digitKeys (Nibble.high.digit byte))
    (low : second.key ∈ digitKeys (Nibble.low.digit byte)) :
    (c.replay (first.events ++ second.events)).At (s.set (p.target.slot s.machine.cpu) byte) .high (p.right 1) := by
  let slot := p.target.slot s.machine.cpu
  have begun := (stands.begin present high first.time).frames first.later
  rw [← replay_events] at begun
  -- The slot of a register is found again after the first write: no register holds the bank number.
  have same := EditTarget.slot_shift_set s present (UInt8.ofNat (Nibble.high.digit byte) * 16 + s.get slot % 16) 0
  rw [p.target.shift_zero] at same
  have present' := Store.present_set slot (UInt8.ofNat (Nibble.high.digit byte) * 16 + s.get slot % 16) present
  have completed := (begun.complete present' low second.time).frames second.later
  rw [← replay_events, same, s.get_set_self (EditTarget.has_slot present), s.set_set, complete_byte] at completed
  rw [replay_append]
  exact completed

/-- Bytes are written one after the other. -/
theorem At.bytes (stands : c.At s .high p) {bytes : List UInt8} (room : s.Room p.target bytes.length)
    (fits : p.cursor.col + bytes.length ≤ p.cols) {strokes : List Stroke} (spells : Spells strokes bytes) :
    (c.replay (strokes.flatMap Stroke.events)).At (s.writeBytes p.target bytes) .high (p.right bytes.length) := by
  induction spells generalizing c s p with
  | nil =>
    rw [List.length_nil, Position.right_zero stands.col_lt]
    exact stands
  | @cons first second byte strokes rest high low spells ih =>
    have typed := stands.byte room.head high low
    have events : (first :: second :: strokes).flatMap Stroke.events =
        first.events ++ second.events ++ strokes.flatMap Stroke.events := by
      rw [List.flatMap_cons, List.flatMap_cons, List.append_assoc]
    rw [List.length_cons] at room fits
    have fits' : (p.right 1).cursor.col + rest.length ≤ (p.right 1).cols := by
      change min (p.cursor.col + 1) (p.cols - 1) + rest.length ≤ p.cols
      omega
    rw [events, replay_append, Store.writeBytes, List.length_cons, Nat.add_comm, ← Position.right_right]
    -- Behind the last column there is no next byte, but then none is typed.
    cases rest with
    | nil =>
      exact ih typed (fun _ impossible => absurd impossible (Nat.not_lt_zero _)) fits'
    | cons next others =>
      have moved : (p.right 1).target = p.target.shift 1 := by
        apply Position.target_right
        simp only [List.length_cons] at fits
        omega
      rw [← moved]
      apply ih typed _ fits'
      rw [moved]
      exact room.tail _ byte

/-! ### From any state -/

/-- Whether a console comes from a new one by some history. -/
def Reached (c : Console) : Prop :=
  ∃ machine clock history, c = (Console.new machine clock).replay history

/-- What typing bytes amounts to: the targets from the one that was pointed at hold the bytes; all other bytes of
the memories and of the address input, the sizes of the memories, run control, cycles and program counter are
unchanged; the high nibble comes next, and the cursor is so many cells to the right or in the last column. -/
structure Typed (before after : Console) (bytes : List UInt8) : Prop where
  holds : ∀ i byte, bytes[i]? = some byte → after.readTarget (before.pointed.shift i) = byte
  others : ∀ slot, (∀ i < bytes.length, slot ≠ (before.pointed.shift i).slot before.machine.cpu) →
    after.store.get slot = before.store.get slot
  sizes : ∀ space, after.machine.cpu.spaceSize space = before.machine.cpu.spaceSize space
  control : after.machine = { before.machine with cpu := after.machine.cpu }
  pc : after.machine.cpu.pc = before.machine.cpu.pc
  next : after.edit.next = .high
  position : after.position = before.position.right bytes.length

theorem cols_focused (editable : c.panels.Editable) : c.focused.surface.cols = c.position.cols := by
  rw [focused_eq]
  exact congrArg Surface.Shape.cols (editable.shape_grid c.focus)

/-- Bytes that fit into the row of the cursor have a place each. -/
theorem room_of_fits {count : Nat} (fits : p.cursor.col + count ≤ p.cols)
    (inside : ∀ space addr, p.target = .memory space addr → ∀ i < count, addr + i < s.machine.cpu.spaceSize space) :
    s.Room p.target count := by
  intro i bound
  unfold Position.cols at fits
  unfold Position.target at inside ⊢
  cases focus : p.focus with
  | memory =>
    rw [focus] at inside
    exact inside _ _ rfl i bound
  | registers =>
    rw [focus] at fits
    exact Nat.lt_of_lt_of_le (Nat.add_lt_add_left bound _) fits
  | dataPointer =>
    rw [focus] at fits
    exact Nat.lt_of_lt_of_le (Nat.add_lt_add_left bound _) fits
  | addressInput =>
    rw [focus] at fits
    exact Nat.lt_of_lt_of_le (Nat.add_lt_add_left bound _) fits

/-- Typing hex writes exactly what was typed: from every reachable console that is not capturing, has no input
waiting and has the high nibble next, for every row of bytes that fits, inside the memory if a memory is edited. -/
theorem typed_of_reached (reached : c.Reached) (uncaptured : c.session.capturing = false)
    (idle : c.session.pending = none) (high : c.edit.next = .high) {bytes : List UInt8}
    (fits : c.focused.surface.cursor.col + bytes.length ≤ c.focused.surface.cols)
    (inside : ∀ space addr, c.pointed = .memory space addr →
      ∀ i < bytes.length, addr + i < c.machine.cpu.spaceSize space)
    {strokes : List Stroke} (spells : Spells strokes bytes) :
    Typed c (c.replay (strokes.flatMap Stroke.events)) bytes := by
  obtain ⟨machine, clock, history, same⟩ := reached
  have poised : c.Poised := by
    rw [same]
    exact poised_replay (rested_new machine clock).poised history
  rw [cols_focused poised.editable] at fits
  have room : c.store.Room c.pointed bytes.length := room_of_fits (p := c.position) fits inside
  have stands : c.At c.store .high c.position := ⟨⟨poised, uncaptured, idle⟩, rfl, high, rfl⟩
  obtain ⟨_, store, next, position⟩ := stands.bytes room fits spells
  generalize c.replay (strokes.flatMap Stroke.events) = after at store next position
  obtain ⟨control, pc, sizes⟩ := c.store.machine_writeBytes c.pointed bytes
  have slots := Store.slot_writeBytes room
  have written := @Store.get_writeBytes_inside _ _ _ room
  have outside := @Store.get_writeBytes_of_outside _ _ _ room
  rw [← pointed_eq] at store
  rw [← store] at control pc sizes slots written outside
  refine ⟨?_, fun slot apart => outside apart, sizes, control, pc, next, position⟩
  intro i byte found
  have present := (room i (List.getElem?_eq_some_iff.mp found).1).of_sizes sizes
  rw [readTarget_eq present]
  exact (congrArg _ (slots i)).trans (written found)

/-- Two bytes are typed into the lower RAM, in letters of either case, with idle frames in between. -/
theorem typed_of_reached_twoBytes :
    let c := Console.new (Machine.new 16 16 128) (Clock.new .middle 1000)
    let strokes := [⟨0x31, 0.0, []⟩, ⟨0x66, 0.1, [0.2]⟩, ⟨0x41, 0.3, [0.4, 0.5]⟩, ⟨0x30, 0.6, []⟩]
    Typed c (c.replay (strokes.flatMap Stroke.events)) [0x1F, 0xA0] := by
  have listens := listens_new (Machine.new 16 16 128) (Clock.new .middle 1000)
  have high := (rested_new (Machine.new 16 16 128) (Clock.new .middle 1000)).high
  have position := position_new (Machine.new 16 16 128) (Clock.new .middle 1000)
  intro c strokes
  have fits : c.focused.surface.cursor.col + 2 ≤ c.focused.surface.cols := by
    rw [cols_focused listens.poised.editable]
    change c.position.cursor.col + 2 ≤ c.position.cols
    rw [position]
    decide
  have inside : ∀ space addr, c.pointed = .memory space addr →
      ∀ i < 2, addr + i < c.machine.cpu.spaceSize space := by
    intro space addr pointed i bound
    rw [pointed_eq, show c.position = _ from position] at pointed
    obtain ⟨rfl, rfl⟩ := EditTarget.memory.inj pointed
    have size : c.machine.cpu.spaceSize .lower = 128 := rfl
    change 0 + i < c.machine.cpu.spaceSize .lower
    omega
  have spells : Spells strokes [0x1F, 0xA0] :=
    .cons (by decide) (by decide) (.cons (by decide) (by decide) .nil)
  have reached : c.Reached := ⟨_, _, [], rfl⟩
  exact @typed_of_reached c reached listens.uncaptured listens.idle high [0x1F, 0xA0] fits inside strokes spells

end Console
end Mcs51
