import Mcs51.Proofs.Console.Ledger
import Mcs51.Proofs.Isa.Width
import Mcs51.Proofs.Machine.Listing

/-! # The line of disassembly

The line of disassembly has a fixed width, and a line that was longer would be cut silently. None is: an instruction
of three bytes leaves a column free (`length_disassembly_le`). As the line is ASCII, each of its characters takes one
cell, so the row it is written to and the trail entries that are taken from there hold all of it
(`code_line_fits`).
-/

namespace Mcs51

open Codepage Text

/-! ### The line -/

namespace Machine

variable (m : Machine) (addr : UInt16)

/-- An opcode column: a byte of the instruction in hex, blank past its end. -/
def opcodeColumn (k : Nat) : String :=
  if k < (m.cpu.decode addr).length then byteHex (m.readByte .rom (addr + UInt16.ofNat k).toNat) else "  "

/-- The disassembly of the instruction at an address: the address, its bytes and its text. -/
def disassembly : String :=
  wordHex addr ++ "  " ++ m.opcodeColumn addr 0 ++ " " ++ m.opcodeColumn addr 1 ++ " " ++ m.opcodeColumn addr 2 ++
    "  " ++ (m.cpu.decode addr).text

private theorem opcodeText_list (k : Nat) : Console.opcodeText (m.list addr).opcodes k = m.opcodeColumn addr k := by
  rw [Console.opcodeText, opcodeColumn]
  split
  · rename_i inside
    rw [m.getElem?_opcodes addr inside]
    rfl
  · rename_i outside
    rw [List.getElem?_eq_none]
    · rfl
    · rw [length_opcodes]
      exact Nat.le_of_not_lt outside

private theorem listingText_list : Console.listingText (m.list addr) = m.disassembly addr := by
  simp only [Console.listingText, opcodeText_list, disassembly]
  rfl

private theorem length_opcodeColumn (k : Nat) : (m.opcodeColumn addr k).length = 2 := by
  unfold opcodeColumn
  split
  · exact length_byteHex _
  · decide

private theorem length_disassembly : (m.disassembly addr).length = 16 + (m.cpu.decode addr).text.length := by
  have one : (" " : String).length = 1 := by decide
  have two : ("  " : String).length = 2 := by decide
  simp only [disassembly, String.length_append, length_wordHex, length_opcodeColumn, one, two]

/-- The widest line leaves a column free. -/
theorem length_disassembly_le : (m.disassembly addr).length ≤ 37 := by
  have text := (m.cpu.decode addr).length_text_le
  have bytes : (m.cpu.decode addr).length ≤ 3 := Instruction.length_decode_le m.cpu.fetch addr
  rw [length_disassembly]
  omega

end Machine

namespace Console

variable {c d : Console} {frames : List Console}

theorem length_codeLine (c : Console) : c.codeLine.length = codeWidth :=
  length_fit _ _

/-- The line is the whole disassembly and nothing else but blanks. -/
theorem codeLine_eq (c : Console) :
    c.codeLine = c.machine.disassembly c.machine.cpu.pc ++
      spaces (codeWidth - (c.machine.disassembly c.machine.cpu.pc).length) := by
  rw [codeLine, Machine.listingText_list, fit_of_length_le]
  exact Nat.le_succ_of_le (c.machine.length_disassembly_le _)

/-! ### The grid of the line -/

/-- The grid that the line is written to. -/
def codeGrid (c : Console) : DataGrid :=
  c.panels.code.live

theorem Redrawn.codeGrid (redrawn : Redrawn c d) : d.codeGrid = c.codeGrid := by
  obtain ⟨_, _, _, _, _, rfl⟩ := redrawn
  rfl

theorem codeGrid_mapFocused (c : Console) (f : DataGrid → DataGrid) : (c.mapFocused f).codeGrid = c.codeGrid := by
  unfold mapFocused codeGrid
  cases c.focus <;> rfl

theorem codeGrid_enter (c : Console) (focus : Focus) : (c.enter focus).codeGrid = c.codeGrid :=
  (redrawn_redraw _).codeGrid.trans (codeGrid_mapFocused { c with focus } DataGrid.resetCursor)

private theorem codeGrid_toggleRun (c : Console) : c.toggleRun.codeGrid = c.codeGrid := by
  have left : (if c.focus = .addressInput then c.enter .memory else c).codeGrid = c.codeGrid := by
    split
    · exact c.codeGrid_enter .memory
    · rfl
  exact (redrawn_clearMessage _).codeGrid.trans left

private theorem codeGrid_toggleAddressInput (c : Console) : c.toggleAddressInput.codeGrid = c.codeGrid := by
  unfold toggleAddressInput
  split
  · exact c.codeGrid_enter .memory
  · exact codeGrid_enter _ .addressInput

private theorem codeGrid_go (c : Console) : c.go.codeGrid = c.codeGrid := by
  unfold go
  split
  · exact (redrawn_showMessage _ _).codeGrid
  · rfl

private theorem codeGrid_toggleBreakpoint (c : Console) : c.toggleBreakpoint.codeGrid = c.codeGrid := by
  unfold toggleBreakpoint
  split
  · split
    · exact (redrawn_showMessage _ _).codeGrid
    · exact (redrawn_showMessage _ _).codeGrid
  · rfl

private theorem codeGrid_move (c : Console) (direction : Direction) : (c.move direction).codeGrid = c.codeGrid := by
  unfold move
  split
  · exact c.codeGrid_mapFocused _
  · split
    · exact c.codeGrid_enter _
    · exact c.codeGrid_enter _
    · rfl
    · split <;> rfl
    · rfl

/-- What a command does to the grid: only a wipe writes to it. -/
def obeyCode (c : Console) : Command → DataGrid
  | .wipe => c.codeGrid.clear.setRow 0 Panels.codePlaceholder
  | _ => c.codeGrid

private theorem codeGrid_run (c : Console) (command : Command) : (c.run command).codeGrid = c.obeyCode command := by
  cases command with
  | switchMemory => exact (redrawn_redraw _).codeGrid
  | toggleRun => exact c.codeGrid_toggleRun
  | toggleAddressInput => exact c.codeGrid_toggleAddressInput
  | go => exact c.codeGrid_go
  | toggleBreakpoint => exact c.codeGrid_toggleBreakpoint
  | toggleAscii => exact (redrawn_redraw _).codeGrid
  | move direction => exact c.codeGrid_move direction
  | cycleFocus => exact c.codeGrid_enter _
  | step | faster | slower | reset | wipe | digit => rfl

private theorem codeGrid_commitDigit (c : Console) (digit : Fin 16) : (c.commitDigit digit).codeGrid = c.codeGrid := by
  have written (d : Console) (target : EditTarget) (value : UInt8) :
      (d.writeTarget target value).codeGrid = d.codeGrid := by
    cases target <;> rfl
  unfold commitDigit
  split
  · rfl
  · dsimp only
    split
    · exact (codeGrid_mapFocused _ _).trans (written _ _ _)
    · exact written _ _ _

private theorem obeys_codeGrid : Obeys codeGrid obeyCode where
  run := codeGrid_run
  edited _ _ := ⟨rfl, rfl⟩
  commitDigit := codeGrid_commitDigit

/-- A frame writes the line to its grid. -/
theorem codeGrid_ready (c : Console) (time : Float) :
    (c.ready time).codeGrid = c.codeGrid.setRow 0 (encode c.codeLine) := by
  obtain ⟨_, _, _, _, _, same⟩ := c.ready_eq time
  rw [same]
  change c.refresh.panels.code.live = _
  rw [refresh]
  dsimp only
  split <;> rfl

private theorem codeGrid_clockTicks (c : Console) (ticks : Nat) : (c.clockTicks ticks).codeGrid = c.codeGrid := by
  induction ticks generalizing c with
  | zero => rfl
  | succ ticks ih =>
    obtain ⟨_, next⟩ := c.clockTick_drawn
    rw [clockTicks, ih, next]
    rfl

private theorem codeGrid_after (c : Console) {event : Event} (between : ∀ time, event ≠ .frame time) :
    (c.after event).codeGrid = c.codeGrid := by
  cases event with
  | push byte => rfl
  | control code => rfl
  | clock now => exact codeGrid_clockTicks _ _
  | frame time => exact absurd rfl (between time)

/-! ### The live row -/

theorem liveRow_code (c : Console) : c.liveRow .code = c.codeGrid.row 0 := rfl

/-- A row that fills the grid is in it afterwards. -/
theorem row_setRow_codeGrid {g : DataGrid} (rows : g.surface.rows = 1) (cols : g.surface.cols = codeWidth)
    {bytes : List UInt8} (full : bytes.length = codeWidth) : (g.setRow 0 bytes).row 0 = bytes := by
  change (g.surface.setRowsFrom 0 [bytes]).row 0 = bytes
  apply Surface.row_setRowsFrom
  · rw [rows]
    exact Nat.one_pos
  · rfl
  · rw [cols, full]

theorem liveRow_tick (poised : c.Poised) (time : Float) :
    (c.tick time).liveRow .code =
      if c.session.pending.bind Command.ofByte? = some .wipe then Panels.codePlaceholder else encode c.codeLine := by
  have full : (encode c.codeLine).length = codeWidth := by rw [length_encode, length_codeLine]
  have sized := poised.editable.wellFormed.sized .code
  have written : (c.ready time).codeGrid.row 0 = encode c.codeLine := by
    rw [codeGrid_ready]
    exact row_setRow_codeGrid sized.liveRows sized.liveCols full
  rw [liveRow_code, obeys_codeGrid.tick poised, ← written]
  cases c.session.pending.bind Command.ofByte? with
  | none => rfl
  | some command =>
    cases command with
    | wipe =>
      have ready := (poised_ready poised time).editable.wellFormed.sized .code
      have length := Panels.length_codePlaceholder
      rw [if_pos rfl, Option.elim_some, obeyCode]
      generalize Panels.codePlaceholder = line at length ⊢
      exact @row_setRow_codeGrid (c.ready time).codeGrid.clear ready.liveRows ready.liveCols line length
    | _ => rfl

private theorem liveRow_new (machine : Machine) (clock : Clock) :
    (Console.new machine clock).liveRow .code = Panels.codePlaceholder := by
  have drawn : (Console.new machine clock).codeGrid = (Panels.new Space.lower.title).code.live :=
    (redrawn_redraw _).codeGrid
  rw [liveRow_code, drawn]
  exact row_setRow_codeGrid rfl rfl Panels.length_codePlaceholder

/-! ### Frame by frame -/

/-- The consoles that come about from a new one by events and by operations on its machine from outside, each with
the consoles that were drawn as frames since the last wipe, latest first. -/
inductive Framed : Console → List Console → Prop
  | new (machine : Machine) (clock : Clock) : Framed (Console.new machine clock) []
  | frame {c : Console} {frames : List Console} (framed : Framed c frames) (time : Float)
      (keeps : c.session.pending.bind Command.ofByte? ≠ some .wipe) : Framed (c.tick time) (c :: frames)
  | wipe {c : Console} {frames : List Console} (framed : Framed c frames) (time : Float)
      (wipes : c.session.pending.bind Command.ofByte? = some .wipe) : Framed (c.tick time) []
  | between {c : Console} {frames : List Console} (framed : Framed c frames) (event : Event)
      (between : ∀ time, event ≠ .frame time) : Framed (c.after event) frames
  | operate {c : Console} {frames : List Console} (framed : Framed c frames) (machine : Machine) :
    Framed { c with machine } frames

theorem Framed.poised (framed : Framed c frames) : c.Poised := by
  induction framed with
  | new machine clock => exact (rested_new machine clock).poised
  | frame _ time _ ih => exact poised_tick ih time
  | wipe _ time _ ih => exact poised_tick ih time
  | between _ event _ ih => exact poised_after ih event
  | @operate c _ _ machine ih => exact ih.setMachine machine c.clock c.elapsedMs

/-- What the live row holds after frames: the line of the latest one, or the placeholder if there was none. -/
def latestRow : List Console → List UInt8
  | [] => Panels.codePlaceholder
  | d :: _ => encode d.codeLine

/-- Whether a row holds the line of one of these frames, or the placeholder. -/
def HoldsLineOf (frames : List Console) (row : List UInt8) : Prop :=
  row = Panels.codePlaceholder ∨ ∃ d ∈ frames, row = encode d.codeLine

private theorem holdsLineOf_latestRow (frames : List Console) : HoldsLineOf frames (latestRow frames) := by
  cases frames with
  | nil => exact .inl rfl
  | cons d rest => exact .inr ⟨d, List.mem_cons_self .., rfl⟩

theorem HoldsLineOf.cons {row : List UInt8} (holds : HoldsLineOf frames row) (c : Console) :
    HoldsLineOf (c :: frames) row :=
  holds.imp_right fun ⟨d, present, same⟩ => ⟨d, List.mem_cons_of_mem _ present, same⟩

/-- The live row holds the line of the latest frame, and the trail holds lines of frames. -/
structure Disassembles (c : Console) (frames : List Console) : Prop where
  live : c.liveRow .code = latestRow frames
  trail : ∀ row ∈ (c.panels.trail .code).entries, HoldsLineOf frames row

/-- A frame appends the row of the frame before, and then writes its own line. -/
theorem disassembles_frame (holds : c.Disassembles frames) (poised : c.Poised) (time : Float)
    (keeps : c.session.pending.bind Command.ofByte? ≠ some .wipe) :
    (c.tick time).Disassembles (c :: frames) where
  live := by rw [liveRow_tick poised, if_neg keeps, latestRow]
  trail row member := by
    apply HoldsLineOf.cons
    rw [entries_tick poised, if_neg keeps] at member
    split at member
    · rcases List.mem_append.mp member with old | new
      · exact holds.trail row (List.mem_of_mem_drop old)
      · rw [List.mem_singleton.mp new, holds.live]
        exact holdsLineOf_latestRow frames
    · exact holds.trail row member

private theorem disassembles_wipe (poised : c.Poised) (time : Float)
    (wipes : c.session.pending.bind Command.ofByte? = some .wipe) : (c.tick time).Disassembles [] where
  live := by rw [liveRow_tick poised, if_pos wipes, latestRow]
  trail row member := by
    rw [entries_tick poised, if_pos wipes] at member
    exact .inl (List.eq_of_mem_replicate member)

private theorem Framed.disassembles (framed : Framed c frames) : c.Disassembles frames := by
  induction framed with
  | new machine clock =>
    refine ⟨liveRow_new machine clock, fun row member => ?_⟩
    rw [entries_new] at member
    exact .inl (List.eq_of_mem_replicate member)
  | frame framed time keeps ih => exact disassembles_frame ih framed.poised time keeps
  | wipe framed time wipes _ => exact disassembles_wipe framed.poised time wipes
  | @between c _ _ event between ih =>
    have live : (c.after event).liveRow .code = c.liveRow .code :=
      congrArg (DataGrid.row · 0) (c.codeGrid_after between)
    have trail : (c.after event).panels.trail .code = c.panels.trail .code :=
      congrFun (congrArg Past.trail (past_after c between)) .code
    refine ⟨live.trans ih.live, ?_⟩
    rw [trail]
    exact ih.trail
  | operate _ machine ih => exact ⟨ih.live, ih.trail⟩

/-- The line of disassembly always fits. Whatever the machine holds, the line is the whole disassembly of the
instruction at the program counter and blanks behind it up to 38 characters, all of which are printable ASCII. The
live row then shows all of the line of the latest frame, and so does every row that was taken from there into the
trail. -/
theorem code_line_fits (c : Console) :
    let line := c.machine.disassembly c.machine.cpu.pc
    ((c.machine.cpu.decode c.machine.cpu.pc).length ≤ 3 ∧ line.length ≤ 38 ∧
      c.codeLine = line ++ spaces (38 - line.length) ∧ c.codeLine.length = 38 ∧
      ∀ character ∈ c.codeLine.toList, 0x20 ≤ character.toNat ∧ character.toNat < 0x7F) ∧
    ∀ frames, Framed c frames →
      (c.liveRow .code).length = 38 ∧ (∀ d ∈ frames.head?, decodeAll (c.liveRow .code) = d.codeLine) ∧
      (∀ row ∈ (c.panels.trail .code).entries,
        row = Panels.codePlaceholder ∨ ∃ d ∈ frames, decodeAll row = d.codeLine) ∧
      ∀ time, c.session.pending.bind Command.ofByte? ≠ some .wipe →
        ((c.tick time).panels.trail .code).entries =
          if c.lastCycles < c.machine.cycles then (c.panels.trail .code).entries.drop 1 ++ [c.liveRow .code]
          else (c.panels.trail .code).entries := by
  refine ⟨⟨?_, ?_, c.codeLine_eq, c.length_codeLine, c.printable_codeLine⟩, fun frames framed => ?_⟩
  · exact Instruction.length_decode_le c.machine.cpu.fetch _
  · exact Nat.le_succ_of_le (c.machine.length_disassembly_le _)
  · have holds := framed.disassembles
    refine ⟨framed.poised.length_liveRow .code, ?_, ?_, ?_⟩
    · intro d latest
      obtain ⟨rest, rfl⟩ := List.head?_eq_some_iff.mp latest
      rw [holds.live, latestRow, decodeAll_encode d.printable_codeLine]
    · intro row member
      rcases holds.trail row member with placeholder | ⟨d, present, same⟩
      · exact .inl placeholder
      · refine .inr ⟨d, present, ?_⟩
        rw [same, decodeAll_encode d.printable_codeLine]
    · intro time keeps
      rw [entries_tick framed.poised, if_neg keeps]

/-- An instruction is stepped. The frame behind it takes the row of the frame before into the trail, and shows the
line of the next instruction. -/
theorem code_line_fits_stepped :
    let new := Console.new (Machine.new 16 16 128) (Clock.new .middle 1000)
    let asked := new.after (.push 0x20)
    let stepped := (asked.tick 0.0).after (.clock ⟨0⟩)
    let c := stepped.tick 0.1
    Framed stepped [asked] ∧ Framed c [stepped, asked] ∧
      asked.codeLine = "0000  00        NOP" ++ spaces 19 ∧ stepped.codeLine = "0001  00        NOP" ++ spaces 19 ∧
      decodeAll (stepped.liveRow .code) = asked.codeLine ∧ decodeAll (c.liveRow .code) = stepped.codeLine ∧
      (c.panels.trail .code).entries = (stepped.panels.trail .code).entries.drop 1 ++ [stepped.liveRow .code] := by
  intro new asked stepped c
  obtain ⟨keeps, line⟩ : asked.session.pending.bind Command.ofByte? ≠ some .wipe ∧
      asked.codeLine = "0000  00        NOP" ++ spaces 19 := by decide +kernel
  obtain ⟨keeps', line', executed⟩ : stepped.session.pending.bind Command.ofByte? ≠ some .wipe ∧
      stepped.codeLine = "0001  00        NOP" ++ spaces 19 ∧ stepped.lastCycles < stepped.machine.cycles := by
    decide +kernel
  have pushed : Framed asked [] := .between (.new _ _) (.push 0x20) nofun
  have polled : Framed stepped [asked] := .between (.frame pushed 0.0 keeps) (.clock ⟨0⟩) nofun
  have drawn : Framed c [stepped, asked] := .frame polled 0.1 keeps'
  obtain ⟨_, live, _, appended⟩ := stepped.code_line_fits.2 _ polled
  obtain ⟨_, live', _, _⟩ := c.code_line_fits.2 _ drawn
  have entries := appended 0.1 keeps'
  rw [if_pos executed] at entries
  exact ⟨polled, drawn, line, line', live asked rfl, live' stepped rfl, entries⟩

end Console

end Mcs51
