import Mathlib.Data.List.DropRight
import Mcs51.Proofs.Screen.Printing

/-! # Echo draws and does nothing else

While a line is captured, the bytes that are pushed make up the line, with and without echo: the glyphs of those
behind the last STX that join a line (`lineGlyphs`). Echo decides what of it is drawn. Without it nothing is, apart
from STX (`echo_only_draws`).
-/

namespace Mcs51

/-! ### The line -/

/-- Whether a byte joins a captured line: it is a space or no control code. -/
def joinsLine (byte : UInt8) : Bool :=
  Control.ofByte? byte = none ∨ Control.ofByte? byte = some .space

/-- The captured line of bytes that were typed: the glyphs of those behind the last STX that join a line. -/
def lineGlyphs (bytes : List UInt8) : List Char :=
  ((bytes.rtakeWhile (· ≠ Control.stx.byte)).filter joinsLine).map Codepage.decode

theorem lineGlyphs_append_stx (bytes : List UInt8) : lineGlyphs (bytes ++ [Control.stx.byte]) = [] := by
  rw [lineGlyphs, List.rtakeWhile_concat_neg]
  · rfl
  · simp

theorem lineGlyphs_append {byte : UInt8} (other : byte ≠ Control.stx.byte) (bytes : List UInt8) :
    lineGlyphs (bytes ++ [byte]) =
      lineGlyphs bytes ++ if joinsLine byte then [Codepage.decode byte] else [] := by
  rw [lineGlyphs, List.rtakeWhile_concat, if_pos (decide_eq_true other), List.filter_append, List.map_append,
    lineGlyphs]
  cases joins : joinsLine byte <;> simp [joins]

/-- The line that goes on with typed bytes: an STX among them drops what was captured before. -/
def lineFrom (earlier : List Char) (bytes : List UInt8) : List Char :=
  (if Control.stx.byte ∈ bytes then [] else earlier) ++ lineGlyphs bytes

/-- Another byte leaves it as it is whether there is an STX. -/
theorem stx_mem_append {byte : UInt8} (other : byte ≠ Control.stx.byte) (bytes : List UInt8) :
    Control.stx.byte ∈ bytes ++ [byte] ↔ Control.stx.byte ∈ bytes := by
  rw [List.mem_append, List.mem_singleton, or_iff_left (Ne.symm other)]

theorem lineFrom_append_stx (earlier : List Char) (bytes : List UInt8) :
    lineFrom earlier (bytes ++ [Control.stx.byte]) = [] := by
  rw [lineFrom, if_pos (List.mem_append_right _ (List.mem_singleton_self _)), lineGlyphs_append_stx]
  rfl

theorem lineFrom_append {byte : UInt8} (other : byte ≠ Control.stx.byte) (earlier : List Char) (bytes : List UInt8) :
    lineFrom earlier (bytes ++ [byte]) =
      lineFrom earlier bytes ++ if joinsLine byte then [Codepage.decode byte] else [] := by
  simp only [lineFrom, stx_mem_append other, lineGlyphs_append other, List.append_assoc]

/-- A line that was typed all along is that of all bytes together. -/
theorem lineFrom_lineGlyphs (typed bytes : List UInt8) :
    lineFrom (lineGlyphs typed) bytes = lineGlyphs (typed ++ bytes) := by
  induction bytes using List.reverseRecOn with
  | nil => simp [lineFrom, lineGlyphs]
  | append_singleton bytes byte ih =>
    rw [← List.append_assoc]
    by_cases stx : byte = Control.stx.byte
    · rw [stx, lineFrom_append_stx, lineGlyphs_append_stx]
    · rw [lineFrom_append stx, lineGlyphs_append stx, ih]

theorem Control.eq_byte_of_ofByte? {byte : UInt8} {code : Control} (found : ofByte? byte = some code) :
    byte = code.byte := by
  have same := List.find?_some found
  exact (eq_of_beq same).symm

namespace Session

variable {s : Session} {bytes : List UInt8} {byte : UInt8}

/-- During a capture a byte other than a line feed starts the line anew, joins it or is dropped. -/
theorem Signal.ofByte?_eq (noFeed : byte ≠ Control.lineFeed.byte) :
    Signal.ofByte? byte =
      if byte = Control.stx.byte then some .start
      else if joinsLine byte then some (.glyph (Codepage.decode byte))
      else none := by
  unfold ofByte? joinsLine
  cases found : Control.ofByte? byte with
  | none =>
    have other : byte ≠ Control.stx.byte := by
      rintro rfl
      exact absurd found (by decide)
    simp [other]
  | some code =>
    obtain rfl := Control.eq_byte_of_ofByte? found
    cases code with
    | lineFeed => contradiction
    | _ => rfl

/-! ### Pushed bytes -/

/-- A session after bytes were pushed. -/
def pushAll (s : Session) (bytes : List UInt8) : Session :=
  bytes.foldl push s

theorem pushAll_concat (s : Session) (bytes : List UInt8) (byte : UInt8) :
    s.pushAll (bytes ++ [byte]) = (s.pushAll bytes).push byte := by
  rw [pushAll, List.foldl_append]
  rfl

/-- Pushing into a line changes the screen and the capture of lines only. -/
theorem captureByte_eq (s : Session) (byte : UInt8) :
    s.captureByte byte =
      { s with grid := (s.captureByte byte).grid }.withCapture (s.captureByte byte).toCapture := by
  unfold captureByte
  split
  · rw [printControl_eq]
    rfl
  · rw [printControl_eq]
    rfl
  · split
    · rw [printChar_eq]
      rfl
    · rfl
  · split
    · rw [printChar_eq]
      rfl
    · rfl
  · rfl

/-- The capture of lines once bytes went on with an open line. -/
def captureAfter (s : Session) (bytes : List UInt8) : Capture where
  capturing := true
  captured := (lineFrom s.captured.reverse bytes).reverse
  lineReady := s.lineReady && !decide (Control.stx.byte ∈ bytes)

private theorem captureAfter_nil (capturing : s.capturing = true) : s.captureAfter [] = s.toCapture := by
  simp [captureAfter, toCapture, lineFrom, lineGlyphs, capturing]

private theorem captureAfter_append (noFeed : byte ≠ Control.lineFeed.byte) (s : Session) (bytes : List UInt8) :
    s.captureAfter (bytes ++ [byte]) = (Signal.ofByte? byte).toList.foldl Capture.hear (s.captureAfter bytes) := by
  rw [Signal.ofByte?_eq noFeed]
  split
  case isTrue stx =>
    subst stx
    simp [captureAfter, Capture.hear, lineFrom_append_stx]
  case isFalse other =>
    cases joins : joinsLine byte <;>
      simp [captureAfter, Capture.hear, lineFrom_append other, stx_mem_append other, joins]

/-- Bytes without a line feed go on with the line, which stays open. -/
theorem toCapture_pushAll (capturing : s.capturing = true) (noFeed : Control.lineFeed.byte ∉ bytes) :
    (s.pushAll bytes).toCapture = s.captureAfter bytes := by
  induction bytes using List.reverseRecOn with
  | nil => exact (captureAfter_nil capturing).symm
  | append_singleton bytes byte ih =>
    rw [List.mem_append, List.mem_singleton, not_or] at noFeed
    have before := ih noFeed.1
    have opened : (s.pushAll bytes).capturing = true := congrArg Capture.capturing before
    rw [pushAll_concat, push, if_pos opened, toCapture_captureByte opened, before,
      captureAfter_append (Ne.symm noFeed.2)]

theorem capturing_pushAll (capturing : s.capturing = true) (noFeed : Control.lineFeed.byte ∉ bytes) :
    (s.pushAll bytes).capturing = true :=
  congrArg Capture.capturing (toCapture_pushAll capturing noFeed)

/-- So the next byte goes to the line, too. -/
theorem pushAll_concat_of_open (capturing : s.capturing = true) (noFeed : Control.lineFeed.byte ∉ bytes)
    (byte : UInt8) : s.pushAll (bytes ++ [byte]) = (s.pushAll bytes).captureByte byte := by
  rw [pushAll_concat, push, if_pos (capturing_pushAll capturing noFeed)]

/-- They change nothing beside the screen and the capture of lines. -/
theorem frame_pushAll (capturing : s.capturing = true) (noFeed : Control.lineFeed.byte ∉ bytes) (grid : Grid)
    (v : Capture) : { s.pushAll bytes with grid }.withCapture v = { s with grid }.withCapture v := by
  induction bytes using List.reverseRecOn with
  | nil => rfl
  | append_singleton bytes byte ih =>
    rw [List.mem_append, List.mem_singleton, not_or] at noFeed
    rw [← ih noFeed.1, pushAll_concat_of_open capturing noFeed.1, captureByte_eq]
    rfl

/-- Without echo, a typed byte other than a line feed begins a new line, joins the line or is dropped. -/
theorem captureByte_of_mute (mute : s.echo = false) {byte : UInt8} (noFeed : byte ≠ Control.lineFeed.byte) :
    s.captureByte byte =
      if byte = Control.stx.byte then s.printControl .stx
      else if joinsLine byte then s.capture (Codepage.decode byte)
      else s := by
  unfold captureByte joinsLine
  cases found : Control.ofByte? byte with
  | none =>
    have other : byte ≠ Control.stx.byte := by
      rintro rfl
      exact absurd found (by decide)
    simp [mute, other]
  | some code =>
    have same := Control.eq_byte_of_ofByte? found
    subst same
    cases code with
    | stx => rfl
    | lineFeed => contradiction
    | space => simp [mute, Control.byte]
    | _ => simp [Control.byte]

/-- Without echo, of the bytes of a line only STX is drawn. -/
theorem grid_pushAll_of_mute (capturing : s.capturing = true) (mute : s.echo = false)
    (noFeed : Control.lineFeed.byte ∉ bytes) :
    (s.pushAll bytes).grid =
      s.grid.putAll (List.replicate (bytes.count Control.stx.byte) Control.stx.byte) := by
  induction bytes using List.reverseRecOn with
  | nil => rfl
  | append_singleton bytes byte ih =>
    rw [List.mem_append, List.mem_singleton, not_or] at noFeed
    have muted : (s.pushAll bytes).echo = false :=
      (congrArg Session.echo (frame_pushAll capturing noFeed.1 s.grid s.toCapture)).trans mute
    rw [pushAll_concat_of_open capturing noFeed.1, captureByte_of_mute muted (Ne.symm noFeed.2),
      List.count_append, List.count_singleton]
    split
    case isTrue stx =>
      rw [stx, beq_self_eq_true, if_pos rfl, List.replicate_succ', Grid.putAll_append, Grid.putAll_singleton,
        ← ih noFeed.1]
      rfl
    case isFalse other =>
      rw [beq_false_of_ne other, if_neg Bool.false_ne_true, Nat.add_zero, ← ih noFeed.1]
      split <;> rfl

/-- The line feed after the bytes ends the line and draws nothing. -/
theorem pushAll_lineFeed (capturing : s.capturing = true) (noFeed : Control.lineFeed.byte ∉ bytes) :
    s.pushAll (bytes ++ [Control.lineFeed.byte]) =
      { s with grid := (s.pushAll bytes).grid.lineFeed }.withCapture
        { capturing := false
          captured := (lineFrom s.captured.reverse bytes).reverse
          lineReady := !(lineFrom s.captured.reverse bytes).isEmpty } := by
  have drawn : ((s.pushAll bytes).captureByte Control.lineFeed.byte).grid = (s.pushAll bytes).grid.lineFeed := by
    change ((s.pushAll bytes).printControl .lineFeed).grid = _
    rw [printControl_eq]
    rfl
  have ended : (s.captureAfter bytes).hear .stop =
      ⟨false, (lineFrom s.captured.reverse bytes).reverse, !(lineFrom s.captured.reverse bytes).isEmpty⟩ := by
    simp [captureAfter, Capture.hear]
  rw [pushAll_concat_of_open capturing noFeed, captureByte_eq, drawn, frame_pushAll capturing noFeed,
    toCapture_captureByte (capturing_pushAll capturing noFeed), toCapture_pushAll capturing noFeed, ← ended]
  rfl

private theorem readLine_withCapture (s : Session) (v : Capture) :
    (s.withCapture v).readLine.1 = if v.lineReady then some (String.ofList v.captured.reverse) else none := by
  unfold readLine withCapture
  dsimp only
  split <;> rfl

/-- With and without echo, bytes that are pushed into a line and ended by a line feed leave the same session but for
what is drawn: the capture is over, no other input waits than before, and the line can be read unless it is empty.
It goes on with what was captured before, up to an STX; in all it is made up of the bytes behind the last STX.
Without echo, only the cells where an STX is drawn change. -/
theorem echo_only_draws (capturing : s.capturing = true) (noFeed : Control.lineFeed.byte ∉ bytes) :
    let ended (echo : Bool) := (s.setEcho echo).pushAll (bytes ++ [Control.lineFeed.byte])
    let line := lineFrom s.captured.reverse bytes
    ended true = { ended false with grid := (ended true).grid, echo := true } ∧
      (∀ echo, (ended echo).capturing = false ∧ (ended echo).pending = s.pending ∧
        (ended echo).readLine.1 = if line = [] then none else some (String.ofList line)) ∧
      (∀ typed, s.captured.reverse = lineGlyphs typed → line = lineGlyphs (typed ++ bytes)) ∧
      ∀ i < Grid.size, (ended false).grid.cells[i]? =
        if s.grid.cursor.val ≤ i ∧ i < s.grid.cursor.val + bytes.count Control.stx.byte then some Control.stx.byte
        else s.grid.cells[i]? := by
  intro ended line
  have result (echo : Bool) : ended echo =
      { s.setEcho echo with grid := ((s.setEcho echo).pushAll bytes).grid.lineFeed }.withCapture
        ⟨false, line.reverse, !line.isEmpty⟩ :=
    @pushAll_lineFeed (s.setEcho echo) bytes capturing noFeed
  refine ⟨?_, ?_, ?_, ?_⟩
  · rw [result, result]
    rfl
  · intro echo
    rw [result]
    refine ⟨rfl, rfl, ?_⟩
    rw [readLine_withCapture, List.reverse_reverse]
    cases line <;> rfl
  · intro typed before
    rw [← lineFrom_lineGlyphs, ← before]
  · intro i inside
    have drawn := @grid_pushAll_of_mute (s.setEcho false) bytes capturing rfl noFeed
    rw [result]
    change (((s.setEcho false).pushAll bytes).grid.lineFeed).cells[i]? = _
    rw [Grid.cells_lineFeed, drawn, Grid.getElem?_cells_putAll_replicate (by decide) _ inside]
    rfl

/-- An STX among the bytes starts the line anew and is drawn behind the first one; a control code is dropped. -/
theorem echo_only_draws_restarted :
    let s := Session.new.printControl .stx
    let bytes : List UInt8 := [0x62, 0x02, 0x11, 0x20, 0x63]
    let ended (echo : Bool) := (s.setEcho echo).pushAll (bytes ++ [0x0A])
    s.capturing = true ∧ 0x0A ∉ bytes ∧
      ended true = { ended false with grid := (ended true).grid, echo := true } ∧
      (ended true).readLine.1 = some " c" ∧ (ended false).readLine.1 = some " c" ∧
      (ended false).grid.cells[1]? = some 0x02 ∧ (ended false).grid.cells[2]? = s.grid.cells[2]? := by
  intro s bytes ended
  have capturing : s.capturing = true := rfl
  have noFeed : 0x0A ∉ bytes := by decide
  have cursor : s.grid.cursor.val = 1 := by decide
  have stx : bytes.count Control.stx.byte = 1 := by decide
  obtain ⟨same, ends, -, cells⟩ := echo_only_draws capturing noFeed
  have line : lineFrom s.captured.reverse bytes = [' ', 'c'] := by decide
  rw [line] at ends
  rw [cursor, stx] at cells
  exact ⟨capturing, noFeed, same, (ends true).2.2, (ends false).2.2, cells 1 (by decide), cells 2 (by decide)⟩

end Session

end Mcs51
