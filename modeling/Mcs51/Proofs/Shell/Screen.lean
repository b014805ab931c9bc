import Mcs51.Proofs.Console.Steady
import Mcs51.Proofs.Screen.Printing
import Mcs51.Proofs.Screen.Showing
import Mcs51.Proofs.Shell.Drawing
import Mcs51.Proofs.Text.Glyphs

/-! # The screen on the terminal

A frame takes the rows of the painted grid (`screen_tick`), and nothing else that happens to a console changes them,
so that they are always the rows of some grid (`Reachable.screen`). The characters of the code page take one column
each. So every character of a row is drawn in a cell of its own, as far as the terminal has cells, and the terminal
shows the screen (`draw?_shows`).
-/

namespace Mcs51

/-! ### The rows of the screen -/

namespace Session

variable (s : Session)

theorem screen_printControl (code : Control) : (s.printControl code).screen = s.screen := by
  rw [printControl_eq]
  rfl

theorem screen_printChar (c : Char) : (s.printChar c).screen = s.screen := by
  rw [printChar_eq]
  rfl

private theorem screen_push (byte : UInt8) : (s.push byte).screen = s.screen := by
  have echoed (s : Session) : (s.echoByte byte).screen = s.screen := by
    unfold echoByte
    split
    · exact s.screen_printControl .stx
    · exact s.screen_printControl .lineFeed
    · exact s.screen_printChar _
  have captured : (s.captureByte byte).screen = s.screen := by
    unfold captureByte
    split
    · exact s.screen_printControl .stx
    · exact s.screen_printControl .lineFeed
    · split
      · exact s.screen_printChar _
      · rfl
    · split
      · exact s.screen_printChar _
      · rfl
    · rfl
  unfold push
  split
  · exact captured
  · dsimp only
    split
    · exact echoed _
    · rfl

end Session

namespace Console

variable {c : Console}

theorem screen_redraw (c : Console) : c.redraw.session.screen = c.session.screen := by
  rw [redraw_eq, Session.foldl_draw_eq]

theorem screen_showMessage (c : Console) (text : String) : (c.showMessage text).session.screen = c.session.screen := by
  obtain ⟨_, same⟩ := c.showMessage_drawn text
  rw [same]

private theorem screen_clearMessage (c : Console) : c.clearMessage.session.screen = c.session.screen := by
  obtain ⟨_, same⟩ := c.clearMessage_drawn
  rw [same]

/-- Commands and digits leave the rows of the screen alone. -/
theorem obeys_screen : Obeys (·.session.screen) fun c _ => c.session.screen where
  run c command := by
    have entered (c : Console) (focus : Focus) : (c.enter focus).session.screen = c.session.screen :=
      screen_redraw _
    cases command with
    | switchMemory => exact screen_redraw _
    | toggleRun =>
      refine (screen_clearMessage _).trans ?_
      split
      · exact entered c .memory
      · rfl
    | toggleAddressInput =>
      dsimp only [run, toggleAddressInput]
      split
      · exact entered c .memory
      · exact entered _ .addressInput
    | go =>
      dsimp only [run, go]
      split
      · exact screen_showMessage _ _
      · rfl
    | toggleBreakpoint =>
      dsimp only [run, toggleBreakpoint]
      split
      · split <;> exact screen_showMessage _ _
      · rfl
    | toggleAscii => exact screen_redraw _
    | move direction =>
      dsimp only [run, move]
      split
      · rfl
      · split
        · exact entered c .dataPointer
        · exact entered c .registers
        · rfl
        · split <;> rfl
        · rfl
    | cycleFocus => exact entered c _
    | step | faster | slower | reset | wipe | digit => rfl
  edited _ _ := ⟨rfl, rfl⟩
  commitDigit c digit := by rw [session_commitDigit]

/-- A frame takes the rows of the painted grid. -/
theorem screen_tick (poised : c.Poised) (time : Float) :
    (c.tick time).session.screen = (c.paint.session.blink time).grid.rows := by
  have ready : (c.ready time).session.screen = (c.paint.session.blink time).grid.rows := by
    obtain ⟨_, line⟩ := (c.paint.render time).showLine_drawn
    rw [Console.ready, shown, line]
    rfl
  rw [obeys_screen.tick poised]
  cases c.session.pending.bind Command.ofByte? with
  | none => exact ready
  | some _ => exact ready

private theorem screen_clockTicks (c : Console) (n : Nat) : (c.clockTicks n).session.screen = c.session.screen := by
  induction n generalizing c with
  | zero => rfl
  | succ n ih =>
    obtain ⟨_, ticked⟩ := c.clockTick_drawn
    rw [clockTicks, ih, ticked]

/-- The rows of the screen are those of a grid. -/
theorem Reachable.screen (reachable : c.Reachable) : ∃ g : Grid, c.session.screen = g.rows := by
  induction reachable with
  | new machine clock => exact ⟨Grid.blank, screen_redraw _⟩
  | @after c reachable event ih =>
    obtain ⟨g, rows⟩ := ih
    cases event with
    | push byte => exact ⟨g, (c.session.screen_push byte).trans rows⟩
    | control code => exact ⟨g, (c.session.screen_printControl code).trans rows⟩
    | clock now => exact ⟨g, (screen_clockTicks _ _).trans rows⟩
    | frame time => exact ⟨_, screen_tick reachable.poised time⟩
  | operate _ _ ih => exact ih

end Console

/-! ### Rows of characters -/

namespace Buffer

variable {b c d : Buffer} {r : Rect}

/-- A buffer with all the cells of its rows. -/
def Whole (b : Buffer) : Prop :=
  b.cells.size = b.width * b.height

theorem whole_blank (width height : Nat) : (blank width height).Whole :=
  Array.size_replicate

theorem ChangesOnly.whole (changes : ChangesOnly r b d) (whole : b.Whole) : d.Whole := by
  rw [Whole, changes.size, changes.width, changes.height, whole]

theorem Whole.cell? (whole : b.Whole) {x y : Nat} (column : x < b.width) (row : y < b.height) :
    ∃ cell, b.cell? x y = some cell := by
  have inside : y * b.width + x < b.cells.size := by
    rw [whole]
    calc y * b.width + x < y * b.width + b.width := Nat.add_lt_add_left column _
      _ = (y + 1) * b.width := (Nat.succ_mul ..).symm
      _ ≤ b.height * b.width := Nat.mul_le_mul_right _ row
      _ = b.width * b.height := Nat.mul_comm ..
  exact ⟨b.cells[y * b.width + x], by rw [Buffer.cell?, if_pos column, Array.getElem?_eq_getElem inside]⟩

/-- What is drawn in a cell. -/
def symbol? (b : Buffer) (x y : Nat) : Option String :=
  (b.cell? x y).map (·.symbol)

theorem ChangesOnly.symbol? (changes : ChangesOnly r b d) {x y : Nat} (outside : ¬ r.Has x y) :
    d.symbol? x y = b.symbol? x y := by
  rw [Buffer.symbol?, changes.outside x y outside, Buffer.symbol?]

/-- A line whose characters take one column each. -/
def Lettered (line : List Span) (text : List Char) : Prop :=
  (styledGlyphs line).map (·.glyph) = text.map fun c => ⟨String.singleton c, 1⟩

section Lettered

variable {line : List Span} {text : List Char}

/-- Of glyphs of one column as many are shown as there are columns. -/
theorem fitting_of_narrow {columns used : Nat} {glyphs : List StyledGlyph} (narrow : ∀ g ∈ glyphs, g.glyph.width = 1)
    (room : used ≤ columns) : fitting columns used glyphs = glyphs.take (columns - used) := by
  induction glyphs generalizing used with
  | nil => rw [fitting, List.take_nil]
  | cons g rest ih =>
    have one := narrow g (List.mem_cons_self ..)
    have others := fun {used : Nat} => @ih used fun g member => narrow g (List.mem_cons_of_mem _ member)
    rw [fitting, one]
    by_cases none : columns < 1
    · rw [if_pos none, others room, show columns - used = 0 by omega, List.take_zero, List.take_zero]
    · rw [if_neg none]
      by_cases full : columns < used + 1
      · rw [if_pos full, show columns - used = 0 by omega, List.take_zero]
      · rw [if_neg full, others (by omega), show columns - used = columns - (used + 1) + 1 by omega,
          List.take_succ_cons]

private theorem span_of_narrow {glyphs : List StyledGlyph} (narrow : ∀ g ∈ glyphs, g.glyph.width = 1) :
    span glyphs = glyphs.length := by
  induction glyphs with
  | nil => rfl
  | cons g rest ih =>
    have others := ih fun h member => narrow h (List.mem_cons_of_mem _ member)
    rw [span_cons, narrow g (List.mem_cons_self ..), others, List.length_cons, Nat.add_comm]

theorem Lettered.narrow (lettered : Lettered line text) : ∀ g ∈ styledGlyphs line, g.glyph.width = 1 := by
  intro g member
  have glyph := List.mem_map_of_mem (f := (·.glyph)) member
  rw [show (styledGlyphs line).map (·.glyph) = _ from lettered] at glyph
  obtain ⟨c, _, same⟩ := List.mem_map.mp glyph
  rw [← same]

/-- Every character of such a line is drawn in a cell of its own, from the left edge on. -/
theorem Lettered.drawLine? (lettered : Lettered line text) (whole : b.Whole)
    (inside : Rect.Inside ⟨r.x, r.y, r.width, 1⟩ b.area) (drawn : b.drawLine? r .left line = some d) {i : Nat}
    {c : Char} (char : text[i]? = some c) (room : i < r.width) : d.symbol? (r.x + i) r.y = some (String.singleton c) := by
  have right := inside.right
  have bottom := inside.bottom
  dsimp only [area] at right bottom
  have narrow := lettered.narrow
  have fits := span_fitting (Nat.zero_le r.width) (styledGlyphs line)
  have visible := fitting_of_narrow narrow (Nat.zero_le r.width)
  rw [visible, Nat.zero_add, Nat.sub_zero] at fits
  obtain ⟨g, glyph, same⟩ : ∃ g, (styledGlyphs line)[i]? = some g ∧ g.glyph = ⟨String.singleton c, 1⟩ := by
    rw [← Option.map_eq_some_iff, ← List.getElem?_map, show (styledGlyphs line).map (·.glyph) = _ from lettered,
      List.getElem?_map, char]
    rfl
  obtain ⟨count, glyph⟩ := List.getElem?_eq_some_iff.mp glyph
  -- The glyphs in front of this one take as many columns as they are.
  have parts : (styledGlyphs line).take r.width =
      (styledGlyphs line).take i ++ g :: ((styledGlyphs line).take r.width).drop (i + 1) := by
    have here : i < ((styledGlyphs line).take r.width).length := by
      rw [List.length_take]
      omega
    calc _ = ((styledGlyphs line).take r.width).take i ++ ((styledGlyphs line).take r.width).drop i :=
          (List.take_append_drop ..).symm
      _ = _ := by rw [List.take_take, Nat.min_eq_left (Nat.le_of_lt room), List.drop_eq_getElem_cons here,
          List.getElem_take, glyph]
  have front : span ((styledGlyphs line).take i) = i := by
    rw [span_of_narrow fun g member => narrow g (List.mem_of_mem_take member), List.length_take]
    omega
  unfold Buffer.drawLine? at drawn
  dsimp only at drawn
  rw [visible, Nat.sub_zero, parts, Nat.add_zero] at drawn
  rw [parts] at fits
  have placed := cell?_drawGlyphs? (by rw [same]; exact Nat.one_ne_zero) drawn (by omega)
  rw [front] at placed
  obtain ⟨old, present⟩ := whole.cell? (x := r.x + i) (y := r.y) (by omega) (by omega)
  rw [symbol?, placed, present, Option.map_some, Option.map_some, Cell.draw, same]

/-- Every character of such a line is drawn in a cell of its own, below the lines in front of it. -/
theorem Lettered.drawNumbered? (lettered : Lettered line text) (whole : b.Whole) (inside : r.Inside b.area) {k j : Nat}
    {lines : List (List Span)} (room : k + lines.length ≤ r.height)
    (drawn : b.drawNumbered? r .left (lines.zipIdx k) = some d) (row : lines[j]? = some line) {i : Nat} {c : Char}
    (char : text[i]? = some c) (right : i < r.width) :
    d.symbol? (r.x + i) (r.y + (k + j)) = some (String.singleton c) := by
  induction lines generalizing k j b with
  | nil => contradiction
  | cons first rest ih =>
    rw [List.length_cons] at room
    have place : Rect.Inside ⟨r.x, r.y + k, r.width, 1⟩ b.area := by
      refine Rect.Inside.trans ?_ inside
      constructor <;> dsimp only <;> omega
    obtain ⟨e, top, changes⟩ := drawLine?_changesOnly (r := { r with y := r.y + k }) place .left first
    rw [Buffer.drawNumbered?, List.zipIdx_cons, List.foldlM_cons, top] at drawn
    replace drawn : e.drawNumbered? r .left (rest.zipIdx (k + 1)) = some d := drawn
    have within : r.Inside e.area := changes.area ▸ inside
    cases j with
    | zero =>
      obtain rfl := Option.some.inj row
      obtain ⟨d', same, below⟩ := drawNumbered?_changesOnly within .left rest (k := k + 1) (by omega)
      obtain rfl := Option.some.inj (drawn.symm.trans same)
      refine (below.symbol? ?_).trans (lettered.drawLine? whole place top char right)
      unfold Rect.Has
      dsimp only
      omega
    | succ j =>
      have rest := ih (changes.whole whole) within (by omega) drawn row
      rwa [show k + 1 + j = k + (j + 1) by omega] at rest

/-- Of a block of lines every such line that has a row is drawn. -/
theorem Lettered.drawLines? (lettered : Lettered line text) (whole : b.Whole) (inside : r.Inside b.area)
    {lines : List (List Span)} (drawn : b.drawLines? r .left lines = some d) {k i : Nat} (row : lines[k]? = some line)
    (below : k < r.height) {c : Char} (char : text[i]? = some c) (right : i < r.width) :
    d.symbol? (r.x + i) (r.y + k) = some (String.singleton c) := by
  have cells : ¬ r.isEmpty = true := by
    rw [Rect.isEmpty, Bool.or_eq_true, decide_eq_true_eq, decide_eq_true_eq]
    omega
  rw [Buffer.drawLines?, if_neg cells] at drawn
  have short : (lines.take r.height).length ≤ r.height := List.length_take_le ..
  have numbered := lettered.drawNumbered? whole inside (k := 0) (j := k) (by omega) drawn
    (by rw [List.getElem?_take, if_pos below, row]) char right
  rwa [Nat.zero_add] at numbered

/-- Texts of the code page take one column for each character. -/
theorem lettered_of_codepage {line : List Span} (page : ∀ s ∈ line, ∀ c ∈ s.text.toList, c ∈ Codepage.glyphs) :
    Lettered line (line.flatMap (·.text.toList)) := by
  induction line with
  | nil => rfl
  | cons s rest ih =>
    have first := Text.glyphs_of_codepage (page s (List.mem_cons_self ..))
    have others := ih fun t member => page t (List.mem_cons_of_mem _ member)
    rw [Lettered, styledGlyphs, List.flatMap_cons, List.map_append, List.flatMap_cons, List.map_append, first,
      List.map_map, List.map_map]
    exact congrArg _ others

end Lettered

end Buffer

/-! ### The screen -/

namespace Pane

variable {b d : Buffer} {area : Rect}

/-- Whether or not the cursor has a colour of its own, the text of a row is drawn. -/
theorem flatMap_screenRow (row : String) : (screenRow row).flatMap (·.text.toList) = row.toList := by
  unfold screenRow
  dsimp only
  split
  next => simp
  next first behind found =>
    have head := List.head?_dropWhile_not (· != cursor) row.toList
    rw [found] at head
    obtain rfl : first = cursor := by simpa using head
    simp only [List.flatMap_cons, List.flatMap_nil, String.toList_ofList, String.toList_singleton, List.append_nil,
      List.singleton_append]
    rw [← found, List.takeWhile_append_dropWhile]

private theorem lettered_screenRow {row : String} (page : ∀ c ∈ row.toList, c ∈ Codepage.glyphs) :
    Buffer.Lettered (screenRow row) row.toList := by
  have line : Buffer.Lettered (screenRow row) _ := Buffer.lettered_of_codepage fun s member c inside =>
    page c (flatMap_screenRow row ▸ List.mem_flatMap.mpr ⟨s, member, inside⟩)
  rwa [flatMap_screenRow] at line

/-- A character of a row is drawn behind the left border and below the top one. -/
theorem symbol?_drawScreen? (whole : b.Whole) (inside : (screenRect area).Inside b.area) {rows : List String}
    {running : Bool} (drawn : drawScreen? b area rows running = some d) {k i : Nat} {row : String}
    (line : rows[k]? = some row) (page : ∀ c ∈ row.toList, c ∈ Codepage.glyphs) {c : Char}
    (char : row.toList[i]? = some c) (below : k + 2 < (screenRect area).height)
    (right : i + 2 < (screenRect area).width) :
    d.symbol? ((screenRect area).x + 1 + i) ((screenRect area).y + 1 + k) = some (String.singleton c) := by
  obtain ⟨e, changes, same⟩ := drawScreen?_eq inside rows running
  rw [same] at drawn
  generalize screenRect area = r at *
  have inner : r.inner = ⟨r.x + 1, r.y + 1, r.width - 2, r.height - 2⟩ := by
    rw [Rect.inner, Nat.min_eq_left (show 1 ≤ r.width by omega), Nat.min_eq_left (show 1 ≤ r.height by omega)]
  have row := (lettered_screenRow page).drawLines? (changes.whole whole)
    (r.inside_inner.trans (changes.area ▸ inside)) drawn (k := k) (by rw [List.getElem?_map, line]; rfl)
    (by rw [inner]; dsimp only; omega) char (by rw [inner]; dsimp only; omega)
  rwa [inner] at row

end Pane

namespace App

/-- The terminal shows the screen of the console, centred under the title, as far as it has cells for it. -/
theorem draw?_shows {app : App} (reachable : app.console.Reachable) {b d : Buffer} (whole : b.Whole)
    (word : b.width < Rect.columnWrap) (drawn : app.draw? b = some d) :
    ∃ g : Grid, app.console.session.screen = g.rows ∧
      ∀ row col, row < Grid.height → col < Grid.width → row + 3 < b.height → col + 2 < b.width →
        d.symbol? ((b.width - Pane.width) / 2 + 1 + col) (1 + row) =
          some (String.singleton (Codepage.decode (g.shown (row * Grid.width + col)))) := by
  obtain ⟨g, rows⟩ := reachable.screen
  refine ⟨g, rows, fun row col rowInside colInside below right => ?_⟩
  obtain ⟨screen, d', first, second, upper, lower⟩ := app.draw?_changesOnly word
  obtain rfl := Option.some.inj (drawn.symm.trans second)
  have line : g.rows[row]? = some (String.ofList (g.glyphRow row)) := by
    rw [Grid.rows, Grid.glyphRows_eq, List.getElem?_map, List.getElem?_map, List.getElem?_range rowInside]
    rfl
  have page : ∀ c ∈ (String.ofList (g.glyphRow row)).toList, c ∈ Codepage.glyphs := by
    intro c member
    rw [String.toList_ofList] at member
    obtain ⟨_, _, rfl⟩ := List.mem_map.mp member
    exact Array.mem_toList_iff.mp (Codepage.mem_glyphs _)
  have char : (String.ofList (g.glyphRow row)).toList[col]? =
      some (Codepage.decode (g.shown (row * Grid.width + col))) := by
    rw [String.toList_ofList, Grid.glyphRow, List.getElem?_map, List.getElem?_range colInside]
    rfl
  have place := Pane.screenRect_of_word word (b.height - 1)
  have inside : (Pane.screenRect ⟨0, 0, b.width, b.height - 1⟩).Inside b.area := by
    rw [place]
    constructor <;> dsimp only [Buffer.area] <;> omega
  rw [rows] at first
  have shown := Pane.symbol?_drawScreen? whole inside first line page char
    (by rw [place]; dsimp only [Pane.height, Grid.height] at *; omega)
    (by rw [place]; dsimp only [Pane.width, Grid.width] at *; omega)
  rw [place] at shown
  refine (lower.symbol? ?_).trans (by simpa only [Nat.zero_add] using shown)
  -- The status bar is drawn below the rows.
  unfold Rect.Has
  dsimp only
  omega

end App

end Mcs51
