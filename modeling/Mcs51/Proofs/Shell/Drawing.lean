import Mcs51.Shell.Panes

/-! # What is drawn on the terminal

Drawing changes only the rectangle that it is given (`ChangesOnly`), and it cannot fail if that rectangle lies in the
buffer: not for a line (`drawLine?_changesOnly`), not for a block of lines (`drawLines?_changesOnly`), and so not for
the screen and the status bar, whatever their texts are (`draw?_changesOnly`). What is drawn of a line stands side by
side (`cell?_drawGlyphs?`).
-/

namespace Mcs51

/-! ### Rectangles -/

namespace Rect

variable {r s t : Rect}

def Has (r : Rect) (x y : Nat) : Prop :=
  r.x ≤ x ∧ x < r.x + r.width ∧ r.y ≤ y ∧ y < r.y + r.height

instance (r : Rect) (x y : Nat) : Decidable (r.Has x y) :=
  inferInstanceAs (Decidable (_ ∧ _))

/-- A rectangle does not stick out of another one. -/
structure Inside (r s : Rect) : Prop where
  left : s.x ≤ r.x
  right : r.x + r.width ≤ s.x + s.width
  top : s.y ≤ r.y
  bottom : r.y + r.height ≤ s.y + s.height

theorem Inside.has (inside : r.Inside s) {x y : Nat} (has : r.Has x y) : s.Has x y := by
  obtain ⟨left, right, top, bottom⟩ := inside
  unfold Has at has ⊢
  omega

theorem Inside.trans (first : r.Inside s) (second : s.Inside t) : r.Inside t where
  left := Nat.le_trans second.left first.left
  right := Nat.le_trans first.right second.right
  top := Nat.le_trans second.top first.top
  bottom := Nat.le_trans first.bottom second.bottom

theorem inside_inner (r : Rect) : r.inner.Inside r := by
  constructor <;> dsimp only [inner] <;> omega

theorem intersect_of_inside (inside : r.Inside s) : r.intersect s = r := by
  obtain ⟨left, right, top, bottom⟩ := inside
  obtain ⟨x, y, width, height⟩ := r
  dsimp only at left right top bottom
  simp only [intersect, Rect.mk.injEq]
  omega

end Rect

namespace Buffer

variable {b c d : Buffer} {r s : Rect}

/-! ### Cells -/

def cell? (b : Buffer) (x y : Nat) : Option Cell :=
  if x < b.width then b.cells[y * b.width + x]? else none

/-- No two places share a cell. -/
private theorem index_eq_index_iff {width x y x' y' : Nat} (first : x < width) (second : x' < width) :
    y * width + x = y' * width + x' ↔ x' = x ∧ y' = y := by
  refine ⟨fun same => ?_, fun ⟨column, row⟩ => by rw [column, row]⟩
  have column : x' = x := by
    have := congrArg (· % width) same
    simpa only [Nat.mul_add_mod_of_lt first, Nat.mul_add_mod_of_lt second] using this.symm
  subst column
  exact ⟨rfl, (Nat.eq_of_mul_eq_mul_right (Nat.zero_lt_of_lt first) (Nat.add_right_cancel same)).symm⟩

theorem cell?_modify (b : Buffer) (x y : Nat) (f : Cell → Cell) (x' y' : Nat) :
    (b.modify x y f).cell? x' y' = if x' = x ∧ y' = y then (b.cell? x' y').map f else b.cell? x' y' := by
  unfold modify
  split
  next column =>
    unfold cell?
    dsimp only
    split
    next column' => simp only [Array.getElem?_modify, index_eq_index_iff column column']
    next => simp
  next column =>
    split
    next same => rw [cell?, if_neg (same.1 ▸ column), Option.map_none]
    next => rfl

@[simp] theorem width_modify (b : Buffer) (x y : Nat) (f : Cell → Cell) : (b.modify x y f).width = b.width := by
  unfold modify
  split <;> rfl

@[simp] theorem height_modify (b : Buffer) (x y : Nat) (f : Cell → Cell) : (b.modify x y f).height = b.height := by
  unfold modify
  split <;> rfl

@[simp] theorem size_modify (b : Buffer) (x y : Nat) (f : Cell → Cell) :
    (b.modify x y f).cells.size = b.cells.size := by
  unfold modify
  split
  · exact Array.size_modify
  · rfl

/-! ### Changes in a rectangle -/

/-- A buffer comes from another one by changes in a rectangle. -/
structure ChangesOnly (r : Rect) (b d : Buffer) : Prop where
  width : d.width = b.width
  height : d.height = b.height
  size : d.cells.size = b.cells.size
  outside : ∀ x y, ¬ r.Has x y → d.cell? x y = b.cell? x y

namespace ChangesOnly

theorem refl (r : Rect) (b : Buffer) : ChangesOnly r b b :=
  ⟨rfl, rfl, rfl, fun _ _ _ => rfl⟩

theorem trans (first : ChangesOnly r b c) (second : ChangesOnly r c d) : ChangesOnly r b d where
  width := second.width.trans first.width
  height := second.height.trans first.height
  size := second.size.trans first.size
  outside x y out := (second.outside x y out).trans (first.outside x y out)

theorem mono (changes : ChangesOnly r b d) (inside : r.Inside s) : ChangesOnly s b d where
  width := changes.width
  height := changes.height
  size := changes.size
  outside x y out := changes.outside x y fun has => out (inside.has has)

theorem area (changes : ChangesOnly r b d) : d.area = b.area := by
  rw [Buffer.area, changes.width, changes.height]
  rfl

end ChangesOnly

theorem modify_changesOnly {x y : Nat} (has : r.Has x y) (f : Cell → Cell) : ChangesOnly r b (b.modify x y f) where
  width := b.width_modify x y f
  height := b.height_modify x y f
  size := b.size_modify x y f
  outside x' y' out := by
    rw [cell?_modify, if_neg]
    rintro ⟨rfl, rfl⟩
    exact out has

theorem modifyRect_changesOnly (b : Buffer) (r : Rect) (f : Nat → Nat → Cell → Cell) :
    ChangesOnly r b (b.modifyRect r f) := by
  have row (dy : Nat) (below : dy < r.height) (n : Nat) (within : n ≤ r.width) (b : Buffer) :
      ChangesOnly r b ((List.range n).foldl (fun b dx => b.modify (r.x + dx) (r.y + dy) (f dx dy)) b) := by
    induction n with
    | zero => exact .refl r b
    | succ n ih =>
      rw [List.range_succ, List.foldl_append]
      refine (ih (Nat.le_of_lt within)).trans (modify_changesOnly ?_ _)
      unfold Rect.Has
      omega
  have rows (n : Nat) (within : n ≤ r.height) :
      ChangesOnly r b ((List.range n).foldl (fun b dy =>
        (List.range r.width).foldl (fun b dx => b.modify (r.x + dx) (r.y + dy) (f dx dy)) b) b) := by
    induction n with
    | zero => exact .refl r b
    | succ n ih =>
      rw [List.range_succ, List.foldl_append]
      exact (ih (Nat.le_of_lt within)).trans (row n within r.width (Nat.le_refl _) _)
  exact rows r.height (Nat.le_refl _)

private theorem patch_changesOnly (inside : r.Inside b.area) (style : Style) : ChangesOnly r b (b.patch r style) := by
  rw [patch, Rect.intersect_of_inside inside]
  exact b.modifyRect_changesOnly r _

/-! ### Glyphs -/

/-- The columns of glyphs that stand side by side. -/
def span (glyphs : List StyledGlyph) : Nat :=
  (glyphs.map (·.glyph.width)).foldr (· + ·) 0

theorem span_cons (g : StyledGlyph) (glyphs : List StyledGlyph) :
    span (g :: glyphs) = g.glyph.width + span glyphs :=
  rfl

/-- What is shown of a line fits into its columns. -/
theorem span_fitting {columns used : Nat} (room : used ≤ columns) (glyphs : List StyledGlyph) :
    used + span (fitting columns used glyphs) ≤ columns := by
  fun_induction fitting columns used glyphs with
  | case1 => exact room
  | case2 used g rest wide ih => exact ih room
  | case3 used g rest narrow full => exact room
  | case4 used g rest narrow free ih =>
    have := ih (Nat.le_of_not_lt free)
    rw [span_cons]
    omega

/-- Glyphs that stand in the buffer are drawn, and change only the columns that they take. -/
theorem drawGlyphs?_changesOnly {x y : Nat} (glyphs : List StyledGlyph) (room : x + span glyphs ≤ b.width)
    (row : y < b.height) : ∃ d, b.drawGlyphs? x y glyphs = some d ∧ ChangesOnly ⟨x, y, span glyphs, 1⟩ b d := by
  induction glyphs generalizing b x with
  | nil => exact ⟨b, rfl, .refl _ b⟩
  | cons g rest ih =>
    rw [span_cons] at room ⊢
    rw [drawGlyphs?]
    by_cases none : g.glyph.width = 0
    · rw [if_pos none, none, Nat.zero_add]
      exact ih (by omega) row
    · rw [if_neg none, if_pos ⟨by omega, row⟩]
      obtain ⟨d, drawn, changes⟩ := ih (b := b.modify x y (·.draw g.glyph.symbol g.style)) (x := x + g.glyph.width)
        (by rw [width_modify]; omega) (by rw [height_modify]; exact row)
      refine ⟨d, drawn, (modify_changesOnly ?_ _).trans (changes.mono ?_)⟩
      · unfold Rect.Has
        dsimp only
        omega
      · constructor <;> dsimp only <;> omega

/-- A glyph is drawn behind the columns of the glyphs in front of it, and no other glyph is drawn over it. -/
theorem cell?_drawGlyphs? {x y : Nat} {front behind : List StyledGlyph} {g : StyledGlyph}
    (visible : g.glyph.width ≠ 0)
    (drawn : b.drawGlyphs? x y (front ++ g :: behind) = some d) (room : x + span (front ++ g :: behind) ≤ b.width) :
    d.cell? (x + span front) y = (b.cell? (x + span front) y).map (·.draw g.glyph.symbol g.style) := by
  induction front generalizing b x with
  | nil =>
    rw [List.nil_append, drawGlyphs?, if_neg visible] at drawn
    split at drawn
    next place =>
      rw [List.nil_append, span_cons] at room
      obtain ⟨e, same, changes⟩ := drawGlyphs?_changesOnly (b := b.modify x y (·.draw g.glyph.symbol g.style))
        (x := x + g.glyph.width) (y := y) behind (by rw [width_modify]; omega)
        (by rw [height_modify]; exact place.2)
      obtain rfl := Option.some.inj (drawn.symm.trans same)
      refine (changes.outside x y ?_).trans ?_
      · unfold Rect.Has
        dsimp only
        omega
      · rw [cell?_modify, if_pos ⟨rfl, rfl⟩]
        rfl
    next => contradiction
  | cons h front ih =>
    rw [List.cons_append, span_cons] at room
    rw [List.cons_append, drawGlyphs?] at drawn
    rw [span_cons, ← Nat.add_assoc]
    split at drawn
    next none =>
      rw [none, Nat.add_zero]
      exact ih drawn (by omega)
    next =>
      split at drawn
      next =>
        rw [ih drawn (by rw [width_modify]; omega), cell?_modify, if_neg]
        omega
      next => contradiction

/-! ### Lines -/

/-- A line is drawn if its row lies in the buffer, however long it is. -/
theorem drawLine?_changesOnly (inside : Rect.Inside ⟨r.x, r.y, r.width, 1⟩ b.area) (alignment : Alignment)
    (line : List Span) :
    ∃ d, b.drawLine? r alignment line = some d ∧ ChangesOnly ⟨r.x, r.y, r.width, 1⟩ b d := by
  have right := inside.right
  have bottom := inside.bottom
  dsimp only [area] at right bottom
  have fits := span_fitting (Nat.zero_le r.width) (styledGlyphs line)
  -- The indent leaves as many columns as the line takes.
  have indented (indent : Nat) (room : indent + span (fitting r.width 0 (styledGlyphs line)) ≤ r.width) :
      ∃ d, b.drawGlyphs? (r.x + indent) r.y (fitting r.width 0 (styledGlyphs line)) = some d ∧
        ChangesOnly ⟨r.x, r.y, r.width, 1⟩ b d := by
    obtain ⟨d, drawn, changes⟩ := drawGlyphs?_changesOnly (b := b) (x := r.x + indent) (y := r.y)
      (fitting r.width 0 (styledGlyphs line)) (by omega) (by omega)
    refine ⟨d, drawn, changes.mono ?_⟩
    constructor <;> dsimp only <;> omega
  cases alignment with
  | left => exact indented 0 (by omega)
  | right =>
    refine indented (r.width - span (fitting r.width 0 (styledGlyphs line))) ?_
    omega

/-- Draw numbered lines into the rows of a rectangle that have their numbers. -/
def drawNumbered? (b : Buffer) (r : Rect) (alignment : Alignment) (lines : List (List Span × Nat)) : Option Buffer :=
  lines.foldlM (fun b line => b.drawLine? { r with y := r.y + line.2 } alignment line.1) b

theorem drawNumbered?_changesOnly (inside : r.Inside b.area) (alignment : Alignment) (lines : List (List Span))
    {k : Nat} (room : k + lines.length ≤ r.height) :
    ∃ d, b.drawNumbered? r alignment (lines.zipIdx k) = some d ∧
      ChangesOnly ⟨r.x, r.y + k, r.width, lines.length⟩ b d := by
  induction lines generalizing k b with
  | nil => exact ⟨b, rfl, .refl _ b⟩
  | cons line lines ih =>
    rw [List.length_cons] at room ⊢
    have row : Rect.Inside ⟨r.x, r.y + k, r.width, 1⟩ r := by constructor <;> dsimp only <;> omega
    obtain ⟨c, drawn, changes⟩ :=
      drawLine?_changesOnly (r := { r with y := r.y + k }) (row.trans inside) alignment line
    obtain ⟨d, others, rest⟩ := ih (b := c) (changes.area ▸ inside) (k := k + 1) (by omega)
    refine ⟨d, ?_, (changes.mono ?_).trans (rest.mono ?_)⟩
    · rw [drawNumbered?, List.zipIdx_cons, List.foldlM_cons, drawn]
      exact others
    · constructor <;> dsimp only <;> omega
    · constructor <;> dsimp only <;> omega

/-- Lines are drawn below each other into any rectangle of the buffer. -/
theorem drawLines?_changesOnly (inside : r.Inside b.area) (alignment : Alignment) (lines : List (List Span)) :
    ∃ d, b.drawLines? r alignment lines = some d ∧ ChangesOnly r b d := by
  rw [drawLines?]
  split
  · exact ⟨b, rfl, .refl r b⟩
  · have short : (lines.take r.height).length ≤ r.height := List.length_take_le ..
    obtain ⟨d, drawn, changes⟩ := drawNumbered?_changesOnly (k := 0) inside alignment
      (lines.take r.height) (by omega)
    refine ⟨d, drawn, changes.mono ?_⟩
    constructor <;> dsimp only <;> omega

end Buffer

open Buffer (ChangesOnly)

/-! ### Panes -/

namespace Pane

variable {b : Buffer} {area : Rect}

/-- Without wrapping around, the screen is centred. -/
theorem screenRect_of_word {width : Nat} (word : width < Rect.columnWrap) (height : Nat) :
    screenRect ⟨0, 0, width, height⟩ =
      ⟨(width - Pane.width) / 2, 0, min Pane.width width, min Pane.height height⟩ := by
  have column : (width - Pane.width) / 2 < Rect.columnWrap := by omega
  rw [screenRect, Nat.zero_add, Nat.mod_eq_of_lt column]

/-- The rows of the screen are drawn into the border, whatever is drawn of it. -/
theorem drawScreen?_eq (inside : (screenRect area).Inside b.area) (rows : List String) (running : Bool) :
    ∃ c, ChangesOnly (screenRect area) b c ∧
      drawScreen? b area rows running = c.drawLines? (screenRect area).inner .left (rows.map screenRow) := by
  unfold drawScreen?
  dsimp only [bind, Option.bind]
  rw [Rect.intersect_of_inside inside]
  generalize (if running = true then (Style.none.withFg Theme.success).withBold
    else Style.none.withFg Theme.border) = style
  generalize screenRect area = r at *
  split
  next => exact ⟨b, .refl r b, rfl⟩
  next cells =>
    rw [Rect.isEmpty, Bool.or_eq_true, decide_eq_true_eq, decide_eq_true_eq, not_or] at cells
    have border : ChangesOnly r b (drawBorder b r style) := b.modifyRect_changesOnly r _
    have top : Rect.Inside ⟨r.x + 1, r.y, r.width - 2, 1⟩ r := by constructor <;> dsimp only <;> omega
    obtain ⟨c, drawn, changes⟩ := Buffer.drawLine?_changesOnly (b := drawBorder b r style)
      (r := ⟨r.x + 1, r.y, r.width - 2, 1⟩) (top.trans (border.area ▸ inside)) .left
      [⟨title, Style.none⟩]
    rw [drawn]
    exact ⟨c, border.trans (changes.mono top), rfl⟩

private theorem drawScreen?_changesOnly (inside : (screenRect area).Inside b.area) (rows : List String)
    (running : Bool) :
    ∃ d, drawScreen? b area rows running = some d ∧ ChangesOnly (screenRect area) b d := by
  obtain ⟨c, changes, same⟩ := drawScreen?_eq inside rows running
  have inner := (screenRect area).inside_inner
  obtain ⟨d, drawn, rest⟩ := Buffer.drawLines?_changesOnly (inner.trans (changes.area ▸ inside)) .left
    (rows.map screenRow)
  exact ⟨d, same.trans drawn, changes.trans (rest.mono inner)⟩

theorem drawHalf?_changesOnly (inside : area.Inside b.area) (alignment : Alignment) (line : List Span) :
    ∃ d, drawHalf? b area alignment line = some d ∧ ChangesOnly area b d := by
  have patched := Buffer.patch_changesOnly inside bar
  obtain ⟨d, drawn, changes⟩ :=
    Buffer.drawLines?_changesOnly (patched.area ▸ inside) alignment [line]
  exact ⟨d, drawn, patched.trans changes⟩

private theorem drawStatus?_changesOnly (inside : area.Inside b.area) (s : Status) :
    ∃ d, drawStatus? b area s = some d ∧ ChangesOnly area b d := by
  have columns : area.columns ≤ area.width := Nat.min_le_left ..
  have left : Rect.Inside { area with width := (area.columns + 1) / 2 } area := by
    constructor <;> dsimp only <;> omega
  have right : Rect.Inside
      { area with x := area.x + (area.columns + 1) / 2, width := area.columns - (area.columns + 1) / 2 } area := by
    constructor <;> dsimp only <;> omega
  obtain ⟨c, first, changes⟩ := drawHalf?_changesOnly (left.trans inside) .left (statusLeft s)
  obtain ⟨d, second, rest⟩ := drawHalf?_changesOnly (right.trans (changes.area ▸ inside)) .right statusRight
  refine ⟨d, ?_, (changes.mono left).trans (rest.mono right)⟩
  rw [drawStatus?]
  dsimp only [bind, Option.bind]
  rw [first]
  exact second

end Pane

namespace App

/-- An application is drawn into any buffer whose columns are 16-bit words: first the screen, which changes the
rectangle of the screen only, then the status bar, which changes the last row only. -/
theorem draw?_changesOnly (app : App) {b : Buffer} (word : b.width < Rect.columnWrap) :
    ∃ screen d,
      Pane.drawScreen? b ⟨0, 0, b.width, b.height - 1⟩ app.console.session.screen app.console.machine.running =
        some screen ∧
      app.draw? b = some d ∧
      ChangesOnly (Pane.screenRect ⟨0, 0, b.width, b.height - 1⟩) b screen ∧
      ChangesOnly ⟨0, b.height - 1, b.width, min 1 b.height⟩ screen d := by
  have upper : (Pane.screenRect ⟨0, 0, b.width, b.height - 1⟩).Inside b.area := by
    rw [Pane.screenRect_of_word word]
    constructor <;> dsimp only [Buffer.area] <;> omega
  have last : Rect.Inside ⟨0, b.height - 1, b.width, min 1 b.height⟩ b.area := by
    constructor <;> dsimp only [Buffer.area] <;> omega
  obtain ⟨screen, first, changes⟩ :=
    Pane.drawScreen?_changesOnly upper app.console.session.screen app.console.machine.running
  obtain ⟨d, second, rest⟩ := Pane.drawStatus?_changesOnly (changes.area ▸ last) app.status
  refine ⟨screen, d, first, ?_, changes, rest⟩
  rw [draw?]
  dsimp only [bind, Option.bind]
  rw [first]
  exact second

/-- An application is drawn on a terminal of any size. -/
theorem draw?_blank (app : App) {width height : Nat} (word : width < Rect.columnWrap) :
    (app.draw? (Buffer.blank width height)).isSome := by
  have fits : (Buffer.blank width height).width < Rect.columnWrap := by
    dsimp only [Buffer.blank, Rect.fitted]
    split
    · exact word
    · exact UInt16.toNat_lt _
  obtain ⟨_, d, _, drawn, _⟩ := app.draw?_changesOnly fits
  rw [drawn, Option.isSome_some]

end App

end Mcs51
