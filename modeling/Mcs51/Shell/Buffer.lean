import Mcs51.Text.Width

/-! # Styled cells

The shell draws into a buffer of styled cells. Styles and borders are cut at the edges of the buffer. Text
is cut at the edges of the rectangle that it is drawn into, and cannot be drawn if that takes it out of the
buffer. Drawing a symbol patches the style that a cell already has.
-/

namespace Mcs51

/-- A colour of the terminal. -/
inductive Color
  /-- The terminal's own. -/
  | reset
  | black
  | rgb (red green blue : UInt8)
deriving DecidableEq, Repr

/-- A change of style; an absent colour is kept. -/
structure Style where
  fg : Option Color
  bg : Option Color
  bold : Bool
deriving DecidableEq, Repr

namespace Style

/-- No change. -/
def none : Style :=
  ⟨.none, .none, false⟩

def withFg (s : Style) (color : Color) : Style :=
  { s with fg := some color }

def withBg (s : Style) (color : Color) : Style :=
  { s with bg := some color }

def withBold (s : Style) : Style :=
  { s with bold := true }

end Style

/-- A styled cell. -/
structure Cell where
  symbol : String
  fg : Color
  bg : Color
  bold : Bool
deriving DecidableEq, Repr

namespace Cell

/-- A cell that nothing was drawn into. -/
def blank : Cell :=
  ⟨" ", .reset, .reset, false⟩

/-- Change the style of a cell. -/
def patch (cell : Cell) (style : Style) : Cell :=
  { cell with
    fg := style.fg.getD cell.fg
    bg := style.bg.getD cell.bg
    bold := cell.bold || style.bold }

def draw (cell : Cell) (symbol : String) (style : Style) : Cell :=
  { cell.patch style with symbol }

end Cell

/-- A rectangle of the terminal. -/
structure Rect where
  x : Nat
  y : Nat
  width : Nat
  height : Nat
deriving DecidableEq, Repr

namespace Rect

/-- Most cells of a rectangle. -/
def maxCells : Nat := 65535

/-- The column behind the last one. -/
def endColumn : Nat := 65535

/-- Where sums of columns wrap around. -/
def columnWrap : Nat := 65536

/-- A rectangle of a given size; one with too many cells shrinks and keeps its proportions. -/
def fitted (x y width height : Nat) : Rect :=
  if width * height ≤ maxCells then ⟨x, y, width, height⟩
  else
    let aspect := Float.ofNat width / Float.ofNat height
    let rows := (Float.ofNat maxCells / aspect).sqrt
    ⟨x, y, (rows * aspect).toUInt16.toNat, rows.toUInt16.toNat⟩

def isEmpty (r : Rect) : Bool :=
  r.width = 0 || r.height = 0

/-- The columns that a rectangle really has. -/
def columns (r : Rect) : Nat :=
  min r.width (endColumn - r.x)

/-- The common part of two rectangles. -/
def intersect (r s : Rect) : Rect :=
  let x := max r.x s.x
  let y := max r.y s.y
  ⟨x, y, min (r.x + r.width) (s.x + s.width) - x, min (r.y + r.height) (s.y + s.height) - y⟩

/-- The rectangle without its outermost cells. -/
def inner (r : Rect) : Rect :=
  ⟨r.x + min 1 r.width, r.y + min 1 r.height, r.width - 2, r.height - 2⟩

end Rect

/-- A buffer of styled cells, row after row. -/
structure Buffer where
  width : Nat
  height : Nat
  cells : Array Cell
deriving DecidableEq

/-- Text of one style. -/
structure Span where
  text : String
  style : Style
deriving DecidableEq, Repr

structure StyledGlyph where
  glyph : Text.Glyph
  style : Style
deriving DecidableEq, Repr

/-- Where a line stands in its area. -/
inductive Alignment
  | left
  | right
deriving DecidableEq, Repr

namespace Buffer

/-- A buffer that nothing was drawn into. It is smaller than asked for if it would have too many cells. -/
def blank (width height : Nat) : Buffer :=
  let r := Rect.fitted 0 0 width height
  ⟨r.width, r.height, Array.replicate (r.width * r.height) Cell.blank⟩

def area (b : Buffer) : Rect :=
  ⟨0, 0, b.width, b.height⟩

/-- Change a cell; nothing happens outside the buffer. -/
def modify (b : Buffer) (x y : Nat) (f : Cell → Cell) : Buffer :=
  if x < b.width then { b with cells := b.cells.modify (y * b.width + x) f } else b

def row (b : Buffer) (y : Nat) : List Cell :=
  (b.cells.extract (y * b.width) ((y + 1) * b.width)).toList

/-- What a terminal shows of a buffer: a symbol of several columns hides the cell behind its own, which
stays blank. -/
def shown (b : Buffer) : Buffer :=
  let hides (cell : Cell) : Bool := 1 < Text.columns cell.symbol.toList
  let cells := b.cells.toList
  { b with
    cells := ((Cell.blank :: cells).zipWith
      (fun before cell => if hides before then Cell.blank else cell) cells).toArray }

/-- Change every cell of a rectangle. -/
def modifyRect (b : Buffer) (r : Rect) (f : Nat → Nat → Cell → Cell) : Buffer :=
  (List.range r.height).foldl (fun b dy =>
    (List.range r.width).foldl (fun b dx => b.modify (r.x + dx) (r.y + dy) (f dx dy)) b) b

/-- Change the style of the part of a rectangle that lies in the buffer. -/
def patch (b : Buffer) (r : Rect) (style : Style) : Buffer :=
  b.modifyRect (r.intersect b.area) fun _ _ cell => cell.patch style

def styledGlyphs (line : List Span) : List StyledGlyph :=
  line.flatMap fun span => (Text.glyphs span.text.toList).map (⟨·, span.style⟩)

/-- The glyphs that fit into a number of columns: those wider than all columns are left out, and the line
ends in front of the first that does not fit behind the others. -/
def fitting (columns : Nat) (used : Nat) : List StyledGlyph → List StyledGlyph
  | [] => []
  | g :: rest =>
    if columns < g.glyph.width then fitting columns used rest
    else if columns < used + g.glyph.width then []
    else g :: fitting columns (used + g.glyph.width) rest

/-- Draw glyphs from a place on. Glyphs without columns are left out. -/
def drawGlyphs? (b : Buffer) (x y : Nat) : List StyledGlyph → Option Buffer
  | [] => some b
  | g :: rest =>
    if g.glyph.width = 0 then b.drawGlyphs? x y rest
    else if x < b.width ∧ y < b.height then
      (b.modify x y (·.draw g.glyph.symbol g.style)).drawGlyphs? (x + g.glyph.width) y rest
    else none

/-- Draw a line into the first row of a rectangle. -/
def drawLine? (b : Buffer) (r : Rect) (alignment : Alignment) (line : List Span) : Option Buffer :=
  let visible := fitting r.width 0 (styledGlyphs line)
  let used := (visible.map (·.glyph.width)).foldr (· + ·) 0
  let indent :=
    match alignment with
    | .left => 0
    | .right => r.width - used
  b.drawGlyphs? (r.x + indent) r.y visible

/-- Draw lines below each other into a rectangle, as many as fit. -/
def drawLines? (b : Buffer) (r : Rect) (alignment : Alignment) (lines : List (List Span)) : Option Buffer :=
  if r.isEmpty then some b
  else
    (lines.take r.height).zipIdx.foldlM (fun b line =>
      b.drawLine? { r with y := r.y + line.2 } alignment line.1) b

end Buffer

end Mcs51
