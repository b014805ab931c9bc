import Mcs51.Shell.App
import Mcs51.Shell.Buffer
import Mcs51.Text.Hex

/-! # Panes

The terminal shows the console's screen in a titled border, and a status bar in the last row.
-/

namespace Mcs51

/-! ### Colours -/

namespace Theme

/-- Text. -/
def fg : Color := .rgb 205 214 244
/-- Blue. -/
def primary : Color := .rgb 137 180 250
/-- Orange. -/
def secondary : Color := .rgb 250 179 135
/-- Grey. -/
def comment : Color := .rgb 108 112 134
/-- Green. -/
def success : Color := .rgb 166 227 161
/-- Red. -/
def error : Color := .rgb 243 139 168
/-- Yellow. -/
def border : Color := .rgb 249 226 175
/-- Slightly lighter than the terminal. -/
def barBg : Color := .rgb 50 50 70
/-- Green. -/
def caret : Color := .rgb 166 227 161

end Theme

namespace Pane

/-! ### The screen -/

def width : Nat := Grid.width + 2

def height : Nat := Grid.height + 2

def title : String := " 8051 Debugger "

def cursor : Char := '█'

/-- A row of the screen; the first cursor in it has a colour of its own. -/
def screenRow (row : String) : List Span :=
  let style := Style.none.withFg Theme.fg
  let chars := row.toList
  match chars.dropWhile (· != cursor) with
  | [] => [⟨row, style⟩]
  | _ :: behind =>
    [⟨String.ofList (chars.takeWhile (· != cursor)), style⟩,
      ⟨String.singleton cursor, Style.none.withFg Theme.caret⟩, ⟨String.ofList behind, style⟩]

/-- The border's symbol at a place of a rectangle, if the place lies on the border. In a rectangle of one
row or column the corner that comes first wins. -/
def borderSymbol? (r : Rect) (dx dy : Nat) : Option String :=
  let right := dx + 1 = r.width
  let bottom := dy + 1 = r.height
  if dx = 0 ∧ dy = 0 then some "┌"
  else if dx = 0 ∧ bottom then some "└"
  else if right ∧ dy = 0 then some "┐"
  else if right ∧ bottom then some "┘"
  else if dy = 0 ∨ bottom then some "─"
  else if dx = 0 ∨ right then some "│"
  else none

/-- Draw a border along the edges of a rectangle. -/
def drawBorder (b : Buffer) (r : Rect) (style : Style) : Buffer :=
  b.modifyRect r fun dx dy cell =>
    match borderSymbol? r dx dy with
    | some symbol => cell.draw symbol style
    | none => cell

/-- The rectangle of the screen: as wide and high as it can be, centred between the sides of an area. Its
column is a 16-bit word, which wraps around. -/
def screenRect (area : Rect) : Rect :=
  ⟨(area.x + (area.width - width) / 2) % Rect.columnWrap, area.y, min width area.width,
    min height area.height⟩

def drawScreen? (b : Buffer) (area : Rect) (rows : List String) (running : Bool) : Option Buffer := do
  let style :=
    if running then (Style.none.withFg Theme.success).withBold else Style.none.withFg Theme.border
  let r := screenRect area
  let visible := r.intersect b.area
  let b ←
    if visible.isEmpty then some b
    else
      (drawBorder b visible style).drawLine? ⟨visible.x + 1, visible.y, visible.width - 2, 1⟩ .left
        [⟨title, Style.none⟩]
  b.drawLines? r.inner .left (rows.map screenRow)

/-! ### The status bar -/

/-- What the status bar shows. -/
structure Status where
  running : Bool
  /-- A line is being captured. -/
  capturing : Bool
  speed : String
  pc : UInt16
  cycles : Nat
  message : Option String
deriving DecidableEq, Repr

/-- The bar without text. -/
def bar : Style := Style.none.withBg Theme.barBg

def separator : Span :=
  ⟨"│", bar.withFg Theme.comment⟩

/-- Plain text on the bar. -/
def plain (text : String) : Span :=
  ⟨text, bar.withFg Theme.fg⟩

def keyName (text : String) : Span :=
  ⟨text, (Style.none.withBg Theme.comment).withFg .black⟩

/-- The state of the machine on the bar. -/
def stateSpan (running : Bool) : Span :=
  let (text, color) := if running then (" ▶ RUNNING ", Theme.success) else (" ■ STOPPED ", Theme.primary)
  ⟨text, ((Style.none.withBg color).withFg .black).withBold⟩

/-- The left half of the bar. -/
def statusLeft (s : Status) : List Span :=
  [stateSpan s.running, plain (" PC " ++ Text.wordHex s.pc ++ " "), separator,
    plain (" " ++ toString s.cycles ++ " cycles "), separator,
    ⟨" " ++ s.speed ++ " ", bar.withFg Theme.secondary⟩] ++
  (if s.capturing then [separator, ⟨" ✎ LINE ", (bar.withFg Theme.primary).withBold⟩] else []) ++
  match s.message with
  | some message => [separator, ⟨" " ++ message ++ " ", bar.withFg Theme.error⟩]
  | none => []

/-- The right half of the bar. -/
def statusRight : List Span :=
  [keyName " F1 ", plain " capture ", separator, plain " ", keyName " ↵ ", plain " end line ", separator,
    plain " ", keyName " esc ", plain " quit "]

/-- Draw one half of the bar into an area. -/
def drawHalf? (b : Buffer) (area : Rect) (alignment : Alignment) (line : List Span) : Option Buffer :=
  (b.patch area bar).drawLines? area alignment [line]

/-- Draw the status bar into an area. The left half takes the odd column. -/
def drawStatus? (b : Buffer) (area : Rect) (s : Status) : Option Buffer := do
  let left := (area.columns + 1) / 2
  let b ← drawHalf? b { area with width := left } .left (statusLeft s)
  drawHalf? b { area with x := area.x + left, width := area.columns - left } .right statusRight

end Pane

namespace App

/-- What the status bar shows about the application. -/
def status (app : App) : Pane.Status where
  running := app.console.machine.running
  capturing := app.console.session.capturing
  speed := app.console.clock.speed.label
  pc := app.console.machine.cpu.pc
  cycles := app.console.machine.cycles
  message := app.console.message

/-- Draw the application: the screen, and the status bar in the last row. -/
def draw? (app : App) (b : Buffer) : Option Buffer := do
  let screen : Rect := ⟨0, 0, b.width, b.height - 1⟩
  let bar : Rect := ⟨0, b.height - 1, b.width, min 1 b.height⟩
  let b ← Pane.drawScreen? b screen app.console.session.screen app.console.machine.running
  Pane.drawStatus? b bar app.status

end App

end Mcs51
