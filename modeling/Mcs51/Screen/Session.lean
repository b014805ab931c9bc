import Mcs51.Screen.Grid

/-! # Terminal session

The grid with line capture, a blinking cursor and the one input byte that waits to be taken.

A capture begins with STX and ends with a line feed. In between, printed characters and pushed bytes
join the captured line; a pushed byte is then never handed out as input. A completed line that is not
empty can be read once.
-/

namespace Mcs51

/-- Seconds between two changes of the cursor's visibility. -/
def blinkInterval : Float := 0.5

/-- A terminal session. -/
structure Session where
  grid : Grid
  capturing : Bool
  /-- The captured characters, the last one first. -/
  captured : List Char
  /-- A captured line is complete and has not been read. -/
  lineReady : Bool
  /-- Pushed bytes are drawn. -/
  echo : Bool
  pending : Option UInt8
  lastBlink : Float
  /-- The rows of the screen as of the last tick. -/
  screen : List String

namespace Session

/-- A session on a blank screen. -/
def new : Session where
  grid := Grid.blank
  capturing := false
  captured := []
  lineReady := false
  echo := true
  pending := none
  lastBlink := 0.0
  screen := Grid.blank.rows

def put (s : Session) (byte : UInt8) : Session :=
  { s with grid := (s.grid.put byte).2 }

/-- Draw bytes; they are never captured. -/
def writeBytes (s : Session) (bytes : List UInt8) : Session :=
  { s with grid := s.grid.putAll bytes }

/-- Draw text; it is never captured. -/
def writeText (s : Session) (text : String) : Session :=
  s.writeBytes (Codepage.encode text)

/-- Draw text from a place on. -/
def writeAt (s : Session) (row col : Int) (text : String) : Session :=
  { s with grid := s.grid.placeCaret (some col) (some row) }.writeText text

/-- Begin a capture. -/
def startLine (s : Session) : Session :=
  { s with captured := [], capturing := true, lineReady := false }

/-- End the capture, if there is one. -/
def endLine (s : Session) : Session :=
  if s.capturing then { s with capturing := false, lineReady := !s.captured.isEmpty } else s

/-- Print a control code: STX begins a capture, a line feed ends it, and every code is drawn. -/
def printControl (s : Session) (control : Control) : Session :=
  (match control with
    | .stx => s.startLine
    | .lineFeed => s.endLine
    | _ => s).put control.byte

def capture (s : Session) (c : Char) : Session :=
  { s with captured := c :: s.captured }

/-- Print a character. One whose byte is STX or line feed acts as that control code; any other joins the
line being captured. -/
def printChar (s : Session) (c : Char) : Session :=
  let byte := Codepage.encodeChar c
  if byte = Control.stx.byte then s.printControl .stx
  else if byte = Control.lineFeed.byte then s.printControl .lineFeed
  else (if s.capturing then s.capture c else s).put byte

def print (s : Session) (text : String) : Session :=
  text.toList.foldl printChar s

/-- The last completed line, once. -/
def readLine (s : Session) : Option String × Session :=
  if s.lineReady then (some (String.ofList s.captured.reverse), { s with lineReady := false })
  else (none, s)

/-- Print a pushed byte. -/
def echoByte (s : Session) (byte : UInt8) : Session :=
  match Control.ofByte? byte with
  | some .stx => s.printControl .stx
  | some .lineFeed => s.printControl .lineFeed
  | _ => s.printChar (Codepage.decode byte)

/-- Push a byte into the line being captured. Control codes other than STX, line feed and space are
dropped; without echo nothing else is drawn. -/
def captureByte (s : Session) (byte : UInt8) : Session :=
  match Control.ofByte? byte with
  | some .stx => s.printControl .stx
  | some .lineFeed => s.printControl .lineFeed
  | some .space | none =>
    if s.echo then s.printChar (Codepage.decode byte) else s.capture (Codepage.decode byte)
  | some _ => s

/-- Push one input byte. During a capture it joins the line; otherwise it waits to be taken, in place of
one that was not taken yet. -/
def push (s : Session) (byte : UInt8) : Session :=
  if s.capturing then s.captureByte byte
  else
    let s := { s with pending := some byte }
    if s.echo then s.echoByte byte else s

def take (s : Session) : Option UInt8 × Session :=
  (s.pending, { s with pending := none })

def setEcho (s : Session) (echo : Bool) : Session :=
  { s with echo }

/-- Move the cursor; an absent axis is kept. -/
def placeCaret (s : Session) (col row : Option Int) : Session :=
  { s with grid := s.grid.placeCaret col row }

def flush (s : Session) : Session :=
  { s with grid := s.grid.flush Control.nul.byte }

/-- Change the cursor's visibility if the blink interval has passed. A taken corner keeps it as it is. -/
def blink (s : Session) (time : Float) : Session :=
  if time - s.lastBlink > blinkInterval then
    { s with
      grid :=
        if s.grid.cornerTaken then s.grid
        else { s.grid with cursorVisible := !s.grid.cursorVisible }
      lastBlink := time }
  else s

/-- Blink, and take the rows of the screen. -/
def tick (s : Session) (time : Float) : Session :=
  let s := s.blink time
  { s with screen := s.grid.rows }

end Session

end Mcs51
