import Mcs51.Screen.Session

/-! # Pictures

What a widget shows: lines of bytes from a place of the screen on, or nothing while it is hidden.
-/

namespace Mcs51

/-- Lines of bytes at a place of the screen. -/
structure Picture where
  origin : Coord
  hidden : Bool
  lines : List (List UInt8)
deriving DecidableEq, Repr

/-- Draw lines below each other, each from the same column on. -/
def Session.drawLines (s : Session) (col row : Int) : List (List UInt8) → Session
  | [] => s
  | line :: rest =>
    ((s.placeCaret (some col) (some row)).writeBytes line).drawLines col (row + 1) rest

/-- Draw a picture, unless it is hidden. -/
def Session.draw (s : Session) (p : Picture) : Session :=
  if p.hidden then s else s.drawLines p.origin.col p.origin.row p.lines

end Mcs51
