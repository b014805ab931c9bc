import Mcs51.Screen.Codepage
import Mcs51.Screen.Control

/-! # Keys

What a key press means to the console, and how repeated presses are held back.
-/

namespace Mcs51

inductive Key
  | escape
  | left
  | right
  | up
  | down
  | tab
  | enter
  | function (number : Nat)
  | char (c : Char)
  /-- Any key that has no meaning here. -/
  | other
deriving DecidableEq, Repr

structure KeyPress where
  key : Key
  /-- The control key is held. -/
  control : Bool
deriving DecidableEq, Repr

/-- The meaning of a key press. -/
inductive KeyInput
  /-- A byte of input. -/
  | byte (b : UInt8)
  /-- A control code of line capture, printed at once. -/
  | control (code : Control)
  | quit
deriving DecidableEq, Repr

def Key.input? : Key → Option KeyInput
  | .escape => some .quit
  | .left => some (.byte Control.dc1.byte)
  | .right => some (.byte Control.dc2.byte)
  | .up => some (.byte Control.dc3.byte)
  | .down => some (.byte Control.dc4.byte)
  | .tab => some (.byte Control.tab.byte)
  | .function 1 => some (.control .stx)
  | .enter => some (.control .lineFeed)
  | .char '+' => some (.byte Control.fs.byte)
  | .char '-' => some (.byte Control.rs.byte)
  | .char c => some (.byte (Codepage.encodeChar c))
  | .function _ | .other => none

def KeyPress.input? (press : KeyPress) : Option KeyInput :=
  if press.control ∧ press.key = .char 'c' then some .quit else press.key.input?

/-- Holds back presses that come sooner than an interval after the last accepted one. -/
structure Debounce where
  /-- In milliseconds. -/
  interval : Nat
  last : Option Nat
deriving DecidableEq, Repr

namespace Debounce

/-- Nothing accepted yet. -/
def new (interval : Nat) : Debounce :=
  ⟨interval, none⟩

/-- Whether a press at a time in milliseconds is accepted. A time before the last accepted press counts
as that press's time. -/
def accept (d : Debounce) (now : Nat) : Bool × Debounce :=
  match d.last with
  | some last =>
    if now - last < d.interval then (false, d) else (true, { d with last := some now })
  | none => (true, { d with last := some now })

end Debounce

end Mcs51
