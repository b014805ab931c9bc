import Mcs51.Screen.Control
import Mcs51.Text.Hex
import Mcs51.Widget.Surface

/-! # Commands

The meaning of an input byte. Letters stand for themselves in either case, except that `x` and `X` are
two commands.
-/

namespace Mcs51

/-- A command of the console. -/
inductive Command
  | switchMemory
  | toggleRun
  | toggleAddressInput
  | go
  | toggleBreakpoint
  | step
  | faster
  | slower
  /-- Reset the processor and keep memory. -/
  | reset
  /-- Reset the processor and clear memory and every trail. -/
  | wipe
  | toggleAscii
  | move (direction : Direction)
  | cycleFocus
  | digit (value : Fin 16)
deriving DecidableEq, Repr

namespace Command

/-- The command of a character that is no control code. -/
def ofChar? : Char → Option Command
  | 'x' => some reset
  | 'X' => some wipe
  | '+' => some faster
  | '-' => some slower
  | 'm' | 'M' => some switchMemory
  | 'r' | 'R' => some toggleRun
  | 'i' | 'I' => some toggleAddressInput
  | 'g' | 'G' => some go
  | 'p' | 'P' => some toggleBreakpoint
  | 't' | 'T' => some toggleAscii
  | c => (Text.hexValue? c).map fun value => digit (Fin.ofNat 16 value)

def ofControl? : Control → Option Command
  | .space => some step
  | .fs => some faster
  | .rs => some slower
  | .dc1 => some (move .left)
  | .dc2 => some (move .right)
  | .dc3 => some (move .up)
  | .dc4 => some (move .down)
  | .tab => some cycleFocus
  | _ => none

def ofByte? (byte : UInt8) : Option Command :=
  match Control.ofByte? byte with
  | some control => ofControl? control
  | none => ofChar? (Char.ofNat byte.toNat)

def isDigit : Command → Bool
  | digit _ => true
  | _ => false

end Command

end Mcs51
