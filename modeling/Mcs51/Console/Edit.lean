import Mcs51.Core.Space

/-! # Editing by nibbles

Bytes are typed as two hex digits, high nibble first. The edit state remembers which nibble comes next,
which byte is pointed at, and a digit that waits to be applied.
-/

namespace Mcs51

/-- The half of a byte that the next digit replaces. -/
inductive Nibble
  | high
  | low
deriving DecidableEq, Repr

/-- The byte that digits are written to. -/
inductive EditTarget
  | memory (space : Space) (addr : Nat)
  /-- Register by number, 0 for A to 9 for B. -/
  | register (index : Nat)
  /-- Half of the data pointer, 0 for the high byte. -/
  | dataPointer (half : Nat)
  /-- Half of the address input, 0 for the high byte. -/
  | addressInput (half : Nat)
deriving DecidableEq, Repr

/-- What applying a digit amounts to. -/
structure NibbleWrite where
  value : UInt8
  /-- Screen columns that the caret moves by. -/
  caretShift : Int
  /-- The low nibble went in, so the byte is complete. -/
  completed : Bool
deriving DecidableEq, Repr

/-- The state of editing. -/
structure Edit where
  next : Nibble
  target : Option EditTarget
  queued : Option (Fin 16)
deriving DecidableEq, Repr

namespace Edit

/-- Nothing pointed at, high nibble next. -/
def new : Edit :=
  ⟨.high, none, none⟩

/-- Whether the low nibble comes next. -/
def lowPending (e : Edit) : Bool :=
  e.next == .low

def pointAt (e : Edit) (target : EditTarget) : Edit :=
  { e with target := some target }

/-- High nibble next and nothing queued. -/
def restart (e : Edit) : Edit :=
  { e with next := .high, queued := none }

/-- High nibble next. -/
def cancel (e : Edit) : Edit :=
  { e with next := .high }

def queue (e : Edit) (digit : Fin 16) : Edit :=
  { e with queued := some digit }

def takeQueued (e : Edit) : Option (Fin 16) × Edit :=
  (e.queued, { e with queued := none })

/-- Replace the next nibble of a byte by a digit. -/
def apply (e : Edit) (current : UInt8) (digit : Fin 16) : NibbleWrite × Edit :=
  let value := UInt8.ofNat digit.val
  match e.next with
  | .high => (⟨value * 16 + current % 16, 1, false⟩, { e with next := .low })
  | .low => (⟨current / 16 * 16 + value, -1, true⟩, { e with next := .high })

end Edit

end Mcs51
