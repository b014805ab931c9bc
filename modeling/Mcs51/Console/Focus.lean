/-! # Focus

Which part of the screen receives cursor moves and hex digits.
-/

namespace Mcs51

/-- The part of the screen that is edited. -/
inductive Focus
  /-- The window onto the selected memory. -/
  | memory
  /-- A, R0 to R7, B. -/
  | registers
  /-- The two bytes of the data pointer. -/
  | dataPointer
  /-- The address for go and breakpoint. -/
  | addressInput
deriving DecidableEq, Repr

namespace Focus

def all : List Focus :=
  [memory, registers, dataPointer, addressInput]

/-- The next part in tab order: memory and registers alternate, all else returns to memory. -/
def next : Focus → Focus
  | memory => registers
  | registers | dataPointer | addressInput => memory

def name : Focus → String
  | memory => "Memory"
  | registers => "Registers"
  | dataPointer => "DPTR"
  | addressInput => "Address"

end Focus

end Mcs51
