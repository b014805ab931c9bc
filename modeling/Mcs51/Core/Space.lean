/-! # Memory spaces

The five byte memories of the machine. Special function registers are addressed 80h to FFh by
instructions; as a space they are indexed from 0.
-/

namespace Mcs51

/-- A byte memory that can be viewed and edited. -/
inductive Space
  /-- Special function registers, 80h to FFh, indexed from 0. -/
  | sfr
  /-- Lower internal RAM, 00h to 7Fh. -/
  | lower
  /-- Upper internal RAM, reachable only through R0, R1 and the stack pointer. -/
  | upper
  /-- External RAM. -/
  | external
  /-- Code memory. -/
  | rom
deriving DecidableEq, Repr

namespace Space

/-- All spaces, in viewing order. -/
def all : List Space :=
  [sfr, lower, upper, external, rom]

/-- The next space in the viewing cycle. -/
def next : Space → Space
  | sfr => lower
  | lower => upper
  | upper => external
  | external => rom
  | rom => sfr

/-- The title shown over the memory window. -/
def title : Space → String
  | sfr => "SFR"
  | lower => "Lower"
  | upper => "Upper"
  | external => "External"
  | rom => "ROM (Code)"

end Space

end Mcs51
