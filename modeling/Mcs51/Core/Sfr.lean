/-! # Special function registers

A register is a direct address in the upper half of the byte range. The type carries that bound, so
the index into the 128-byte register file is always in range.
-/

namespace Mcs51

/-- The direct address of a special function register. -/
structure Sfr where
  addr : UInt8
  high : 0x80 ≤ addr
deriving DecidableEq

namespace Sfr

def p0 : Sfr := ⟨0x80, by decide⟩
def sp : Sfr := ⟨0x81, by decide⟩
def dpl : Sfr := ⟨0x82, by decide⟩
def dph : Sfr := ⟨0x83, by decide⟩
def pcon : Sfr := ⟨0x87, by decide⟩
def tcon : Sfr := ⟨0x88, by decide⟩
def tmod : Sfr := ⟨0x89, by decide⟩
def tl0 : Sfr := ⟨0x8A, by decide⟩
def tl1 : Sfr := ⟨0x8B, by decide⟩
def th0 : Sfr := ⟨0x8C, by decide⟩
def th1 : Sfr := ⟨0x8D, by decide⟩
def p1 : Sfr := ⟨0x90, by decide⟩
def scon : Sfr := ⟨0x98, by decide⟩
def sbuf : Sfr := ⟨0x99, by decide⟩
def p2 : Sfr := ⟨0xA0, by decide⟩
def ie : Sfr := ⟨0xA8, by decide⟩
def p3 : Sfr := ⟨0xB0, by decide⟩
def ip : Sfr := ⟨0xB8, by decide⟩
def psw : Sfr := ⟨0xD0, by decide⟩
def acc : Sfr := ⟨0xE0, by decide⟩
def b : Sfr := ⟨0xF0, by decide⟩

def index (r : Sfr) : Fin 128 :=
  ⟨r.addr.toNat - 0x80, by have := r.addr.toNat_lt; omega⟩

/-- The registers with an assembler name. -/
def named : List (Sfr × String) :=
  [(p0, "P0"), (sp, "SP"), (dpl, "DPL"), (dph, "DPH"), (pcon, "PCON"), (tcon, "TCON"),
    (tmod, "TMOD"), (tl0, "TL0"), (tl1, "TL1"), (th0, "TH0"), (th1, "TH1"), (p1, "P1"),
    (scon, "SCON"), (sbuf, "SBUF"), (p2, "P2"), (ie, "IE"), (p3, "P3"), (ip, "IP"),
    (psw, "PSW"), (acc, "ACC"), (b, "B")]

/-- The assembler name of a direct address, if it has one. -/
def name? (addr : UInt8) : Option String :=
  (named.find? fun entry => entry.1.addr == addr).map (·.2)

end Sfr

/-! ### Bits of the program status word, as masks -/
namespace Psw

/-- Carry. -/
def cy : UInt8 := 0x80
/-- Auxiliary carry, out of bit 3. -/
def ac : UInt8 := 0x40
/-- High bit of the register bank number. -/
def rs1 : UInt8 := 0x10
/-- Low bit of the register bank number. -/
def rs0 : UInt8 := 0x08
/-- Overflow. -/
def ov : UInt8 := 0x04
/-- Parity of the accumulator. -/
def p : UInt8 := 0x01

end Psw

end Mcs51
