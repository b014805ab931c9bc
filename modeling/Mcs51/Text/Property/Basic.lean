/-! # Properties of characters

A property is given by the ranges of characters that have it. Of the tables it is relied on that they leave the
characters of the screen alone.
-/

namespace Mcs51.Text

/-- A property of characters: the closed ranges of code points that have it. -/
abbrev Property := List (Nat × Nat)

def Property.holds (p : Property) (c : Char) : Bool :=
  p.any fun range => range.1 ≤ c.toNat && c.toNat ≤ range.2

end Mcs51.Text
