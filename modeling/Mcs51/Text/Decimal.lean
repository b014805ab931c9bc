/-! # Decimal text with fixed places

A floating-point number is written with a fixed number of decimal places. The exact binary value is
rounded to the nearest decimal; of two equally near ones the even one is taken.
-/

namespace Mcs51.Text

/-- The quotient rounded to the nearest whole number, a half to the even neighbour. -/
def roundDiv (num den : Nat) : Nat :=
  let quotient := num / den
  let rest := num % den
  if den < 2 * rest ∨ (2 * rest = den ∧ quotient % 2 = 1) then quotient + 1 else quotient

/-- The exact value of a finite binary64 number without its sign. -/
structure Dyadic where
  mantissa : Nat
  /-- The value is `mantissa * 2 ^ (exponent - 1074)`. -/
  exponent : Nat
deriving DecidableEq, Repr

/-- Take the bit pattern of a finite number apart. -/
def Dyadic.ofBits (bits : UInt64) : Dyadic :=
  let fraction := (bits &&& 0x000FFFFFFFFFFFFF).toNat
  let biased := (bits >>> 52 &&& 0x7FF).toNat
  if biased = 0 then ⟨fraction, 0⟩ else ⟨0x10000000000000 + fraction, biased - 1⟩

/-- The value in units of `10 ^ (-places)`, rounded. -/
def Dyadic.scaled (x : Dyadic) (places : Nat) : Nat :=
  roundDiv (x.mantissa * Nat.pow 10 places * Nat.pow 2 x.exponent) (Nat.pow 2 1074)

/-- A number of units of `10 ^ (-places)` as decimal text. -/
def placesText (places units : Nat) : String :=
  let one := Nat.pow 10 places
  let digits := toString (units % one)
  toString (units / one) ++ "." ++
    String.ofList (List.replicate (places - digits.length) '0') ++ digits

/-- A number with a fixed, positive number of decimal places. -/
def fixed (places : Nat) (x : Float) : String :=
  if x.isNaN then "NaN"
  else
    let bits := x.toBits
    let sign := if bits < 0x8000000000000000 then "" else "-"
    if x.isInf then sign ++ "inf"
    else sign ++ placesText places ((Dyadic.ofBits bits).scaled places)

end Mcs51.Text
