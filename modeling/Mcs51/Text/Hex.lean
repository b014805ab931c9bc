/-! # Hexadecimal text

Bytes are written as two upper-case digits and words as four, high half first. Digits are read in
either case.
-/

namespace Mcs51.Text

/-- The upper-case digit of a number below sixteen. -/
def hexDigit (n : Nat) : Char :=
  if n < 10 then Char.ofNat (48 + n) else Char.ofNat (55 + n)

/-- The value of a hex digit of either case. -/
def hexValue? (c : Char) : Option Nat :=
  if '0' ≤ c ∧ c ≤ '9' then some (c.toNat - 48)
  else if 'A' ≤ c ∧ c ≤ 'F' then some (c.toNat - 55)
  else if 'a' ≤ c ∧ c ≤ 'f' then some (c.toNat - 87)
  else none

/-- The two digits of a byte, high half first. -/
def byteDigits (byte : UInt8) : List Char :=
  [hexDigit (byte.toNat / 16), hexDigit (byte.toNat % 16)]

/-- The four digits of a word, high byte first. -/
def wordDigits (word : UInt16) : List Char :=
  byteDigits (word >>> 8).toUInt8 ++ byteDigits word.toUInt8

/-- A byte as two hex digits. -/
def byteHex (byte : UInt8) : String :=
  String.ofList (byteDigits byte)

/-- A word as four hex digits. -/
def wordHex (word : UInt16) : String :=
  String.ofList (wordDigits word)

@[simp] theorem length_byteDigits (byte : UInt8) : (byteDigits byte).length = 2 := rfl

@[simp] theorem length_wordDigits (word : UInt16) : (wordDigits word).length = 4 := rfl

@[simp] theorem length_byteHex (byte : UInt8) : (byteHex byte).length = 2 := by
  rw [byteHex, String.length_ofList, length_byteDigits]

@[simp] theorem length_wordHex (word : UInt16) : (wordHex word).length = 4 := by
  rw [wordHex, String.length_ofList, length_wordDigits]

end Mcs51.Text
