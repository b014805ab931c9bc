/-! # Bytes and words

A finite check over all bytes, and a word as its high and its low byte.
-/

namespace Mcs51

/-- A finite check settles what holds of every byte. -/
theorem forall_byte {P : UInt8 → Prop} (each : ∀ n < 256, P (UInt8.ofNat n)) (byte : UInt8) :
    P byte := by
  have here := each byte.toNat byte.toNat_lt
  rwa [UInt8.ofNat_toNat] at here

/-- The value of a word made of two bytes. -/
theorem toNat_word (high low : UInt8) :
    (high.toUInt16 <<< 8 ||| low.toUInt16).toNat = 256 * high.toNat + low.toNat := by
  have bound := high.toNat_lt
  have shift : UInt16.toNat 8 % 16 = 8 := by decide
  have shifted : high.toNat * 2 ^ 8 % 2 ^ 16 = 2 ^ 8 * high.toNat := by omega
  rw [UInt16.toNat_or, UInt16.toNat_shiftLeft, UInt8.toNat_toUInt16, UInt8.toNat_toUInt16, shift,
    Nat.shiftLeft_eq, shifted, ← Nat.two_pow_add_eq_or_of_lt low.toNat_lt]

theorem toNat_highByte (word : UInt16) : (word >>> 8).toUInt8.toNat = word.toNat / 256 := by
  have bound := word.toNat_lt
  have shift : UInt16.toNat 8 % 16 = 8 := by decide
  rw [UInt16.toNat_toUInt8, UInt16.toNat_shiftRight, shift, Nat.shiftRight_eq_div_pow]
  omega

/-- A word is put together from its two bytes. -/
theorem word_of_bytes (word : UInt16) :
    (word >>> 8).toUInt8.toUInt16 <<< 8 ||| word.toUInt8.toUInt16 = word := by
  apply UInt16.toNat_inj.mp
  rw [toNat_word, toNat_highByte, UInt16.toNat_toUInt8]
  omega

theorem highByte_word (high low : UInt8) :
    ((high.toUInt16 <<< 8 ||| low.toUInt16) >>> 8).toUInt8 = high := by
  have bound := low.toNat_lt
  apply UInt8.toNat_inj.mp
  rw [toNat_highByte, toNat_word]
  omega

theorem lowByte_word (high low : UInt8) : (high.toUInt16 <<< 8 ||| low.toUInt16).toUInt8 = low := by
  have bound := low.toNat_lt
  apply UInt8.toNat_inj.mp
  rw [UInt16.toNat_toUInt8, toNat_word]
  omega

end Mcs51
