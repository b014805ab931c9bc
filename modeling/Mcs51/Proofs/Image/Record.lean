import Mathlib.Algebra.Ring.Nat
import Mathlib.Tactic.SplitIfs
import Mcs51.IntelHex
import Mcs51.Proofs.Isa.Bytes

/-! # Records on a line

What a record of an image is (`Entry`), which bytes encode it (`Entry.Encodes`) and which characters write
these bytes (`Spelled`). A line is read as a record exactly if it holds one of a type up to 5, where besides two
hex digits a plus sign and one digit are taken for a byte (`ofLine_eq_ok_iff`).
-/

namespace Mcs51

/-! ### Digits -/

namespace Text

/-- Whether a character is the hex digit of a number, among the capital or among the small letters. -/
def IsDigit (c : Char) (value : Nat) : Prop :=
  "0123456789ABCDEF".toList[value]? = some c ∨ "0123456789abcdef".toList[value]? = some c

instance (c : Char) (value : Nat) : Decidable (IsDigit c value) :=
  inferInstanceAs (Decidable (_ ∨ _))

theorem IsDigit.lt {c : Char} {value : Nat} (digit : IsDigit c value) : value < 16 := by
  rcases digit with found | found <;> exact (List.getElem?_eq_some_iff.mp found).1

/-- A finite check settles what holds of every digit. -/
theorem IsDigit.induction {P : Char → Nat → Prop}
    (each : ∀ value < 16, P ("0123456789ABCDEF".toList.getD value ' ') value ∧
      P ("0123456789abcdef".toList.getD value ' ') value)
    {c : Char} {value : Nat} (digit : IsDigit c value) : P c value := by
  obtain ⟨capital, small⟩ := each value digit.lt
  rcases digit with found | found
  · rw [List.getD_eq_getElem?_getD, found] at capital
    exact capital
  · rw [List.getD_eq_getElem?_getD, found] at small
    exact small

/-- A character has a value as a digit if and only if it is the digit of that value. -/
theorem hexValue?_eq_some_iff {c : Char} {value : Nat} : hexValue? c = some value ↔ IsDigit c value := by
  constructor
  · intro read
    -- A digit of either case is an ASCII character, which leaves a finite check.
    have ascii : c.toNat < 128 := by
      unfold hexValue? at read
      have below {last : Char} (bound : c ≤ last) (ascii : last.toNat < 128) : c.toNat < 128 :=
        Nat.lt_of_le_of_lt bound ascii
      split_ifs at read with decimal capital small
      · exact below decimal.2 (by decide)
      · exact below capital.2 (by decide)
      · exact below small.2 (by decide)
    have check : ∀ n < 128, ∀ v ∈ hexValue? (Char.ofNat n), IsDigit (Char.ofNat n) v := by decide +kernel
    have digit := check c.toNat ascii value
    rw [Char.ofNat_toNat] at digit
    exact digit read
  · intro digit
    refine IsDigit.induction (P := fun c value => hexValue? c = some value) ?_ digit
    decide +kernel

/-- A digit is no blank. -/
theorem IsDigit.visible {c : Char} {value : Nat} (digit : IsDigit c value) : isBlank c = false := by
  refine IsDigit.induction (P := fun c _ => isBlank c = false) ?_ digit
  decide +kernel

theorem IsDigit.ne_plus {c : Char} {value : Nat} (digit : IsDigit c value) : c ≠ '+' := by
  refine IsDigit.induction (P := fun c _ => c ≠ '+') ?_ digit
  decide +kernel

end Text

namespace IntelHex

open Text

/-! ### Bytes in characters -/

/-- Characters that write bytes, two for each; `pair` says which two characters write a byte. -/
inductive Spelled (pair : Char → Char → UInt8 → Prop) : List Char → List UInt8 → Prop
  | nil : Spelled pair [] []
  | cons {high low : Char} {byte : UInt8} {text : List Char} {bytes : List UInt8}
      (first : pair high low byte) (rest : Spelled pair text bytes) :
      Spelled pair (high :: low :: text) (byte :: bytes)

/-- Two hex digits write a byte, the high nibble first. -/
def HexPair (high low : Char) (byte : UInt8) : Prop :=
  IsDigit high (byte.toNat / 16) ∧ IsDigit low (byte.toNat % 16)

/-- A plus sign and a hex digit, which are read as the byte below 16 of that digit. -/
def SignedPair (high low : Char) (byte : UInt8) : Prop :=
  high = '+' ∧ IsDigit low byte.toNat

/-- The pairs of characters that are read as a byte. -/
def ReadPair (high low : Char) (byte : UInt8) : Prop :=
  HexPair high low byte ∨ SignedPair high low byte

theorem Spelled.mono {pair other : Char → Char → UInt8 → Prop} {text : List Char} {bytes : List UInt8}
    (spelled : Spelled pair text bytes) (weaker : ∀ high low byte, pair high low byte → other high low byte) :
    Spelled other text bytes := by
  induction spelled with
  | nil => exact .nil
  | cons first _ ih => exact .cons (weaker _ _ _ first) ih

theorem pairByte?_eq_some_iff {high low : Char} {byte : UInt8} :
    pairByte? high low = some byte ↔ ReadPair high low byte := by
  have bound := byte.toNat_lt
  unfold pairByte?
  split
  case isTrue signed =>
    have single : (∃ value, hexValue? low = some value ∧ UInt8.ofNat value = byte) ↔ IsDigit low byte.toNat := by
      constructor
      · rintro ⟨value, read, rfl⟩
        have digit := hexValue?_eq_some_iff.mp read
        have small := digit.lt
        rwa [UInt8.toNat_ofNat_of_lt' (by simp only [UInt8.size]; omega)]
      · intro digit
        exact ⟨byte.toNat, hexValue?_eq_some_iff.mpr digit, UInt8.ofNat_toNat⟩
    rw [Option.map_eq_some_iff, single]
    constructor
    · intro digit
      exact .inr ⟨signed, digit⟩
    · rintro (hex | ⟨_, digit⟩)
      · exact absurd signed hex.1.ne_plus
      · exact digit
  case isFalse unsigned =>
    simp only [Option.bind_eq_bind, Option.pure_def, Option.bind_eq_some_iff, hexValue?_eq_some_iff,
      Option.some.injEq]
    constructor
    · rintro ⟨h, digit, l, digit', rfl⟩
      have := digit.lt
      have := digit'.lt
      have value : (UInt8.ofNat (16 * h + l)).toNat = 16 * h + l :=
        UInt8.toNat_ofNat_of_lt' (by simp only [UInt8.size]; omega)
      have high : (16 * h + l) / 16 = h := by omega
      have low : (16 * h + l) % 16 = l := by omega
      rw [ReadPair, HexPair, value, high, low]
      exact .inl ⟨digit, digit'⟩
    · rintro (⟨digit, digit'⟩ | ⟨signed, _⟩)
      · refine ⟨_, digit, _, digit', ?_⟩
        rw [Nat.div_add_mod, UInt8.ofNat_toNat]
      · exact absurd signed unsigned

/-- A text is read as bytes if and only if it writes them in pairs that can be read. -/
theorem bytes?_eq_some_iff {text : List Char} {bytes : List UInt8} :
    bytes? text = some bytes ↔ Spelled ReadPair text bytes := by
  constructor
  · intro read
    fun_induction bytes? text generalizing bytes with
    | case1 =>
      obtain rfl := Option.some.inj read
      exact .nil
    | case2 => contradiction
    | case3 high low rest ih =>
      simp only [Option.bind_eq_bind, Option.pure_def, Option.bind_eq_some_iff, Option.some.injEq] at read
      obtain ⟨byte, first, others, second, rfl⟩ := read
      exact .cons (pairByte?_eq_some_iff.mp first) (ih second)
  · intro spelled
    induction spelled with
    | nil => rfl
    | cons first _ ih => rw [bytes?, pairByte?_eq_some_iff.mpr first, ih]; rfl

/-- Pairs that can be read are hex digits throughout if and only if there is no plus sign. -/
theorem spelled_hexPair_iff {text : List Char} {bytes : List UInt8} :
    Spelled HexPair text bytes ↔ Spelled ReadPair text bytes ∧ '+' ∉ text := by
  constructor
  · intro spelled
    refine ⟨spelled.mono fun _ _ _ hex => .inl hex, ?_⟩
    induction spelled with
    | nil => exact List.not_mem_nil
    | cons first _ ih =>
      simp only [List.mem_cons, not_or]
      exact ⟨first.1.ne_plus.symm, first.2.ne_plus.symm, ih⟩
  · rintro ⟨spelled, unsigned⟩
    induction spelled with
    | nil => exact .nil
    | cons first _ ih =>
      simp only [List.mem_cons, not_or] at unsigned
      refine .cons ?_ (ih unsigned.2.2)
      rcases first with hex | ⟨signed, _⟩
      · exact hex
      · exact absurd signed.symm unsigned.1

/-- What is written in hex digits has no blanks. -/
theorem Spelled.visible {text : List Char} {bytes : List UInt8} (spelled : Spelled HexPair text bytes) :
    ∀ c ∈ text, isBlank c = false := by
  induction spelled with
  | nil => simp
  | cons first _ ih =>
    intro c member
    simp only [List.mem_cons] at member
    rcases member with rfl | rfl | member
    · exact first.1.visible
    · exact first.2.visible
    · exact ih c member

/-! ### Records -/

/-- A record of an image. -/
structure Entry where
  address : UInt16
  kind : UInt8
  data : List UInt8
  /-- The data bytes are counted in one byte. -/
  short : data.length < 256

namespace Entry

/-- The bytes of a record in front of its checksum: count, address, type and data. -/
def fields (e : Entry) : List UInt8 :=
  UInt8.ofNat e.data.length :: (e.address >>> 8).toUInt8 :: e.address.toUInt8 :: e.kind :: e.data

/-- Whether bytes encode a record: its fields, and a checksum byte that makes the total a multiple of 256. -/
def Encodes (e : Entry) (bytes : List UInt8) : Prop :=
  ∃ check, bytes = e.fields ++ [check] ∧ (bytes.map UInt8.toNat).sum % 256 = 0

/-- Whether a line holds a record: a colon, and the bytes of the record in pairs of characters. -/
def HeldBy (pair : Char → Char → UInt8 → Prop) (line : List Char) (e : Entry) : Prop :=
  ∃ body bytes, line = ':' :: body ∧ Spelled pair body bytes ∧ e.Encodes bytes

/-- The run of bytes that a data record contributes; other records contribute none. -/
def chunk? (e : Entry) : Option Chunk :=
  if e.kind = 0 then some ⟨e.address, e.data⟩ else none

/-- What a record is read as. -/
def reading (e : Entry) : Record :=
  if e.kind = 0 then .data ⟨e.address, e.data⟩ else if e.kind = 1 then .endOfFile else .ignored

end Entry

/-! ### Checksums -/

private theorem toNat_sum (bytes : List UInt8) : (sum bytes).toNat = (bytes.map UInt8.toNat).sum % 256 := by
  have fold (start : UInt8) :
      (bytes.foldl (· + ·) start).toNat = (start.toNat + (bytes.map UInt8.toNat).sum) % 256 := by
    induction bytes generalizing start with
    | nil => exact (Nat.mod_eq_of_lt start.toNat_lt).symm
    | cons byte rest ih =>
      rw [List.foldl_cons, ih, UInt8.toNat_add, List.map_cons, List.sum_cons]
      omega
  rw [sum, fold]
  exact congrArg (· % 256) (Nat.zero_add _)

theorem sum_eq_zero_iff {bytes : List UInt8} : sum bytes = 0 ↔ (bytes.map UInt8.toNat).sum % 256 = 0 := by
  rw [← toNat_sum, ← UInt8.toNat_inj]
  rfl

/-! ### Reading a record -/

/-- The checks of a record with at least one byte behind the type. -/
theorem ofBytes_of_payload (line : Nat) (count high low kind : UInt8) {payload : List UInt8}
    (present : payload ≠ []) :
    Record.ofBytes line (count :: high :: low :: kind :: payload) =
      let bytes := count :: high :: low :: kind :: payload
      if bytes.length ≠ count.toNat + 5 then .error (.badLength line (count.toNat + 5) bytes.length)
      else if sum bytes ≠ 0 then .error (.checksum line (checksum bytes.dropLast))
      else if kind = 0 then .ok (.data ⟨high.toUInt16 <<< 8 ||| low.toUInt16, payload.dropLast⟩)
      else if kind = 1 then .ok .endOfFile
      else if kind ≤ 5 then .ok .ignored
      else .error (.unsupportedRecord line kind) := by
  obtain ⟨first, rest, rfl⟩ := List.exists_cons_of_ne_nil present
  rfl

/-- The bytes of a record of a type up to 5 are read as that record. -/
theorem ofBytes_of_encodes {e : Entry} {bytes : List UInt8} (encodes : e.Encodes bytes) (known : e.kind ≤ 5)
    (line : Nat) : Record.ofBytes line bytes = .ok e.reading := by
  obtain ⟨check, rfl, total⟩ := encodes
  have count : (UInt8.ofNat e.data.length).toNat = e.data.length := UInt8.toNat_ofNat_of_lt' e.short
  have length : (e.fields ++ [check]).length = e.data.length + 5 := by
    simp [Entry.fields]
  have zero : sum (e.fields ++ [check]) = 0 := sum_eq_zero_iff.mpr total
  have present : e.data ++ [check] ≠ [] := List.concat_ne_nil check e.data
  have read := ofBytes_of_payload line (UInt8.ofNat e.data.length) (e.address >>> 8).toUInt8 e.address.toUInt8
    e.kind present
  have bytes : UInt8.ofNat e.data.length :: (e.address >>> 8).toUInt8 :: e.address.toUInt8 :: e.kind ::
      (e.data ++ [check]) = e.fields ++ [check] := rfl
  simp only [bytes, count] at read
  rw [read, if_neg (fun different => different length), if_neg (fun different => different zero), word_of_bytes,
    List.dropLast_concat, Entry.reading, if_pos known]
  split_ifs <;> rfl

/-- What is read as a record is the bytes of one, of a type up to 5. -/
theorem exists_of_ofBytes {line : Nat} {bytes : List UInt8} {record : Record}
    (read : Record.ofBytes line bytes = .ok record) :
    ∃ e : Entry, e.Encodes bytes ∧ e.kind ≤ 5 ∧ e.reading = record := by
  have checks := read
  unfold Record.ofBytes at checks
  split at checks
  case h_2 => contradiction
  case h_1 count high low kind first rest =>
    obtain ⟨data, check, payload⟩ : ∃ data check, first :: rest = data ++ [check] :=
      ⟨_, _, (List.dropLast_concat_getLast (List.cons_ne_nil first rest)).symm⟩
    rw [payload] at read checks ⊢
    obtain ⟨length, total, known⟩ : data.length = count.toNat ∧
        sum (count :: high :: low :: kind :: (data ++ [check])) = 0 ∧ kind ≤ 5 := by
      -- Three branches give a record: data, end of file, and an address record.
      dsimp only at checks
      split_ifs at checks with mismatch wrong zero one small
      all_goals simp_all
    let e : Entry := ⟨high.toUInt16 <<< 8 ||| low.toUInt16, kind, data, length ▸ count.toNat_lt⟩
    have encodes : e.Encodes (count :: high :: low :: kind :: (data ++ [check])) := by
      refine ⟨check, ?_, sum_eq_zero_iff.mp total⟩
      rw [Entry.fields, highByte_word, lowByte_word, length, UInt8.ofNat_toNat]
      rfl
    refine ⟨e, encodes, known, ?_⟩
    rw [ofBytes_of_encodes encodes known] at read
    exact Except.ok.inj read

/-- A text is read as a record if and only if it holds one, of a type up to 5, in pairs that can be read. -/
theorem ofLine_eq_ok_iff (line : Nat) {text : List Char} {record : Record} :
    Record.ofLine line text = .ok record ↔
      ∃ e : Entry, e.HeldBy ReadPair text ∧ e.kind ≤ 5 ∧ e.reading = record := by
  constructor
  · intro read
    unfold Record.ofLine at read
    split at read
    case h_2 => contradiction
    case h_1 body =>
      split at read
      case h_2 => contradiction
      case h_1 bytes spelled =>
        obtain ⟨e, encodes, known, same⟩ := exists_of_ofBytes read
        exact ⟨e, ⟨body, bytes, rfl, bytes?_eq_some_iff.mp spelled, encodes⟩, known, same⟩
  · rintro ⟨e, ⟨body, bytes, rfl, spelled, encodes⟩, known, rfl⟩
    simp only [Record.ofLine, bytes?_eq_some_iff.mpr spelled]
    exact ofBytes_of_encodes encodes known line

/-! ### Lines without a plus sign -/

/-- A line holds a record in hex digits if and only if it holds it in pairs that can be read, without a plus
sign. -/
theorem heldBy_hexPair_iff {e : Entry} {line : List Char} :
    e.HeldBy HexPair line ↔ e.HeldBy ReadPair line ∧ '+' ∉ line := by
  have colon : ('+' : Char) ≠ ':' := by decide
  constructor
  · rintro ⟨body, bytes, rfl, spelled, encodes⟩
    obtain ⟨spelled, unsigned⟩ := spelled_hexPair_iff.mp spelled
    refine ⟨⟨body, bytes, rfl, spelled, encodes⟩, ?_⟩
    rw [List.mem_cons, not_or]
    exact ⟨colon, unsigned⟩
  · rintro ⟨⟨body, bytes, rfl, spelled, encodes⟩, unsigned⟩
    rw [List.mem_cons, not_or] at unsigned
    exact ⟨body, bytes, rfl, spelled_hexPair_iff.mpr ⟨spelled, unsigned.2⟩, encodes⟩

/-- What holds a record in hex digits has no blanks. -/
theorem Entry.HeldBy.visible {e : Entry} {line : List Char} (held : e.HeldBy HexPair line) :
    ∀ c ∈ line, isBlank c = false := by
  obtain ⟨body, bytes, rfl, spelled, _⟩ := held
  intro c member
  rcases List.mem_cons.mp member with rfl | member
  · rfl
  · exact spelled.visible c member

end IntelHex

end Mcs51
