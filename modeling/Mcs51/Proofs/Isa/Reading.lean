import Mcs51.Proofs.Isa.Bytes
import Mcs51.Proofs.Text.Plain

/-! # Reading assembly text

The inverse of `Instruction.text`: a text is cut into words at its blanks, the first word names the
operation, and the operation says how the other words are read. Direct addresses and bit addresses share
one way of writing, so a word alone does not tell them apart. Main statement: what is read from the text of
an instruction is that instruction (`read?_text`), for operands of every kind and value.
-/

namespace Mcs51

open Text Codepage

/-! ### Numbers -/

/-- A byte from its two digits. -/
def readByte? (high low : Char) : Option UInt8 := do
  let high ← hexValue? high
  let low ← hexValue? low
  return UInt8.ofNat (high * 16 + low)

/-- A byte in hex with a trailing `h`. -/
def readNumber? : List Char → Option UInt8
  | [high, low, 'h'] => readByte? high low
  | _ => none

/-- A word in hex with a trailing `h`. -/
def readWord? : List Char → Option UInt16
  | [a, b, c, d, 'h'] => do
    let high ← readByte? a b
    let low ← readByte? c d
    return high.toUInt16 <<< 8 ||| low.toUInt16
  | _ => none

theorem hexValue?_hexDigit {n : Nat} (bound : n < 16) : hexValue? (hexDigit n) = some n := by
  revert bound
  revert n
  decide

theorem readByte?_byteDigits (byte : UInt8) :
    readByte? (hexDigit (byte.toNat / 16)) (hexDigit (byte.toNat % 16)) = some byte := by
  have bound := byte.toNat_lt
  rw [readByte?, hexValue?_hexDigit (by omega), hexValue?_hexDigit (by omega)]
  simp only [Option.bind_eq_bind, Option.bind_some, Nat.div_add_mod', UInt8.ofNat_toNat, Option.pure_def]

theorem readNumber?_byteHex (byte : UInt8) :
    readNumber? (byteHex byte ++ "h").toList = some byte := by
  rw [String.toList_append, byteHex, String.toList_ofList]
  exact readByte?_byteDigits byte

theorem readWord?_wordHex (word : UInt16) : readWord? (wordHex word ++ "h").toList = some word := by
  rw [String.toList_append, wordHex, String.toList_ofList]
  change (do
    let high ← readByte? _ _
    let low ← readByte? _ _
    return high.toUInt16 <<< 8 ||| low.toUInt16) = _
  rw [readByte?_byteDigits, readByte?_byteDigits]
  exact congrArg some (word_of_bytes word)

/-! ### Operands -/

/-- A direct address by name or in hex. -/
def readDirect? (word : List Char) : Option UInt8 :=
  match Sfr.named.find? fun entry => entry.2.toList == word with
  | some entry => some entry.1.addr
  | none => readNumber? word

/-- A bit address: bit of a named register, or in hex. -/
def readBit? (word : List Char) : Option UInt8 :=
  match word.reverse with
  | digit :: '.' :: name => do
    let register ← readDirect? name.reverse
    let bit ← hexValue? digit
    return register + UInt8.ofNat bit
  | _ => readNumber? word

/-- R0 or R1 behind an at sign. -/
def readIndirect? : List Char → Option (Fin 2)
  | ['@', 'R', digit] => (hexValue? digit).bind fun i => if bound : i < 2 then some ⟨i, bound⟩ else none
  | _ => none

/-- A place: a direct address, the accumulator, or a register. -/
def readPlace? (word : List Char) : Option Place :=
  match readDirect? word, word with
  | some addr, _ => some (.direct addr)
  | none, ['A'] => some .acc
  | none, ['R', digit] =>
      (hexValue? digit).bind fun n => if bound : n < 8 then some (.reg ⟨n, bound⟩) else none
  | none, word => (readIndirect? word).map .indirect

/-- A source: a place, or a byte behind a hash sign. -/
def readSource? (word : List Char) : Option Source :=
  match readPlace? word with
  | some p => some (.place p)
  | none => (readNumber? (word.drop 1)).map .immediate

/-- A bit that is changed. -/
def readBitPlace? (word : List Char) : Option BitPlace :=
  if word = ['C'] then some .carry else (readBit? word).map .bit

/-- A pointer into external memory. -/
def readPointer? (word : List Char) : Option Pointer :=
  if word = "@DPTR".toList then some .dptr else (readIndirect? word).map .reg

theorem readDirect?_of_unnamed {word : List Char} (unnamed : ∀ entry ∈ Sfr.named, entry.2.toList ≠ word) :
    readDirect? word = readNumber? word := by
  have missing : (Sfr.named.find? fun entry => entry.2.toList == word) = none := by
    rw [List.find?_eq_none]
    intro entry member found
    exact unnamed entry member (eq_of_beq found)
  rw [readDirect?, missing]

theorem readDirect?_name {addr : UInt8} {name : String} (named : Sfr.name? addr = some name) :
    readDirect? name.toList = some addr := by
  have each : ∀ entry ∈ Sfr.named, readDirect? entry.2.toList = some entry.1.addr := by decide
  obtain ⟨entry, found, rfl⟩ := Option.map_eq_some_iff.mp named
  have same := @List.find?_some _ (fun entry : Sfr × String => entry.1.addr == addr) _ _ found
  rw [each entry (List.mem_of_find?_eq_some found), eq_of_beq same]

private theorem readDirect?_byteHex (byte : UInt8) :
    readDirect? (byteHex byte ++ "h").toList = some byte := by
  have last : ∀ entry ∈ Sfr.named, entry.2.toList.getLast? ≠ some 'h' := by decide
  rw [readDirect?_of_unnamed, readNumber?_byteHex]
  intro entry member same
  apply last entry member
  rw [same, String.toList_append]
  exact List.getLast?_concat

theorem readDirect?_text (addr : UInt8) :
    readDirect? (Operand.direct addr).text.toList = some addr := by
  rw [Operand.text]
  cases named : Sfr.name? addr with
  | none => exact readDirect?_byteHex addr
  | some name => exact readDirect?_name named

/-- A bit address is its register and its bit number. -/
theorem bit_of_parts (bit : UInt8) : (bit &&& 0xF8) + UInt8.ofNat (bit &&& 0x07).toNat = bit := by
  revert bit
  exact forall_byte (by decide +kernel)

theorem readBit?_text (bit : UInt8) : readBit? (Operand.bit bit).text.toList = some bit := by
  rw [Operand.text, bitText]
  split
  · rename_i name named
    split at named
    · have small : (bit &&& 0x07).toNat < 8 := by
        rw [UInt8.toNat_and]
        exact Nat.lt_of_le_of_lt Nat.and_le_right (by decide)
      have digit : ∀ n < 8, hexValue? (Nat.digitChar n) = some n := by decide
      have reversed : (name ++ "." ++ String.singleton (bit &&& 0x07).toNat.digitChar).toList.reverse =
          (bit &&& 0x07).toNat.digitChar :: '.' :: name.toList.reverse := by
        simp only [String.toList_append, List.reverse_append, String.toList_singleton, List.reverse_singleton]
        rfl
      rw [Nat.toString_eq_repr, Nat.repr_of_lt (by omega), readBit?, reversed]
      simp only [List.reverse_reverse]
      rw [readDirect?_name named, digit _ small]
      exact congrArg some (bit_of_parts bit)
    · contradiction
  · have last : hexDigit (bit.toNat % 16) ≠ '.' := by
      have bound : bit.toNat % 16 < 16 := by omega
      generalize bit.toNat % 16 = n at bound
      revert n
      decide
    have word : (byteHex bit ++ "h").toList.reverse =
        ['h', hexDigit (bit.toNat % 16), hexDigit (bit.toNat / 16)] := by
      rw [String.toList_append, byteHex, String.toList_ofList]
      rfl
    rw [readBit?, word]
    split
    · rename_i same
      exact absurd (List.cons.inj (List.cons.inj same).2).1 last
    · exact readNumber?_byteHex bit

private theorem readIndirect?_text (i : Fin 2) :
    readIndirect? (Operand.indirect i).text.toList = some i := by
  revert i
  decide

theorem readPlace?_text (p : Place) : readPlace? p.operand.text.toList = some p := by
  cases p with
  | acc => decide
  | reg n =>
    revert n
    decide
  | indirect i =>
    revert i
    decide
  | direct addr => simp only [Place.operand, readPlace?, readDirect?_text]

theorem readSource?_text (src : Source) : readSource? src.operand.text.toList = some src := by
  cases src with
  | place p => rw [Source.operand, readSource?, readPlace?_text]
  | immediate value =>
    have first : ∀ entry ∈ Sfr.named, entry.2.toList.head? ≠ some '#' := by decide
    have word : (Operand.immediate value).text.toList = '#' :: (byteHex value ++ "h").toList := by
      rw [Operand.text, String.append_assoc, String.toList_append]
      rfl
    have direct : readDirect? ('#' :: (byteHex value ++ "h").toList) = none := by
      rw [readDirect?_of_unnamed]
      · simp [byteHex, byteDigits, readNumber?]
      · intro entry member same
        exact first entry member (by rw [same, List.head?_cons])
    have place : readPlace? ('#' :: (byteHex value ++ "h").toList) = none := by
      unfold readPlace?
      rw [direct]
      rfl
    rw [Source.operand, word, readSource?, place]
    exact congrArg (Option.map Source.immediate) (readNumber?_byteHex value)

/-! ### Instructions -/

def Mnemonic.all : List Mnemonic :=
  [.nop, .ajmp, .ljmp, .sjmp, .jmp, .acall, .lcall, .ret, .reti, .inc, .dec, .add, .addc, .subb,
    .mul, .div, .da, .anl, .orl, .xrl, .clr, .cpl, .setb, .rl, .rlc, .rr, .rrc, .swap, .mov, .movc,
    .movx, .push, .pop, .xch, .xchd,
    .jc, .jnc, .jb, .jnb, .jbc, .jz, .jnz, .cjne, .djnz, .reserved]

def Mnemonic.ofWord? (word : List Char) : Option Mnemonic :=
  all.find? fun m => m.text.toList == word

private theorem Mnemonic.ofWord?_text (m : Mnemonic) : ofWord? m.text.toList = some m := by
  cases m <;> decide

/-- Logic into the carry flag; a slash complements the bit. -/
def readCarryLogic? (op : CarryOp) : List Char → Option Instruction
  | '/' :: bit => (readBit? bit).map fun bit => .carryLogic op bit true
  | bit => (readBit? bit).map fun bit => .carryLogic op bit false

/-- Logic on two written operands. -/
def readLogic? (op : LogicOp) (dst src : List Char) : Option Instruction := do
  return .logic op (← readPlace? dst) (← readSource? src)

/-- A move between two written operands. -/
def readMov? (dst src : List Char) : Option Instruction :=
  if dst = "DPTR".toList then (readWord? (src.drop 1)).map .movDptr
  else if src = ['C'] then (readBit? dst).map .bitFromCarry
  else if dst = ['C'] then (readBit? src).map .carryFromBit
  else do return .mov (← readPlace? dst) (← readSource? src)

/-- A branch on a written bit. -/
def readBitBranch? (condition : BitCondition) (bit target : List Char) : Option Instruction := do
  return .bitBranch condition (← readBit? bit) (← readWord? target)

/-- A branch on two written operands. -/
def readCompareBranch? (lhs rhs target : List Char) : Option Instruction := do
  return .compareBranch (← readPlace? lhs) (← readSource? rhs) (← readWord? target)

/-- A branch that counts a written place down. -/
def readCountBranch? (p target : List Char) : Option Instruction := do
  return .countBranch (← readPlace? p) (← readWord? target)

/-- The instruction of a mnemonic and its written operands. -/
def Mnemonic.read? : Mnemonic → List (List Char) → Option Instruction
  | .nop, _ => some .nop
  | .reserved, _ => some .reserved
  | .ret, _ => some .ret
  | .reti, _ => some .reti
  | .mul, _ => some .mul
  | .div, _ => some .div
  | .da, _ => some .decimalAdjust
  | .swap, _ => some .swap
  | .rl, _ => some (.rotate .rl)
  | .rlc, _ => some (.rotate .rlc)
  | .rr, _ => some (.rotate .rr)
  | .rrc, _ => some (.rotate .rrc)
  | .jmp, _ => some .jumpTable
  | .ajmp, [target] => (readWord? target).map (.jump .absolute)
  | .ljmp, [target] => (readWord? target).map (.jump .long)
  | .sjmp, [target] => (readWord? target).map (.jump .short)
  | .acall, [target] => (readWord? target).map (.call .absolute)
  | .lcall, [target] => (readWord? target).map (.call .long)
  | .jc, [target] => (readWord? target).map (.branch .carry)
  | .jnc, [target] => (readWord? target).map (.branch .noCarry)
  | .jz, [target] => (readWord? target).map (.branch .zero)
  | .jnz, [target] => (readWord? target).map (.branch .nonzero)
  | .inc, [p] => if p = "DPTR".toList then some .incDptr else (readPlace? p).map .inc
  | .dec, [p] => (readPlace? p).map .dec
  | .push, [addr] => (readDirect? addr).map .push
  | .pop, [addr] => (readDirect? addr).map .pop
  | .clr, [target] => if target = ['A'] then some .clearAcc else (readBitPlace? target).map (.bitOp .clr)
  | .cpl, [target] => if target = ['A'] then some .complementAcc else (readBitPlace? target).map (.bitOp .cpl)
  | .setb, [target] => (readBitPlace? target).map (.bitOp .setb)
  | .add, [_, src] => (readSource? src).map (.arith .add)
  | .addc, [_, src] => (readSource? src).map (.arith .addc)
  | .subb, [_, src] => (readSource? src).map (.arith .subb)
  | .orl, [dst, src] => if dst = ['C'] then readCarryLogic? .orl src else readLogic? .orl dst src
  | .anl, [dst, src] => if dst = ['C'] then readCarryLogic? .anl src else readLogic? .anl dst src
  | .xrl, [dst, src] => readLogic? .xrl dst src
  | .mov, [dst, src] => readMov? dst src
  | .movc, [_, base] => some (.loadCode (if base = "@A+DPTR".toList then .dptr else .pc))
  | .movx, [dst, src] =>
    if dst = ['A'] then (readPointer? src).map .loadExternal else (readPointer? dst).map .storeExternal
  | .xch, [_, p] => (readPlace? p).map .exchange
  | .xchd, [_, p] => (readIndirect? p).map .exchangeDigit
  | .jb, [bit, target] => readBitBranch? .set bit target
  | .jnb, [bit, target] => readBitBranch? .clear bit target
  | .jbc, [bit, target] => readBitBranch? .setClearing bit target
  | .cjne, [lhs, rhs, target] => readCompareBranch? lhs rhs target
  | .djnz, [p, target] => readCountBranch? p target
  | _, _ => none

/-- A word that a reader refuses is not one that it reads. -/
theorem ne_of_read {α : Type} {read : List Char → Option α} {word other : List Char} {a : α}
    (reads : read word = some a) (refuses : read other = none) : word ≠ other := by
  rintro rfl
  rw [refuses] at reads
  contradiction

theorem readBitPlace?_text (b : BitPlace) : readBitPlace? b.operand.text.toList = some b := by
  cases b with
  | carry => decide
  | bit addr =>
    have other := ne_of_read (readBit?_text addr) (show readBit? ['C'] = none by decide)
    rw [BitPlace.operand, readBitPlace?, if_neg other, readBit?_text]
    rfl

theorem readPointer?_text (p : Pointer) : readPointer? p.operand.text.toList = some p := by
  cases p with
  | dptr => decide
  | reg i =>
    revert i
    decide

/-- No bit address is written with a slash in front. -/
theorem head_bitText (bit : UInt8) : (bitText bit).toList.head? ≠ some '/' := by
  unfold bitText
  split
  · rename_i name named
    split at named
    · have each : ∀ entry ∈ Sfr.named, entry.2.toList.head?.any (· ≠ '/') = true := by decide
      obtain ⟨entry, found, rfl⟩ := Option.map_eq_some_iff.mp named
      obtain ⟨c, head, other⟩ :=
        (Option.any_eq_true _ _).mp (each entry (List.mem_of_find?_eq_some found))
      rw [String.append_assoc, String.toList_append, List.head?_append, head, Option.some_or]
      intro same
      cases same
      contradiction
    · contradiction
  · have digit : ∀ n < 16, hexDigit n ≠ '/' := by decide
    have bound := bit.toNat_lt
    rw [String.toList_append, byteHex, String.toList_ofList]
    intro same
    exact digit (bit.toNat / 16) (by omega) (Option.some.inj same)

private theorem readCarryLogic?_text (op : CarryOp) (bit : UInt8) (complement : Bool) :
    readCarryLogic? op (if complement then Operand.notBit bit else .bit bit).text.toList =
      some (.carryLogic op bit complement) := by
  cases complement with
  | true =>
    have word : (Operand.notBit bit).text.toList = '/' :: (Operand.bit bit).text.toList := by
      change ("/" ++ bitText bit).toList = _
      rw [String.toList_append]
      rfl
    rw [if_pos rfl, word, readCarryLogic?, readBit?_text]
    rfl
  | false =>
    rw [if_neg (by decide), readCarryLogic?]
    · rw [readBit?_text]
      rfl
    · intro rest slash
      apply head_bitText bit
      rw [show bitText bit = (Operand.bit bit).text from rfl, slash, List.head?_cons]

private theorem readMov?_text (dst : Place) (src : Source) :
    readMov? dst.operand.text.toList src.operand.text.toList = some (.mov dst src) := by
  have place (word : List Char) (refuses : readPlace? word = none) :=
    ne_of_read (readPlace?_text dst) refuses
  have source := ne_of_read (readSource?_text src) (show readSource? ['C'] = none by decide)
  rw [readMov?, if_neg (place _ (by decide)), if_neg source, if_neg (place _ (by decide)),
    readPlace?_text, readSource?_text]
  rfl

theorem readWord?_target (addr : UInt16) :
    readWord? (Operand.target addr).text.toList = some addr :=
  readWord?_wordHex addr

private theorem readWord?_immediate (value : UInt16) :
    readWord? ((Operand.immediateWord value).text.toList.drop 1) = some value := by
  rw [Operand.text, String.append_assoc, String.toList_append]
  exact readWord?_wordHex value

theorem readLogic?_text (op : LogicOp) (dst : Place) (src : Source) :
    readLogic? op dst.operand.text.toList src.operand.text.toList = some (.logic op dst src) := by
  rw [readLogic?, readPlace?_text, readSource?_text]
  rfl

private theorem readBitBranch?_text (condition : BitCondition) (bit : UInt8) (target : UInt16) :
    readBitBranch? condition (Operand.bit bit).text.toList (Operand.target target).text.toList =
      some (.bitBranch condition bit target) := by
  rw [readBitBranch?, readBit?_text, readWord?_target]
  rfl

private theorem readCompareBranch?_text (lhs : Place) (rhs : Source) (target : UInt16) :
    readCompareBranch? lhs.operand.text.toList rhs.operand.text.toList (Operand.target target).text.toList =
      some (.compareBranch lhs rhs target) := by
  rw [readCompareBranch?, readPlace?_text, readSource?_text, readWord?_target]
  rfl

private theorem readCountBranch?_text (p : Place) (target : UInt16) :
    readCountBranch? p.operand.text.toList (Operand.target target).text.toList =
      some (.countBranch p target) := by
  rw [readCountBranch?, readPlace?_text, readWord?_target]
  rfl

namespace Instruction

/-- What the operands of an instruction are written as reads as the instruction. -/
theorem read?_words (i : Instruction) :
    i.operation.read? (i.operands.map fun operand => operand.text.toList) = some i := by
  cases i
  case nop | reserved | ret | reti | mul | div | decimalAdjust | swap | jumpTable | incDptr | clearAcc
      | complementAcc => rfl
  case rotate how => cases how <;> rfl
  case jump form target => cases form <;> exact congrArg (Option.map _) (readWord?_target target)
  case call form target => cases form <;> exact congrArg (Option.map _) (readWord?_target target)
  case branch condition target => cases condition <;> exact congrArg (Option.map _) (readWord?_target target)
  case inc p =>
    have other := ne_of_read (readPlace?_text p) (show readPlace? "DPTR".toList = none by decide)
    exact (if_neg other).trans (congrArg (Option.map _) (readPlace?_text p))
  case dec p => exact congrArg (Option.map _) (readPlace?_text p)
  case exchange p => exact congrArg (Option.map _) (readPlace?_text p)
  case exchangeDigit i => exact congrArg (Option.map _) (readIndirect?_text i)
  case push addr => exact congrArg (Option.map _) (readDirect?_text addr)
  case pop addr => exact congrArg (Option.map _) (readDirect?_text addr)
  case arith op src => cases op <;> exact congrArg (Option.map _) (readSource?_text src)
  case logic op dst src =>
    have other := ne_of_read (readPlace?_text dst) (show readPlace? ['C'] = none by decide)
    cases op with
    | orl | anl => exact (if_neg other).trans (readLogic?_text _ dst src)
    | xrl => exact readLogic?_text _ dst src
  case carryLogic op bit complement => cases op <;> exact readCarryLogic?_text _ bit complement
  case bitOp op target =>
    have other : target.operand.text.toList ≠ ['A'] :=
      ne_of_read (readBitPlace?_text target) (by decide)
    cases op with
    | cpl | clr => exact (if_neg other).trans (congrArg (Option.map _) (readBitPlace?_text target))
    | setb => exact congrArg (Option.map _) (readBitPlace?_text target)
  case mov dst src => exact readMov?_text dst src
  case movDptr value => exact congrArg (Option.map _) (readWord?_immediate value)
  case bitFromCarry bit =>
    have other := ne_of_read (readBit?_text bit) (show readBit? "DPTR".toList = none by decide)
    exact (if_neg other).trans (congrArg (Option.map _) (readBit?_text bit))
  case carryFromBit bit =>
    have other := ne_of_read (readBit?_text bit) (show readBit? ['C'] = none by decide)
    exact (if_neg other).trans (congrArg (Option.map _) (readBit?_text bit))
  case loadCode base => cases base <;> rfl
  case loadExternal src => exact congrArg (Option.map _) (readPointer?_text src)
  case storeExternal dst =>
    have other : dst.operand.text.toList ≠ ['A'] := ne_of_read (readPointer?_text dst) (by decide)
    exact (if_neg other).trans (congrArg (Option.map _) (readPointer?_text dst))
  case bitBranch condition bit target => cases condition <;> exact readBitBranch?_text _ bit target
  case compareBranch lhs rhs target => exact readCompareBranch?_text lhs rhs target
  case countBranch p target => exact readCountBranch?_text p target

/-! ### Assembly text -/

/-- The words of a text, with commas left out. -/
def wordsOf (text : String) : List (List Char) :=
  (text.toList.filter (· ≠ ',')).splitOn ' '

/-- The instruction that an assembly text says. -/
def read? (text : String) : Option Instruction :=
  match wordsOf text with
  | [] => none
  | mnemonic :: operands => (Mnemonic.ofWord? mnemonic).bind fun m => m.read? operands

theorem blank_not_mem {text : String} (word : WordText text) : ' ' ∉ text.toList :=
  fun member => absurd (word _ member) (by decide)

theorem filter_word {text : String} (word : WordText text) :
    text.toList.filter (· ≠ ',') = text.toList := by
  rw [List.filter_eq_self]
  intro c member
  have comma : c ≠ ',' := by
    rintro rfl
    exact absurd (word _ member) (by decide)
  exact decide_eq_true comma

private theorem filter_operandText (operands : List Operand) :
    (operandText operands).toList.filter (· ≠ ',') =
      [' '].intercalate (operands.map fun operand => operand.text.toList) := by
  induction operands with
  | nil => rfl
  | cons first rest ih =>
    cases rest with
    | nil =>
      rw [List.map_singleton, List.intercalate_singleton]
      exact filter_word first.wordText_text
    | cons second rest =>
      rw [operandText, String.toList_append, String.toList_append, List.filter_append,
        List.filter_append, ih, filter_word first.wordText_text, List.map_cons, List.map_cons, List.map_cons,
        List.intercalate_cons_cons]
      · rfl
      · exact List.cons_ne_nil second rest

/-- The words of assembly text are the mnemonic and the operands. -/
theorem wordsOf_text (i : Instruction) :
    wordsOf i.text = i.mnemonic.toList :: i.operands.map fun operand => operand.text.toList := by
  have joined : i.text.toList.filter (· ≠ ',') =
      [' '].intercalate (i.mnemonic.toList :: i.operands.map fun operand => operand.text.toList) := by
    unfold text
    split
    · rename_i none
      rw [none, List.map_nil, List.intercalate_singleton]
      exact filter_word i.wordText_mnemonic
    · rename_i operands some
      rw [String.toList_append, String.toList_append, List.filter_append, List.filter_append,
        filter_word i.wordText_mnemonic, filter_operandText]
      generalize i.operands = operands at some
      cases operands with
      | nil => exact absurd rfl some
      | cons first rest =>
        rw [List.map_cons, List.intercalate_cons_cons]
        rfl
  rw [wordsOf, joined, List.splitOn_intercalate]
  · intro word member
    rw [List.mem_cons, List.mem_map] at member
    rcases member with rfl | ⟨operand, _, rfl⟩
    · exact blank_not_mem i.wordText_mnemonic
    · exact blank_not_mem operand.wordText_text
  · exact List.cons_ne_nil _ _

/-- The text of an instruction reads as the instruction. -/
theorem read?_text (i : Instruction) : read? i.text = some i := by
  rw [read?, wordsOf_text, mnemonic]
  exact (congrArg (Option.bind · _) (Mnemonic.ofWord?_text i.operation)).trans (read?_words i)

theorem text_injective {i j : Instruction} (same : i.text = j.text) : i = j := by
  have read := read?_text i
  rw [same, read?_text j] at read
  exact (Option.some.inj read).symm

end Instruction

end Mcs51
