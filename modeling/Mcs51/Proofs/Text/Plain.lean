import Mcs51.Isa.Assembly
import Mcs51.Machine
import Mcs51.Proofs.Screen.Drawing
import Mcs51.Text.Decimal
import Mcs51.Text.Lines

/-! # Text that is drawn as it stands

A plain text has no character that the grid takes as a cursor move. All texts that the console makes
up are plain: hex digits, decimal numbers, fixed-point numbers and the assembly text of every
instruction. Assembly text is moreover printable, and its words hold no blank and no comma.
-/

namespace Mcs51

/-! ### Texts of given characters -/

/-- A text all of whose characters have a property. -/
def TextOf (P : Char → Prop) (text : String) : Prop :=
  ∀ c ∈ text.toList, P c

instance (P : Char → Prop) [DecidablePred P] (text : String) : Decidable (TextOf P text) :=
  List.decidableBAll P text.toList

namespace TextOf

variable {P Q : Char → Prop} {first second : String}

theorem append (left : TextOf P first) (right : TextOf P second) : TextOf P (first ++ second) := by
  intro c member
  rw [String.toList_append, List.mem_append] at member
  exact member.elim (left c) (right c)

theorem ofList {chars : List Char} (each : ∀ c ∈ chars, P c) : TextOf P (String.ofList chars) := by
  intro c member
  rw [String.toList_ofList] at member
  exact each c member

theorem mono (text : TextOf P first) (implies : ∀ c, P c → Q c) : TextOf Q first :=
  fun c member => implies c (text c member)

theorem spaces (blank : P ' ') (n : Nat) : TextOf P (Text.spaces n) := by
  apply ofList
  intro c member
  rw [List.eq_of_mem_replicate member]
  exact blank

theorem padRight (text : TextOf P first) (blank : P ' ') (width : Nat) : TextOf P (Text.padRight width first) :=
  text.append (spaces blank (width - first.length))

theorem fit (text : TextOf P first) (blank : P ' ') (width : Nat) : TextOf P (Text.fit width first) :=
  (ofList fun c member => text c (List.mem_of_mem_take member)).padRight blank width

end TextOf

namespace Codepage

open Grid (Plain)

/-- Outside ASCII, a byte stands for the character whose glyph it has, or for none of the page. -/
theorem decode_encodeChar {c : Char} (high : ¬c.toNat < 0x80) :
    encodeChar c = unmapped ∨ decode (encodeChar c) = c := by
  rw [encodeChar, if_neg high]
  cases found : glyphs.findIdx? (· == c) with
  | none => exact .inl rfl
  | some k =>
    obtain ⟨bound, same, _⟩ := Array.findIdx?_eq_some_iff_getElem.mp found
    have value : (UInt8.ofNat k).toNat = k := UInt8.toNat_ofNat_of_lt' (by rwa [size_glyphs] at bound)
    refine .inr ?_
    simp only [Option.elim_some, decode, index, value, Fin.getElem_fin]
    exact eq_of_beq same

/-- The only characters that move the cursor are line feed, backspace and the glyphs of their bytes. -/
theorem plain_encodeChar_iff {c : Char} : Plain (encodeChar c) ↔ c ∉ ['\n', '\x08', '◘', '◙'] := by
  constructor
  · intro plain member
    revert plain
    simp only [List.mem_cons, List.not_mem_nil, or_false] at member
    rcases member with rfl | rfl | rfl | rfl <;> decide +kernel
  · intro stays
    simp only [List.mem_cons, List.not_mem_nil, or_false, not_or] at stays
    obtain ⟨notLineFeed, notBackspace, notGlyph, notGlyph'⟩ := stays
    have value (low : c.toNat < 0x80) : (encodeChar c).toNat = c.toNat := by
      rw [encodeChar, if_pos low]
      exact UInt8.toNat_ofNat_of_lt' (by simp only [UInt8.size]; omega)
    constructor <;> intro same
    · by_cases low : c.toNat < 0x80
      · rw [same] at value
        exact notLineFeed (Char.toNat_inj.mp (value low).symm)
      · rcases decode_encodeChar low with missing | glyph
        · exact absurd (missing.symm.trans same) (by decide)
        · exact notGlyph' (by rw [← glyph, same]; decide)
    · by_cases low : c.toNat < 0x80
      · rw [same] at value
        exact notBackspace (Char.toNat_inj.mp (value low).symm)
      · rcases decode_encodeChar low with missing | glyph
        · exact absurd (missing.symm.trans same) (by decide)
        · exact notGlyph (by rw [← glyph, same]; decide)

instance (c : Char) : Decidable (Plain (encodeChar c)) :=
  decidable_of_iff _ plain_encodeChar_iff.symm

/-- A text none of whose characters moves the cursor. -/
def PlainText (text : String) : Prop :=
  TextOf (fun c => Plain (encodeChar c)) text

instance (text : String) : Decidable (PlainText text) :=
  inferInstanceAs (Decidable (TextOf _ text))

@[simp] theorem length_encode (text : String) : (encode text).length = text.length := by
  rw [encode, List.length_map, String.length_toList]

theorem PlainText.encode {text : String} (plain : PlainText text) :
    ∀ byte ∈ encode text, Plain byte := by
  intro byte member
  obtain ⟨c, present, rfl⟩ := List.mem_map.mp member
  exact plain c present

theorem PlainText.append {first second : String} (left : PlainText first) (right : PlainText second) :
    PlainText (first ++ second) :=
  TextOf.append left right

theorem plainText_ofList {chars : List Char} (plain : ∀ c ∈ chars, Plain (encodeChar c)) :
    PlainText (String.ofList chars) :=
  TextOf.ofList plain

theorem plainText_spaces (n : Nat) : PlainText (Text.spaces n) :=
  TextOf.spaces (by decide) n

theorem PlainText.intercalate {separator : String} (plain : PlainText separator) {texts : List String}
    (each : ∀ text ∈ texts, PlainText text) : PlainText (separator.intercalate texts) := by
  induction texts with
  | nil =>
    rw [String.intercalate_nil]
    decide
  | cons text rest ih =>
    have first := each text (List.mem_cons_self ..)
    cases rest with
    | nil => rwa [String.intercalate_singleton]
    | cons next rest =>
      rw [String.intercalate_cons_cons]
      exact (first.append plain).append (ih fun other member => each other (List.mem_cons_of_mem _ member))

theorem PlainText.padRight {text : String} (plain : PlainText text) (width : Nat) :
    PlainText (Text.padRight width text) :=
  TextOf.padRight plain (by decide) width

theorem PlainText.fit {text : String} (plain : PlainText text) (width : Nat) :
    PlainText (Text.fit width text) :=
  TextOf.fit plain (by decide) width

@[simp] theorem length_fit (width : Nat) (text : String) :
    (Text.fit width text).length = width := by
  simp only [Text.fit, Text.padRight, String.length_append, String.length_ofList, List.length_take,
    List.length_replicate, String.length_toList]
  omega

/-- A text that is narrow enough is padded and not cut. -/
theorem fit_of_length_le {width : Nat} {text : String} (short : text.length ≤ width) :
    Text.fit width text = text ++ Text.spaces (width - text.length) := by
  rw [Text.fit, Text.padRight, Text.spaces, List.take_of_length_le, String.ofList_toList]
  rwa [String.length_toList]

/-! ### Printable text -/

/-- A printable ASCII character. -/
def Printable (c : Char) : Prop :=
  0x20 ≤ c.toNat ∧ c.toNat < 0x7F

instance (c : Char) : Decidable (Printable c) :=
  inferInstanceAs (Decidable (_ ∧ _))

private theorem printable_of_isAlphanum {c : Char} (written : c.isAlphanum = true) : Printable c := by
  change ((decide (c.val ≥ 'A'.val ∧ c.val ≤ 'Z'.val) || (decide (c.val ≥ 'a'.val) && decide (c.val ≤ 'z'.val))) ||
    (decide (c.val ≥ '0'.val) && decide (c.val ≤ '9'.val))) = true at written
  simp only [Bool.or_eq_true, Bool.and_eq_true, decide_eq_true_eq, UInt32.le_iff_toNat_le, ge_iff_le, Char.reduceVal,
    UInt32.reduceToNat] at written
  have value : c.toNat = c.val.toNat := rfl
  rw [Printable, value]
  omega

/-- No printable character moves the cursor. -/
theorem Printable.plain {c : Char} (printable : Printable c) : Plain (encodeChar c) := by
  rw [plain_encodeChar_iff]
  intro member
  simp only [List.mem_cons, List.not_mem_nil, or_false] at member
  rcases member with rfl | rfl | rfl | rfl <;> exact absurd printable (by decide)

/-- A printable character is the glyph of its own byte. -/
theorem decode_encodeChar_of_printable {c : Char} (printable : Printable c) : decode (encodeChar c) = c := by
  have each : ∀ n < 0x7F, 0x20 ≤ n → decode (UInt8.ofNat n) = Char.ofNat n := by decide +kernel
  obtain ⟨low, high⟩ := printable
  rw [encodeChar, if_pos (by omega), each c.toNat high low, Char.ofNat_toNat]

/-- A row that a printable text is written to shows the text. -/
theorem decodeAll_encode {text : String} (printable : TextOf Printable text) : decodeAll (encode text) = text := by
  have same : text.toList.map (decode ∘ encodeChar) = text.toList.map id :=
    List.map_congr_left fun c member => decode_encodeChar_of_printable (printable c member)
  rw [decodeAll, encode, List.map_map, same, List.map_id, String.ofList_toList]

/-! ### Words of assembly text -/

/-- A character that mnemonics and operands are written with. -/
def WordChar (c : Char) : Prop :=
  c.isAlphanum = true ∨ c ∈ ['@', '#', '/', '.', '+', '?']

instance (c : Char) : Decidable (WordChar c) :=
  inferInstanceAs (Decidable (_ ∨ _))

/-- A text without blanks, commas and cursor moves, as mnemonics and operands are. -/
def WordText (text : String) : Prop :=
  TextOf WordChar text

instance (text : String) : Decidable (WordText text) :=
  inferInstanceAs (Decidable (TextOf _ text))

theorem WordText.append {first second : String} (left : WordText first) (right : WordText second) :
    WordText (first ++ second) :=
  TextOf.append left right

theorem WordChar.printable {c : Char} (written : WordChar c) : Printable c := by
  rcases written with letter | sign
  · exact printable_of_isAlphanum letter
  · simp only [List.mem_cons, List.not_mem_nil, or_false] at sign
    rcases sign with rfl | rfl | rfl | rfl | rfl | rfl <;> decide

theorem WordText.printable {text : String} (word : WordText text) : TextOf Printable text :=
  word.mono fun _ => WordChar.printable

theorem WordText.plain {text : String} (word : WordText text) : PlainText text :=
  word.printable.mono fun _ => Printable.plain

theorem wordText_toString (n : Nat) : WordText (toString n) := by
  intro c member
  rw [Nat.toString_eq_repr, Nat.toList_repr] at member
  have digit := Nat.isDigit_of_mem_toDigits (by decide) (by decide) member
  exact .inl (by rw [Char.isAlphanum, digit, Bool.or_true])

theorem wordChar_hexDigit {n : Nat} (bound : n < 16) : WordChar (Text.hexDigit n) := by
  revert bound
  revert n
  decide

theorem wordText_byteHex (byte : UInt8) : WordText (Text.byteHex byte) := by
  have bound := byte.toNat_lt
  apply TextOf.ofList
  intro c member
  simp only [Text.byteDigits, List.mem_cons, List.not_mem_nil, or_false] at member
  rcases member with rfl | rfl
  · exact wordChar_hexDigit (by omega)
  · exact wordChar_hexDigit (by omega)

private theorem wordHex_eq (word : UInt16) :
    Text.wordHex word = Text.byteHex (word >>> 8).toUInt8 ++ Text.byteHex word.toUInt8 := by
  rw [Text.wordHex, Text.wordDigits, String.ofList_append]
  rfl

theorem wordText_wordHex (word : UInt16) : WordText (Text.wordHex word) := by
  rw [wordHex_eq]
  exact (wordText_byteHex _).append (wordText_byteHex _)

/-! ### Numbers -/

theorem plainText_toString (n : Nat) : PlainText (toString n) :=
  (wordText_toString n).plain

theorem plainText_byteHex (byte : UInt8) : PlainText (Text.byteHex byte) :=
  (wordText_byteHex byte).plain

theorem plainText_wordHex (word : UInt16) : PlainText (Text.wordHex word) :=
  (wordText_wordHex word).plain

private theorem plainText_placesText (places units : Nat) : PlainText (Text.placesText places units) := by
  refine (((plainText_toString _).append (by decide)).append (plainText_ofList ?_)).append
    (plainText_toString _)
  intro c member
  rw [List.eq_of_mem_replicate member]
  decide

theorem plainText_fixed (places : Nat) (x : Float) : PlainText (Text.fixed places x) := by
  have sign : PlainText (if x.toBits < 0x8000000000000000 then "" else "-") := by split <;> decide
  unfold Text.fixed
  split
  · decide
  · dsimp only
    split
    · exact sign.append (by decide)
    · exact sign.append (plainText_placesText _ _)

end Codepage

/-! ### Assembly text -/

open Codepage

theorem Sfr.wordText_of_name? {addr : UInt8} {name : String} (named : Sfr.name? addr = some name) :
    WordText name := by
  have names : ∀ entry ∈ Sfr.named, WordText entry.2 := by decide
  obtain ⟨entry, found, rfl⟩ := Option.map_eq_some_iff.mp named
  exact names entry (List.mem_of_find?_eq_some found)

theorem wordText_bitText (bit : UInt8) : WordText (bitText bit) := by
  unfold bitText
  split
  · rename_i name named
    split at named
    · exact ((Sfr.wordText_of_name? named).append (by decide)).append (wordText_toString _)
    · contradiction
  · exact (wordText_byteHex bit).append (by decide)

theorem Operand.wordText_text (operand : Operand) : WordText operand.text := by
  cases operand <;> rw [Operand.text]
  case acc | pair | carry | dptr | atDptr | atAccDptr | atAccPc => decide
  case reg n => exact WordText.append (by decide) (wordText_toString _)
  case indirect i => exact WordText.append (by decide) (wordText_toString _)
  case direct addr =>
    cases named : Sfr.name? addr with
    | none => exact (wordText_byteHex addr).append (by decide)
    | some name => exact Sfr.wordText_of_name? named
  case immediate value => exact (WordText.append (by decide) (wordText_byteHex value)).append (by decide)
  case immediateWord value => exact (WordText.append (by decide) (wordText_wordHex value)).append (by decide)
  case bit addr => exact wordText_bitText addr
  case notBit addr => exact WordText.append (by decide) (wordText_bitText addr)
  case target addr => exact (wordText_wordHex addr).append (by decide)

namespace Instruction

theorem wordText_mnemonic (i : Instruction) : WordText i.mnemonic := by
  unfold mnemonic
  cases i.operation <;> decide

private theorem printable_operandText (operands : List Operand) : TextOf Printable (operandText operands) := by
  induction operands with
  | nil => decide
  | cons first rest ih =>
    cases rest with
    | nil => exact first.wordText_text.printable
    | cons second rest => exact (first.wordText_text.printable.append (by decide)).append ih

theorem printable_text (i : Instruction) : TextOf Printable i.text := by
  unfold text
  split
  · exact i.wordText_mnemonic.printable
  · exact (i.wordText_mnemonic.printable.append (by decide)).append (printable_operandText _)

end Instruction

end Mcs51
