import Mcs51.Proofs.Image.Reading

/-! # Reading back what was written

A file written record by record, with blanks, blank lines and line ends as one likes and digits of either case,
is read back into the data of its records, whatever stands behind the line of the end-of-file record
(`parse_written`).
-/

namespace Mcs51.IntelHex

open Text

/-! ### The standard form -/

/-- The standard form of a record: a colon and its bytes in capital digits, the checksum last. -/
def Entry.standard (e : Entry) : List Char :=
  ':' :: (e.fields ++ [checksum e.fields]).flatMap byteDigits

theorem isDigit_hexDigit : ∀ value < 16, IsDigit (hexDigit value) value := by
  decide

private theorem spelled_byteDigits (bytes : List UInt8) : Spelled HexPair (bytes.flatMap byteDigits) bytes := by
  induction bytes with
  | nil => exact .nil
  | cons byte rest ih =>
    have bound := byte.toNat_lt
    exact .cons ⟨isDigit_hexDigit _ (by omega), isDigit_hexDigit _ (by omega)⟩ ih

private theorem sum_append_checksum (bytes : List UInt8) : sum (bytes ++ [checksum bytes]) = 0 := by
  have last : sum (bytes ++ [checksum bytes]) = sum bytes + checksum bytes := List.foldl_concat ..
  rw [last, checksum]
  grind

/-- Every record has a line that holds it. -/
theorem Entry.heldBy_standard (e : Entry) : e.HeldBy HexPair e.standard :=
  ⟨_, _, rfl, spelled_byteDigits _, _, rfl, sum_eq_zero_iff.mp (sum_append_checksum e.fields)⟩

/-! ### Files -/

/-- Spaces and tabs, which may stand around a record. -/
def IsPadding (text : List Char) : Prop :=
  ∀ c ∈ text, c = ' ' ∨ c = '\t'

/-- A text written line by line: blank lines, and one line for each record. -/
inductive Written : List Char → List Entry → Prop
  | nil : Written [] []
  | blank {padding ending text : List Char} {records : List Entry} (blank : IsPadding padding)
      (ends : ending ∈ lineEnds) (rest : Written text records) : Written (padding ++ ending ++ text) records
  | record {left line right ending text : List Char} {e : Entry} {records : List Entry} (before : IsPadding left)
      (held : e.HeldBy HexPair line) (behind : IsPadding right) (ends : ending ∈ lineEnds)
      (rest : Written text records) : Written (left ++ line ++ right ++ ending ++ text) (e :: records)

/-- Whether further text leaves the line in front of it as it is: there is none, or the line ends first. -/
def IsFurther (text : List Char) : Prop :=
  text = [] ∨ ∃ ending ∈ lineEnds, ∃ rest, text = ending ++ rest

theorem IsPadding.blank {text : List Char} (padding : IsPadding text) : ∀ c ∈ text, isBlank c = true := by
  intro c member
  rcases padding c member with rfl | rfl <;> rfl

theorem IsPadding.not_mem {text : List Char} (padding : IsPadding text) : '\n' ∉ text ∧ '\r' ∉ text := by
  constructor
  · intro member
    exact absurd (padding _ member) (by decide)
  · intro member
    exact absurd (padding _ member) (by decide)

section Line

variable {left line right : List Char} {e : Entry} (before : IsPadding left) (held : e.HeldBy HexPair line)
  (behind : IsPadding right)
include before held behind

/-- The line of a record is not broken. -/
theorem not_mem_padded : '\n' ∉ left ++ line ++ right ∧ '\r' ∉ left ++ line ++ right := by
  have feed : '\n' ∉ line := fun member => absurd (held.visible _ member) (by decide)
  have ret : '\r' ∉ line := fun member => absurd (held.visible _ member) (by decide)
  simp only [List.mem_append, not_or]
  exact ⟨⟨⟨before.not_mem.1, feed⟩, behind.not_mem.1⟩, ⟨⟨before.not_mem.2, ret⟩, behind.not_mem.2⟩⟩

theorem trim_padded : trim (left ++ line ++ right) = line :=
  trim_append before.blank held.visible behind.blank

private theorem lines_padded {further : List Char} (cut : IsFurther further) :
    ∃ rest, lines (left ++ line ++ right ++ further) = (left ++ line ++ right) :: rest := by
  obtain ⟨feed, ret⟩ := not_mem_padded before held behind
  rcases cut with rfl | ⟨ending, ends, rest, rfl⟩
  · refine ⟨[], ?_⟩
    rw [List.append_nil]
    apply lines_of_plain feed
    intro none
    have trimmed := trim_padded before held behind
    rw [none] at trimmed
    exact held.ne_nil trimmed.symm
  · refine ⟨lines rest, ?_⟩
    rw [← List.append_assoc]
    exact lines_append feed ret ends rest

end Line

/-- The lines of a written text, with further text behind it, hold an image if those of the further text hold
the image without the records that were written. -/
theorem exists_image_of_written {text : List Char} {records : List Entry} (written : Written text records)
    {further : List Char} {held rest : List (List Char)} (split : lines further = held ++ rest) {ending : Entry}
    (ends : ending.kind = 1) (last : (Image.ofEnding ending ends).HeldBy HexPair held)
    (kinds : ∀ e ∈ records, IsBody e.kind) :
    ∃ held rest, lines (text ++ further) = held ++ rest ∧
      (⟨records, ending, kinds, ends⟩ : Image).HeldBy HexPair held := by
  -- The further text is fixed, so that the image grows at its front, as the text does.
  induction written with
  | nil => exact ⟨held, rest, split, last⟩
  | @blank padding lineEnd text records blank cut _ ih =>
    obtain ⟨held, rest, split, holds⟩ := ih kinds
    refine ⟨padding :: held, rest, ?_, ?_⟩
    · rw [List.append_assoc, lines_append blank.not_mem.1 blank.not_mem.2 cut, split, List.cons_append]
    · exact (Image.heldBy_cons_of_blank (trim_of_blank blank.blank)).mpr holds
  | @record left line right lineEnd text e records before here behind cut _ ih =>
    obtain ⟨body, others⟩ := List.forall_mem_cons.mp kinds
    obtain ⟨held, rest, split, holds⟩ := ih others
    obtain ⟨feed, ret⟩ := not_mem_padded before here behind
    have trimmed := trim_padded before here behind
    refine ⟨(left ++ line ++ right) :: held, rest, ?_, ?_⟩
    · rw [List.append_assoc, lines_append feed ret cut, split, List.cons_append]
    · have text : trim (left ++ line ++ right) ≠ [] := by
        rw [trimmed]
        exact here.ne_nil
      have first : e.HeldBy HexPair (trim (left ++ line ++ right)) := by
        rw [trimmed]
        exact here
      exact (Image.heldBy_cons body text).mpr ⟨first, holds⟩

/-- A written file is read back: the data of its records come out, in order, whatever further lines follow the
end-of-file record. -/
theorem parse_written {image : Image} {text : List Char} (written : Written text image.records)
    {left last right : List Char} (before : IsPadding left) (held : image.ending.HeldBy HexPair last)
    (behind : IsPadding right) {further : List Char} (cut : IsFurther further) :
    parse (String.ofList (text ++ (left ++ last ++ right ++ further))) = .ok image.chunks := by
  obtain ⟨records, ending, kinds, ends⟩ := image
  obtain ⟨rest, split⟩ := lines_padded before held behind cut
  have trimmed := trim_padded before held behind
  have holds : (Image.ofEnding ending ends).HeldBy HexPair [left ++ last ++ right] := by
    have present : trim (left ++ last ++ right) ≠ [] := by
      rw [trimmed]
      exact held.ne_nil
    apply (Image.heldBy_ofEnding ends present).mpr
    rw [trimmed]
    exact ⟨held, rfl⟩
  obtain ⟨held, rest, same, holds⟩ := exists_image_of_written written split ends holds kinds
  rw [parse, String.toList_ofList, parseLines_eq_ok_iff]
  exact ⟨_, held, rest, same, (Image.heldBy_hexPair_iff.mp holds).1, rfl⟩

/-- An address record and a data record, with blanks, a blank line, both line ends and small letters, and a line
behind the end-of-file record that is no record. -/
theorem parse_written_mixed :
    let segment : Entry := ⟨0, 4, [0, 0], by decide⟩
    let data : Entry := ⟨5, 0, [0xAA], by decide⟩
    let text := "\t:020000040000FA \r\n \n:01000500aa50\n".toList
    Written text [segment, data] ∧
      parse (String.ofList (text ++ (" :00000001FF".toList ++ "\r\n?".toList))) = .ok [⟨5, [0xAA]⟩] := by
  intro segment data text
  let image : Image := ⟨[segment, data], ⟨0, 1, [], by decide⟩, by decide, rfl⟩
  have padding (text : String) (plain : text.toList.all (fun c => c == ' ' || c == '\t')) : IsPadding text.toList := by
    simpa [IsPadding] using plain
  have capital : segment.HeldBy HexPair ":020000040000FA".toList := by
    have standard : ":020000040000FA".toList = segment.standard := by decide
    rw [standard]
    exact segment.heldBy_standard
  have small : data.HeldBy HexPair ":01000500aa50".toList := by
    have spelled : Spelled HexPair "01000500aa50".toList [1, 0, 5, 0, 0xAA, 0x50] :=
      spelled_hexPair_iff.mpr ⟨bytes?_eq_some_iff.mp (by decide), by decide⟩
    exact ⟨_, _, by decide, spelled, 0x50, by decide, by decide⟩
  have last : image.ending.HeldBy HexPair ":00000001FF".toList := by
    have standard : ":00000001FF".toList = image.ending.standard := by decide
    rw [standard]
    exact image.ending.heldBy_standard
  have feed : "\n".toList ∈ lineEnds := by decide
  have crlf : "\r\n".toList ∈ lineEnds := by decide
  have written : Written text image.records :=
    .record (padding "\t" rfl) capital (padding " " rfl) crlf
      (.blank (padding " " rfl) feed (.record (padding "" rfl) small (padding "" rfl) feed .nil))
  have further : IsFurther "\r\n?".toList := .inr ⟨_, crlf, "?".toList, by decide⟩
  exact ⟨written, parse_written written (padding " " rfl) last (padding "" rfl) further⟩

end Mcs51.IntelHex
