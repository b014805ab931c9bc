import Mcs51.Proofs.Image.Reading

/-! # One wrong byte

A byte of a record that is written over with another one is always noticed, at the line of that record. If it
is the count, the record has the wrong length; any other byte leaves the length right and spoils the checksum,
which is checked before the type is looked at (`parse_corrupted`).

The text in front of the byte is a `Lead`. It decides how far the reading gets (`Lead.parse_eq`); the text
behind it splits into lines in one way, whatever the byte is (`exists_lines_append`).
-/

namespace Mcs51.IntelHex

open Text

/-! ### Bytes of a record -/

section Bytes

variable {line : Nat} {count byte other : UInt8} {front back bytes : List UInt8}

theorem exists_payload (long : 4 ≤ bytes.length) :
    ∃ high low kind payload, bytes = high :: low :: kind :: payload ∧ payload ≠ [] := by
  match bytes, long with
  | high :: low :: kind :: first :: rest, _ => exact ⟨high, low, kind, first :: rest, rfl, List.cons_ne_nil _ _⟩

/-- The length of a record is checked first. -/
theorem ofBytes_of_length_ne (long : 4 ≤ bytes.length) (wrong : bytes.length + 1 ≠ count.toNat + 5) :
    Record.ofBytes line (count :: bytes) = .error (.badLength line (count.toNat + 5) (bytes.length + 1)) := by
  obtain ⟨high, low, kind, payload, rfl, present⟩ := exists_payload long
  rw [ofBytes_of_payload line count high low kind present]
  exact if_pos wrong

/-- The checksum is checked next, before the type. -/
theorem ofBytes_of_sum_ne_zero (long : 4 ≤ bytes.length) (right : bytes.length + 1 = count.toNat + 5)
    (wrong : sum (count :: bytes) ≠ 0) :
    Record.ofBytes line (count :: bytes) = .error (.checksum line (checksum (count :: bytes).dropLast)) := by
  obtain ⟨high, low, kind, payload, rfl, present⟩ := exists_payload long
  rw [ofBytes_of_payload line count high low kind present]
  exact (if_neg (not_not_intro right)).trans (if_pos wrong)

/-- What is read as a record starts with the count of its data bytes, and adds up to zero. -/
theorem exists_count_of_ofBytes {record : Record} (read : Record.ofBytes line bytes = .ok record) :
    ∃ count rest, bytes = count :: rest ∧ rest.length + 1 = count.toNat + 5 ∧ sum bytes = 0 := by
  obtain ⟨e, ⟨check, rfl, total⟩, -, -⟩ := exists_of_ofBytes read
  have count : (UInt8.ofNat e.data.length).toNat = e.data.length := UInt8.toNat_ofNat_of_lt' e.short
  refine ⟨_, _, rfl, ?_, sum_eq_zero_iff.mpr total⟩
  rw [count]
  simp

/-- Bytes that differ in one place have different sums. -/
theorem sum_ne_of_ne (different : other ≠ byte) (zero : sum (front ++ byte :: back) = 0) :
    sum (front ++ other :: back) ≠ 0 := by
  have apart : other.toNat ≠ byte.toNat := fun same => different (UInt8.toNat_inj.mp same)
  have bound := byte.toNat_lt
  have bound' := other.toNat_lt
  rw [sum_eq_zero_iff, List.map_append, List.sum_append, List.map_cons, List.sum_cons] at zero
  rw [Ne, sum_eq_zero_iff, List.map_append, List.sum_append, List.map_cons, List.sum_cons]
  omega

/-- A wrong count is an error of the length. -/
theorem ofBytes_wrong_count {record : Record} (read : Record.ofBytes line (byte :: back) = .ok record)
    (different : other ≠ byte) :
    Record.ofBytes line (other :: back) = .error (.badLength line (other.toNat + 5) (back.length + 1)) := by
  obtain ⟨count, rest, same, length, -⟩ := exists_count_of_ofBytes read
  obtain ⟨rfl, rfl⟩ := List.cons.inj same
  have apart : other.toNat ≠ byte.toNat := fun same => different (UInt8.toNat_inj.mp same)
  apply ofBytes_of_length_ne <;> omega

/-- Any other wrong byte is an error of the checksum. -/
theorem ofBytes_wrong_byte {record : Record} (read : Record.ofBytes line (front ++ byte :: back) = .ok record)
    (behind : front ≠ []) (different : other ≠ byte) :
    Record.ofBytes line (front ++ other :: back) =
      .error (.checksum line (checksum (front ++ other :: back).dropLast)) := by
  obtain ⟨count, front, rfl⟩ := List.exists_cons_of_ne_nil behind
  obtain ⟨_, rest, same, length, zero⟩ := exists_count_of_ofBytes read
  rw [List.cons_append] at same ⊢
  obtain ⟨rfl, rfl⟩ := List.cons.inj same
  have kept : (front ++ other :: back).length = (front ++ byte :: back).length := by
    rw [List.length_append, List.length_append, List.length_cons, List.length_cons]
  apply ofBytes_of_sum_ne_zero
  · omega
  · omega
  · exact sum_ne_of_ne different zero

end Bytes

private theorem bytes?_append {text : List Char} {bytes : List UInt8} (spelled : Spelled ReadPair text bytes)
    (rest : List Char) : bytes? (text ++ rest) = (bytes? rest).map (bytes ++ ·) := by
  induction spelled with
  | nil => simp
  | cons first _ ih =>
    rw [List.cons_append, List.cons_append, bytes?, pairByte?_eq_some_iff.mpr first, ih]
    cases bytes? rest <;> rfl

/-! ### In front of a byte -/

/-- The text in front of a byte of a record, at or before the end-of-file record: whole lines, then on the line
of the record blanks, the colon and the bytes in front of this one. -/
structure Lead where
  earlier : List Char
  padding : List Char
  digits : List Char
  /-- The bytes of the record in front of this one. -/
  front : List UInt8
  whole : EndsLine earlier
  blank : ∀ c ∈ padding, isBlank c = true ∧ c ≠ '\n'
  spelled : Spelled HexPair digits front
  /-- No line in front holds an end-of-file record. -/
  unended : ∀ line ∈ lines earlier, ∀ e : Entry, e.HeldBy ReadPair (trim line) → e.kind ≠ 1

namespace Lead

def text (lead : Lead) : List Char :=
  lead.earlier ++ (lead.padding ++ ':' :: lead.digits)

/-- The number of the line of the record. -/
def line (lead : Lead) : Nat :=
  lead.earlier.count '\n' + 1

/-- The beginning of the line of the record, up to and with a byte. -/
def fragment (lead : Lead) (high low : Char) : List Char :=
  lead.padding ++ ':' :: (lead.digits ++ [high, low])

variable (lead : Lead) {high low : Char} {byte : UInt8}

private theorem text_append (high low : Char) (right : List Char) :
    lead.text ++ high :: low :: right = lead.earlier ++ (lead.fragment high low ++ right) := by
  simp [text, fragment]

private theorem fragment_ne_nil : lead.fragment high low ≠ [] := by
  simp [fragment]

private theorem getLast?_fragment : (lead.fragment high low).getLast? = some low := by
  simp [fragment, List.getLast?_cons]

/-- A byte does not break the line of its record. -/
theorem not_mem_fragment (encoded : HexPair high low byte) : '\n' ∉ lead.fragment high low := by
  have visible (c : Char) (seen : isBlank c = false) : '\n' ≠ c := by
    rintro rfl
    exact absurd seen (by decide)
  simp only [fragment, List.mem_append, List.mem_cons, List.not_mem_nil, or_false, not_or]
  refine ⟨?_, by decide, ?_, visible _ encoded.1.visible, visible _ encoded.2.visible⟩
  · intro member
    exact (lead.blank _ member).2 rfl
  · intro member
    exact visible _ (lead.spelled.visible _ member) rfl

/-- The line of the record without its blanks. -/
theorem trim_fragment (encoded : HexPair high low byte) (tail : List Char) :
    trim (lead.fragment high low ++ tail) =
      ':' :: (lead.digits ++ high :: low :: (tail.reverse.dropWhile isBlank).reverse) := by
  have before : ∀ c ∈ lead.padding, isBlank c = true := fun c member => (lead.blank c member).1
  have first : ∀ c, (':' :: (lead.digits ++ [high, low])).head? = some c → isBlank c = false := by
    intro c found
    obtain rfl := Option.some.inj found
    rfl
  have last : ∀ c, (':' :: (lead.digits ++ [high, low])).getLast? = some c → isBlank c = false := by
    intro c found
    have low : (':' :: (lead.digits ++ [high, low])).getLast? = some low := by
      simp [List.getLast?_cons]
    obtain rfl := Option.some.inj (low.symm.trans found)
    exact encoded.2.visible
  rw [fragment, trim_of_visible before first last (List.cons_ne_nil _ _)]
  simp

/-- The record is read from the bytes in front, this byte and the bytes behind it. -/
theorem ofLine_fragment (encoded : HexPair high low byte) (n : Nat) (tail : List Char) :
    Record.ofLine n (trim (lead.fragment high low ++ tail)) =
      match bytes? (tail.reverse.dropWhile isBlank).reverse with
      | some back => Record.ofBytes n (lead.front ++ byte :: back)
      | none => .error (.invalidDigit n) := by
  have front : Spelled ReadPair lead.digits lead.front := lead.spelled.mono fun _ _ _ hex => .inl hex
  have pair : pairByte? high low = some byte := pairByte?_eq_some_iff.mpr (.inl encoded)
  rw [lead.trim_fragment encoded, Record.ofLine, bytes?_append front, bytes?, pair]
  cases bytes? (tail.reverse.dropWhile isBlank).reverse <;> rfl

end Lead

/-! ### Lines in front of a record -/

/-- Lines without an end-of-file record are read the same way whatever follows: up to an error in them, or up
to their end. -/
theorem parseLines_append {before : List (List Char)}
    (unended : ∀ line ∈ before, ∀ e : Entry, e.HeldBy ReadPair (trim line) → e.kind ≠ 1) (n : Nat)
    (read : List Chunk) :
    (∃ e, ∀ rest, parseLines n read (before ++ rest) = .error e) ∨
      ∃ read', ∀ rest, parseLines n read (before ++ rest) = parseLines (n + before.length) read' rest := by
  induction before generalizing n read with
  | nil => exact .inr ⟨read, fun rest => rfl⟩
  | cons line before ih =>
    obtain ⟨here, later⟩ := List.forall_mem_cons.mp unended
    have length : n + (line :: before).length = n + 1 + before.length := by
      rw [List.length_cons]
      omega
    simp only [List.cons_append, length]
    by_cases blank : trim line = []
    · simp only [parseLines_of_blank blank]
      exact ih later (n + 1) read
    · cases found : Record.ofLine n (trim line) with
      | error e =>
        refine .inl ⟨e, fun rest => ?_⟩
        rw [parseLines_of_text blank, found]
      | ok record =>
        obtain ⟨e, held, known, -⟩ := (ofLine_eq_ok_iff n).mp found
        have body := (kind_cases known).resolve_left (here e held)
        simp only [parseLines_of_body held body]
        exact ih later (n + 1) _

private theorem ofLine_of_parseLines {line : List Char} {rest : List (List Char)} {n : Nat} {read chunks : List Chunk}
    (text : trim line ≠ []) (parsed : parseLines n read (line :: rest) = .ok chunks) :
    ∃ record, Record.ofLine n (trim line) = .ok record := by
  rw [parseLines_of_text text] at parsed
  cases found : Record.ofLine n (trim line) with
  | error e =>
    rw [found] at parsed
    contradiction
  | ok record => exact ⟨record, rfl⟩

namespace Lead

variable (lead : Lead)

/-- The reading of a text comes to the line of a byte and reads its record there, or stops in front of it,
whatever the byte is. -/
theorem parse_eq (right : List Char) :
    ∃ tail, (∃ e, ∀ {high low : Char} {byte : UInt8}, HexPair high low byte →
        parse (String.ofList (lead.text ++ high :: low :: right)) = .error e) ∨
      ∃ read rest, ∀ {high low : Char} {byte : UInt8}, HexPair high low byte →
        parse (String.ofList (lead.text ++ high :: low :: right)) =
          parseLines lead.line read ((lead.fragment high low ++ tail) :: rest) := by
  obtain ⟨tail, rest, split⟩ := exists_lines_append right
  have lined {high low : Char} {byte : UInt8} (encoded : HexPair high low byte) :
      parse (String.ofList (lead.text ++ high :: low :: right)) =
        parseLines 1 [] (lines lead.earlier ++ (lead.fragment high low ++ tail) :: rest) := by
    have ret (c : Char) (found : (lead.fragment high low).getLast? = some c) : c ≠ '\r' := by
      obtain rfl := Option.some.inj (lead.getLast?_fragment.symm.trans found)
      rintro rfl
      exact absurd encoded.2.visible (by decide)
    rw [parse, String.toList_ofList, lead.text_append, lines_append_of_endsLine lead.whole,
      split _ (lead.not_mem_fragment encoded) lead.fragment_ne_nil ret]
  refine ⟨tail, ?_⟩
  rcases parseLines_append lead.unended 1 [] with ⟨e, stops⟩ | ⟨read, goes⟩
  · exact .inl ⟨e, fun encoded => (lined encoded).trans (stops _)⟩
  · refine .inr ⟨read, rest, fun encoded => ?_⟩
    rw [lined encoded, goes, length_lines_of_endsLine lead.whole, Nat.add_comm 1, line]

variable {lead}

/-- If the bytes of the record are refused, so is the text. -/
theorem parse_eq_error {tail right : List Char} {rest : List (List Char)} {read : List Chunk} {high low : Char}
    {byte : UInt8} {back : List UInt8} {e : Error}
    (goes : ∀ {high low : Char} {byte : UInt8}, HexPair high low byte →
      parse (String.ofList (lead.text ++ high :: low :: right)) =
        parseLines lead.line read ((lead.fragment high low ++ tail) :: rest))
    (encoded : HexPair high low byte) (behind : bytes? (tail.reverse.dropWhile isBlank).reverse = some back)
    (refused : Record.ofBytes lead.line (lead.front ++ byte :: back) = .error e) :
    parse (String.ofList (lead.text ++ high :: low :: right)) = .error e := by
  have text : trim (lead.fragment high low ++ tail) ≠ [] := by
    rw [lead.trim_fragment encoded]
    exact List.cons_ne_nil _ _
  have found := lead.ofLine_fragment encoded lead.line tail
  rw [behind] at found
  dsimp only at found
  rw [refused] at found
  rw [goes encoded, parseLines_of_text text, found]

end Lead

/-- A text that is read as an image is refused when one byte of a record is written over with another byte, at
the line of that record: for the length if the byte is the count, and for the checksum otherwise. -/
theorem parse_corrupted (lead : Lead) {high low high' low' : Char} {byte byte' : UInt8}
    (encoded : HexPair high low byte) (overwritten : HexPair high' low' byte') (different : byte' ≠ byte)
    {right : List Char} {chunks : List Chunk}
    (parsed : parse (String.ofList (lead.text ++ high :: low :: right)) = .ok chunks) :
    let corrupted := String.ofList (lead.text ++ high' :: low' :: right)
    (lead.front = [] ∧ ∃ length, parse corrupted = .error (.badLength lead.line (byte'.toNat + 5) length)) ∨
      (lead.front ≠ [] ∧ ∃ computed, parse corrupted = .error (.checksum lead.line computed)) := by
  intro corrupted
  obtain ⟨tail, ⟨e, stops⟩ | ⟨read, rest, goes⟩⟩ := lead.parse_eq right
  · rw [stops encoded] at parsed
    contradiction
  · have text : trim (lead.fragment high low ++ tail) ≠ [] := by
      rw [lead.trim_fragment encoded]
      exact List.cons_ne_nil _ _
    rw [goes encoded] at parsed
    obtain ⟨record, found⟩ := ofLine_of_parseLines text parsed
    rw [lead.ofLine_fragment encoded] at found
    cases behind : bytes? (tail.reverse.dropWhile isBlank).reverse with
    | none =>
      rw [behind] at found
      contradiction
    | some back =>
      rw [behind] at found
      by_cases count : lead.front = []
      · left
        refine ⟨count, back.length + 1, Lead.parse_eq_error goes overwritten behind ?_⟩
        rw [count] at found ⊢
        exact ofBytes_wrong_count found different
      · right
        exact ⟨count, _, Lead.parse_eq_error goes overwritten behind (ofBytes_wrong_byte found count different)⟩

/-- The type of a data record behind a blank line, written over with that of an end-of-file record. -/
theorem parse_corrupted_type :
    ∃ lead : Lead, lead.text = "\r\n :010005".toList ∧
      parse (String.ofList (lead.text ++ '0' :: '0' :: "aa50\n:00000001FF".toList)) = .ok [⟨5, [0xAA]⟩] ∧
      ∃ computed, parse (String.ofList (lead.text ++ '0' :: '1' :: "aa50\n:00000001FF".toList)) =
        .error (.checksum 2 computed) := by
  have unended : ∀ line ∈ lines "\r\n".toList, ∀ e : Entry, e.HeldBy ReadPair (trim line) → e.kind ≠ 1 := by
    intro line member e held
    have empty : lines "\r\n".toList = [[]] := by decide
    obtain rfl := List.mem_singleton.mp (empty ▸ member)
    exact absurd rfl held.ne_nil
  let lead : Lead :=
    { earlier := "\r\n".toList
      padding := [' ']
      digits := "010005".toList
      front := [1, 0, 5]
      whole := fun c found => (Option.some.inj found).symm
      blank := List.forall_mem_singleton.mpr ⟨rfl, by decide⟩
      spelled := spelled_hexPair_iff.mpr ⟨bytes?_eq_some_iff.mp (by decide), by decide⟩
      unended := unended }
  have zero : HexPair '0' '0' 0 := ⟨by decide, by decide⟩
  have one : HexPair '0' '1' 1 := ⟨by decide, by decide⟩
  have text : lead.text = "\r\n :010005".toList := rfl
  have parsed : parse (String.ofList (lead.text ++ '0' :: '0' :: "aa50\n:00000001FF".toList)) = .ok [⟨5, [0xAA]⟩] := by
    rw [text]
    decide
  refine ⟨lead, text, parsed, ?_⟩
  rcases parse_corrupted lead zero one (by decide) parsed with ⟨none, _⟩ | ⟨_, refused⟩
  · exact absurd none (List.cons_ne_nil _ _)
  · exact refused

end Mcs51.IntelHex
