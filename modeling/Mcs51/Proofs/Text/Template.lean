import Mathlib.Data.List.TakeWhile
import Mcs51.Text.Template

/-! # Templates are read as they are written

A written template doubles the braces of its literals, so that a single brace is always one of a slot, whatever
stands beside it. What is read is therefore what was written, piece by piece (`parsePieces_source`).

The reader walks through a text by byte offsets. In a form that checks every slice it stops at no text inside a
character, and it is done after as many turns as there are characters (`readPieces_eq`).
-/

namespace Mcs51.Template

/-! ### What a reader finds at a place -/

theorem parsePieces_doubled {c : Char} (brace : c = opening ∨ c = closing) (rest : List Char) :
    parsePieces (c :: c :: rest) = .literal c :: parsePieces rest := by
  rw [parsePieces, if_pos ⟨brace, rfl⟩]
  rfl

/-- A character that does not begin a doubled brace. -/
def Single (c : Char) (rest : List Char) : Prop :=
  ¬((c = opening ∨ c = closing) ∧ rest.head? = some c)

theorem parsePieces_literal {c : Char} {rest : List Char} (single : Single c rest) (other : c ≠ opening) :
    parsePieces (c :: rest) = .literal c :: parsePieces rest := by
  rw [parsePieces, if_neg single, if_neg other]

theorem parsePieces_slot {rest behind : List Char} {index : Nat} (single : Single opening rest)
    (found : slot? rest = some (index, behind)) : parsePieces (opening :: rest) = .slot index :: parsePieces behind := by
  rw [parsePieces, if_neg single, if_pos rfl]
  split
  case h_1 index' behind' found' =>
    rw [found] at found'
    cases found'
    rfl
  case h_2 missing =>
    rw [found] at missing
    contradiction

theorem parsePieces_unclosed {rest : List Char} (single : Single opening rest) (missing : slot? rest = none) :
    parsePieces (opening :: rest) = .literal opening :: parsePieces rest := by
  rw [parsePieces, if_neg single, if_pos rfl]
  split
  case h_1 found =>
    rw [missing] at found
    contradiction
  case h_2 => rfl

section Split

variable {stop : Char} {front : List Char}

theorem bne_of_absent (absent : stop ∉ front) : ∀ c ∈ front, (c != stop) = true := by
  intro c member
  exact bne_iff_ne.mpr fun same => absent (same ▸ member)

theorem takeWhile_stop (absent : stop ∉ front) (behind : List Char) :
    (front ++ stop :: behind).takeWhile (· != stop) = front := by
  rw [List.takeWhile_append_of_pos (bne_of_absent absent), List.takeWhile_cons_of_neg (by simp), List.append_nil]

private theorem dropWhile_stop (absent : stop ∉ front) (behind : List Char) :
    (front ++ stop :: behind).dropWhile (· != stop) = stop :: behind := by
  rw [List.dropWhile_append_of_pos (bne_of_absent absent), List.dropWhile_cons_of_neg (by simp)]

private theorem takeWhile_absent (absent : stop ∉ front) : front.takeWhile (· != stop) = front := by
  rw [List.takeWhile_eq_self_iff]
  exact bne_of_absent absent

end Split

/-- The text up to the first closing brace says whether it is a slot. -/
theorem slot?_append {inner : List Char} (unclosed : closing ∉ inner) (behind : List Char) :
    slot? (inner ++ closing :: behind) = (slotIndex? inner).map fun index => (index, behind) := by
  rw [slot?, dropWhile_stop unclosed, takeWhile_stop unclosed]

private theorem slot?_of_unclosed {text : List Char} (unclosed : closing ∉ text) : slot? text = none := by
  have dropped : text.dropWhile (· != closing) = [] := by
    rw [List.dropWhile_eq_nil_iff]
    exact bne_of_absent unclosed
  rw [slot?, dropped]

/-! ### Written templates -/

/-- What may stand behind the colon of a slot: a text without braces. -/
structure Format where
  chars : List Char
  plain : opening ∉ chars ∧ closing ∉ chars

/-- A piece of a template that is written. -/
inductive Written
  | literal (text : String)
  | slot (index : UInt64) (format : Option Format)

/-- A character of a literal; a brace is written twice. -/
def escaped (c : Char) : List Char :=
  if c = opening ∨ c = closing then [c, c] else [c]

/-- What stands between the braces of a slot. -/
def slotText (index : UInt64) (format : Option Format) : List Char :=
  index.toNat.repr.toList ++ format.elim [] fun f => ':' :: f.chars

/-- How a piece is written. -/
def Written.source : Written → List Char
  | literal text => text.toList.flatMap escaped
  | slot index format => opening :: slotText index format ++ [closing]

/-- What a piece is read as. -/
def Written.pieces : Written → List TemplatePiece
  | literal text => text.toList.map .literal
  | slot index _ => [.slot index.toNat]

/-- What a piece stands for. -/
def Written.value (args : List String) : Written → String
  | literal text => text
  | slot index _ => args[index.toNat]?.getD ""

/-- The source of written pieces. -/
def source (written : List Written) : String :=
  String.ofList (written.flatMap Written.source)

/-- A number is read back from its digits. -/
theorem number_toDigits (n : Nat) : number (Nat.toDigits 10 n) = n :=
  Nat.ofDigitChars_ten_toDigits

theorem isDigit_of_mem_repr {n : Nat} {c : Char} (member : c ∈ n.repr.toList) : c.isDigit = true := by
  rw [Nat.toList_repr] at member
  exact Nat.isDigit_of_mem_toDigits (by decide) (by decide) member

/-- Between the braces of a slot there are none. -/
theorem not_mem_slotText {brace : Char} (other : brace = opening ∨ brace = closing) (index : UInt64)
    (format : Option Format) : brace ∉ slotText index format := by
  intro member
  have undigit : brace.isDigit = false := by
    rcases other with rfl | rfl <;> decide
  rw [slotText, List.mem_append] at member
  rcases member with digit | behind
  · rw [isDigit_of_mem_repr digit] at undigit
    contradiction
  · cases format with
    | none => contradiction
    | some f =>
      rcases List.mem_cons.mp behind with colon | member
      · rcases other with rfl | rfl <;> exact absurd colon (by decide)
      · rcases other with rfl | rfl
        · exact f.plain.1 member
        · exact f.plain.2 member

/-- What stands in front of the colon, or all there is, are the digits. -/
theorem takeWhile_slotText (index : UInt64) (format : Option Format) :
    (slotText index format).takeWhile (· != ':') = index.toNat.repr.toList := by
  have plain : ':' ∉ index.toNat.repr.toList := by
    intro member
    have digit := isDigit_of_mem_repr member
    contradiction
  cases format with
  | none =>
    rw [slotText, Option.elim_none, List.append_nil]
    exact takeWhile_absent plain
  | some f => exact takeWhile_stop plain f.chars

private theorem slotIndex?_slotText (index : UInt64) (format : Option Format) :
    slotIndex? (slotText index format) = some index.toNat := by
  have present : index.toNat.repr.toList.isEmpty = false := by
    rw [Nat.toList_repr, List.isEmpty_eq_false_iff]
    exact Nat.toDigits_ne_nil
  have digits : index.toNat.repr.toList.all Char.isDigit = true :=
    List.all_eq_true.mpr fun c => isDigit_of_mem_repr
  have unopened : (slotText index format).contains opening = false := by
    rw [List.contains_eq_mem, decide_eq_false_iff_not]
    exact not_mem_slotText (.inl rfl) index format
  have value : number index.toNat.repr.toList = index.toNat := by
    rw [Nat.toList_repr, number_toDigits]
  have bound : index.toNat < indexBound := index.toNat_lt
  simp only [slotIndex?, takeWhile_slotText, present, digits, unopened, value, bound, Bool.not_true, Bool.or_self,
    Bool.false_eq_true, ↓reduceIte]

private theorem parsePieces_escaped (text rest : List Char) :
    parsePieces (text.flatMap escaped ++ rest) = text.map .literal ++ parsePieces rest := by
  induction text with
  | nil => rfl
  | cons c text ih =>
    rw [List.flatMap_cons, List.append_assoc, List.map_cons, escaped]
    by_cases brace : c = opening ∨ c = closing
    · rw [if_pos brace]
      exact (parsePieces_doubled brace _).trans (congrArg _ ih)
    · rw [if_neg brace]
      exact (parsePieces_literal (fun doubled => brace doubled.1) fun same => brace (.inl same)).trans (congrArg _ ih)

/-- A slot begins with a digit, so its brace is no doubled one. -/
theorem single_slotText (index : UInt64) (format : Option Format) (rest : List Char) :
    Single opening (slotText index format ++ rest) := by
  rintro ⟨_, first⟩
  obtain ⟨digit, digits, same⟩ : ∃ digit digits, index.toNat.repr.toList = digit :: digits := by
    rw [Nat.toList_repr]
    exact List.exists_cons_of_ne_nil Nat.toDigits_ne_nil
  have isDigit : digit.isDigit = true := isDigit_of_mem_repr (same ▸ List.mem_cons_self)
  rw [slotText, same] at first
  obtain rfl : digit = opening := Option.some.inj first
  contradiction

/-- A written piece is read as it is, whatever stands behind it. -/
theorem parsePieces_source (piece : Written) (rest : List Char) :
    parsePieces (piece.source ++ rest) = piece.pieces ++ parsePieces rest := by
  cases piece with
  | literal text => exact parsePieces_escaped text.toList rest
  | slot index format =>
    have found : slot? (slotText index format ++ closing :: rest) = some (index.toNat, rest) := by
      rw [slot?_append (not_mem_slotText (.inr rfl) index format), slotIndex?_slotText, Option.map_some]
    have read := parsePieces_slot (single_slotText index format _) found
    rw [Written.source, List.append_assoc]
    exact read

private theorem parsePieces_flatMap_source (written : List Written) :
    parsePieces (written.flatMap Written.source) = written.flatMap Written.pieces := by
  induction written with
  | nil => rw [List.flatMap_nil, parsePieces, List.flatMap_nil]
  | cons piece written ih => rw [List.flatMap_cons, parsePieces_source, ih, List.flatMap_cons]

/-- What a written piece is read as is rendered as what it stands for. -/
theorem flatMap_renderPiece (args : List String) (piece : Written) :
    piece.pieces.flatMap (renderPiece args) = (piece.value args).toList := by
  cases piece with
  | literal text =>
    rw [Written.pieces, List.flatMap_map]
    exact List.flatMap_singleton' _
  | slot index format =>
    rw [Written.pieces, List.flatMap_singleton]
    rfl

private theorem ofList_flatMap_toList (texts : List String) :
    String.ofList (texts.flatMap String.toList) = String.join texts := by
  induction texts with
  | nil => rfl
  | cons text texts ih =>
    rw [List.flatMap_cons, String.ofList_append, String.ofList_toList, ih, String.join_cons]

/-- A written template is rendered as what its pieces stand for. -/
theorem render_parse_source (written : List Written) (args : List String) :
    (parse (source written)).render args = String.join (written.map (·.value args)) := by
  have pieces : (parse (source written)).pieces = written.flatMap Written.pieces := by
    rw [parse, source, String.toList_ofList]
    exact parsePieces_flatMap_source written
  have values : (written.flatMap Written.pieces).flatMap (renderPiece args) =
      (written.map (·.value args)).flatMap String.toList := by
    rw [List.flatMap_assoc, List.flatMap_map]
    simp only [flatMap_renderPiece]
  rw [render, pieces, values, ofList_flatMap_toList]

/-! ### Byte offsets -/

/-- What can stop a reader. -/
inductive Stop
  /-- A slice that ends inside a character. -/
  | insideCharacter
  /-- A slice that ends behind the text. -/
  | pastEnd
  /-- A slice that ends before it begins. -/
  | backwards
  /-- Text that is left when the turns are used up. -/
  | unfinished
deriving DecidableEq, Repr

/-- Bytes that characters take. -/
def byteLength : List Char → Nat
  | [] => 0
  | c :: rest => c.utf8Size + byteLength rest

/-- Cut a text behind a number of bytes. -/
def cut : List Char → Nat → Except Stop (List Char × List Char)
  | text, 0 => .ok ([], text)
  | [], _ + 1 => .error .pastEnd
  | c :: rest, bytes + 1 =>
    if c.utf8Size ≤ bytes + 1 then do
      let (front, behind) ← cut rest (bytes + 1 - c.utf8Size)
      return (c :: front, behind)
    else .error .insideCharacter

/-- The text behind a number of bytes. -/
def dropBytes (text : List Char) (bytes : Nat) : Except Stop (List Char) := do
  return (← cut text bytes).2

/-- The text between two byte offsets. -/
def slice (text : List Char) (first last : Nat) : Except Stop (List Char) :=
  if first ≤ last then do return (← cut (← dropBytes text first) (last - first)).1
  else .error .backwards

/-- Byte offset of a character. -/
def offset? (c : Char) (text : List Char) : Option Nat :=
  if c ∈ text then some (byteLength (text.takeWhile (· != c))) else none

/-- The slot at the start of a text, with the bytes that it takes. -/
def slotAt (text : List Char) : Except Stop (Option (Nat × Nat)) :=
  match offset? closing text with
  | none => return none
  | some close => do
    let inner ← slice text 1 close
    return (slotIndex? inner).map fun index => (index, close + 1)

/-- The piece at the start of a text whose first character is `c`, and the text behind it. -/
def turn (c : Char) (text : List Char) : Except Stop (TemplatePiece × List Char) := do
  if [opening, opening] <+: text then return (.literal opening, ← dropBytes text 2)
  else if [closing, closing] <+: text then return (.literal closing, ← dropBytes text 2)
  else if c = opening then
    match ← slotAt text with
    | some (index, bytes) => return (.slot index, ← dropBytes text bytes)
    | none => return (.literal opening, ← dropBytes text 1)
  else return (.literal c, ← dropBytes text c.utf8Size)

/-- The pieces of a text, one for each turn. -/
def readPieces : Nat → List Char → Except Stop (List TemplatePiece)
  | _, [] => return []
  | 0, _ :: _ => .error .unfinished
  | turns + 1, c :: rest => do
    let (piece, behind) ← turn c (c :: rest)
    return piece :: (← readPieces turns behind)

@[simp] theorem ok_bind {α β : Type} (a : α) (next : α → Except Stop β) : (Except.ok a >>= next) = next a :=
  rfl

@[simp] theorem pure_eq {α : Type} (a : α) : (pure a : Except Stop α) = .ok a :=
  rfl

private theorem byteLength_append (first second : List Char) :
    byteLength (first ++ second) = byteLength first + byteLength second := by
  induction first with
  | nil => exact (Nat.zero_add _).symm
  | cons c rest ih => rw [List.cons_append, byteLength, byteLength, ih, Nat.add_assoc]

/-- A cut behind whole characters succeeds. -/
theorem cut_append (front behind : List Char) : cut (front ++ behind) (byteLength front) = .ok (front, behind) := by
  induction front with
  | nil => exact cut.eq_1 behind
  | cons c front ih =>
    have size : c.utf8Size + byteLength front = c.utf8Size + byteLength front - 1 + 1 := by
      have positive := c.utf8Size_pos
      omega
    have left : c.utf8Size + byteLength front - 1 + 1 - c.utf8Size = byteLength front := by omega
    rw [byteLength, List.cons_append, size, cut, if_pos (by omega), left, ih]
    rfl

theorem dropBytes_append (front behind : List Char) :
    dropBytes (front ++ behind) (byteLength front) = .ok behind := by
  rw [dropBytes, cut_append]
  rfl

private theorem slice_append (front inner behind : List Char) :
    slice (front ++ (inner ++ behind)) (byteLength front) (byteLength front + byteLength inner) = .ok inner := by
  rw [slice, if_pos (Nat.le_add_right ..), dropBytes_append, ok_bind, Nat.add_sub_cancel_left, cut_append]
  rfl

/-! ### One turn -/

private theorem byteLength_opening (text : List Char) : byteLength (opening :: text) = 1 + byteLength text :=
  rfl

/-- What a text with a closing brace begins with: a slot up to that brace, or none. -/
theorem slotAt_append {inner : List Char} (unclosed : closing ∉ inner) (behind : List Char) :
    slotAt (opening :: (inner ++ closing :: behind)) =
      .ok ((slotIndex? inner).map fun index => (index, byteLength (opening :: inner ++ [closing]))) := by
  have outside : closing ∉ opening :: inner := List.not_mem_cons_of_ne_of_not_mem (by decide) unclosed
  have offset : offset? closing (opening :: (inner ++ closing :: behind)) = some (byteLength (opening :: inner)) := by
    have present : closing ∈ opening :: (inner ++ closing :: behind) := by simp
    rw [offset?, if_pos present, ← List.cons_append, takeWhile_stop outside]
  have length : byteLength (opening :: inner ++ [closing]) = byteLength (opening :: inner) + 1 := by
    rw [byteLength_append]
    rfl
  have sliced : slice (opening :: (inner ++ closing :: behind)) 1 (byteLength (opening :: inner)) = .ok inner :=
    byteLength_opening inner ▸ slice_append [opening] inner (closing :: behind)
  rw [slotAt, offset]
  dsimp only
  rw [sliced, ok_bind, length, pure_eq]

private theorem slotAt_of_unclosed {rest : List Char} (unclosed : closing ∉ rest) :
    slotAt (opening :: rest) = .ok none := by
  have outside : closing ∉ opening :: rest := List.not_mem_cons_of_ne_of_not_mem (by decide) unclosed
  rw [slotAt, offset?, if_neg outside]
  rfl

theorem doubled_prefix_iff {brace c : Char} {rest : List Char} :
    [brace, brace] <+: c :: rest ↔ c = brace ∧ rest.head? = some brace := by
  cases rest with
  | nil => simp
  | cons next rest => simp [List.cons_prefix_cons, eq_comm]

private theorem turn_doubled {c : Char} (brace : c = opening ∨ c = closing) (rest : List Char) :
    turn c (c :: c :: rest) = .ok (.literal c, rest) := by
  have here : [c, c] <+: c :: c :: rest := doubled_prefix_iff.mpr ⟨rfl, rfl⟩
  rcases brace with rfl | rfl
  · have dropped : dropBytes (opening :: opening :: rest) 2 = .ok rest := dropBytes_append [opening, opening] rest
    rw [turn, if_pos here, dropped, ok_bind, pure_eq]
  · have other : ¬[opening, opening] <+: closing :: closing :: rest := fun doubled =>
      absurd (doubled_prefix_iff.mp doubled).1 (by decide)
    have dropped : dropBytes (closing :: closing :: rest) 2 = .ok rest := dropBytes_append [closing, closing] rest
    rw [turn, if_neg other, if_pos here, dropped, ok_bind, pure_eq]

theorem dropBytes_cons (c : Char) (rest : List Char) : dropBytes (c :: rest) c.utf8Size = .ok rest :=
  dropBytes_append [c] rest

private theorem turn_literal {c : Char} {rest : List Char} (single : Single c rest) (other : c ≠ opening) :
    turn c (c :: rest) = .ok (.literal c, rest) := by
  have unopened : ¬[opening, opening] <+: c :: rest := fun doubled => other (doubled_prefix_iff.mp doubled).1
  have unclosed : ¬[closing, closing] <+: c :: rest := by
    intro doubled
    obtain ⟨rfl, next⟩ := doubled_prefix_iff.mp doubled
    exact single ⟨.inr rfl, next⟩
  rw [turn, if_neg unopened, if_neg unclosed, if_neg other, dropBytes_cons, ok_bind, pure_eq]

/-- A single opening brace begins a slot or stands for itself. -/
theorem turn_opening {rest : List Char} (single : Single opening rest) :
    turn opening (opening :: rest) = (do
      match ← slotAt (opening :: rest) with
      | some (index, bytes) => return (.slot index, ← dropBytes (opening :: rest) bytes)
      | none => return (.literal opening, rest)) := by
  have unopened : ¬[opening, opening] <+: opening :: rest := fun doubled =>
    single ⟨.inl rfl, (doubled_prefix_iff.mp doubled).2⟩
  have unclosed : ¬[closing, closing] <+: opening :: rest := fun doubled =>
    absurd (doubled_prefix_iff.mp doubled).1 (by decide)
  have dropped : dropBytes (opening :: rest) 1 = .ok rest := dropBytes_cons opening rest
  rw [turn, if_neg unopened, if_neg unclosed, if_pos rfl, dropped]
  rfl

/-- In one turn no slice fails, and what is read is the first of the pieces of the text. -/
theorem exists_turn (c : Char) (rest : List Char) :
    ∃ piece behind, turn c (c :: rest) = .ok (piece, behind) ∧
      parsePieces (c :: rest) = piece :: parsePieces behind ∧ behind.length ≤ rest.length := by
  by_cases doubled : (c = opening ∨ c = closing) ∧ rest.head? = some c
  · obtain ⟨brace, next⟩ := doubled
    obtain ⟨behind, rfl⟩ := List.head?_eq_some_iff.mp next
    exact ⟨.literal c, behind, turn_doubled brace behind, parsePieces_doubled brace behind, Nat.le_succ _⟩
  · by_cases other : c ≠ opening
    · exact ⟨.literal c, rest, turn_literal doubled other, parsePieces_literal doubled other, Nat.le_refl _⟩
    · obtain rfl := not_not.mp other
      rw [turn_opening doubled]
      by_cases closed : closing ∈ rest
      · obtain ⟨inner, behind, rfl, unclosed⟩ := List.eq_append_cons_of_mem closed
        have found := slot?_append unclosed behind
        rw [slotAt_append unclosed, ok_bind]
        cases read : slotIndex? inner with
        | some index =>
          rw [read] at found
          have dropped : dropBytes (opening :: (inner ++ closing :: behind)) (byteLength (opening :: inner ++ [closing])) =
              .ok behind := by
            have cut := dropBytes_append (opening :: inner ++ [closing]) behind
            rwa [List.append_assoc] at cut
          refine ⟨.slot index, behind, ?_, parsePieces_slot doubled found, ?_⟩
          · dsimp only [Option.map_some]
            rw [dropped, ok_bind, pure_eq]
          · rw [List.length_append, List.length_cons]
            omega
        | none =>
          rw [read] at found
          exact ⟨_, _, rfl, parsePieces_unclosed doubled found, Nat.le_refl _⟩
      · rw [slotAt_of_unclosed closed]
        exact ⟨_, _, rfl, parsePieces_unclosed doubled (slot?_of_unclosed closed), Nat.le_refl _⟩

/-- The reader is never stopped: it has read all pieces after as many turns as there are characters. -/
theorem readPieces_eq {turns : Nat} {text : List Char} (enough : text.length ≤ turns) :
    readPieces turns text = .ok (parsePieces text) := by
  induction turns generalizing text with
  | zero =>
    obtain rfl := List.length_eq_zero_iff.mp (Nat.le_zero.mp enough)
    rw [readPieces, parsePieces, pure_eq]
  | succ turns ih =>
    cases text with
    | nil => rw [readPieces, parsePieces, pure_eq]
    | cons c rest =>
      obtain ⟨piece, behind, read, pieces, shorter⟩ := exists_turn c rest
      rw [List.length_cons] at enough
      rw [readPieces, read, ok_bind]
      dsimp only
      rw [ih (by omega), ok_bind, pieces, pure_eq]

/-- A template that is written from literals and slots is rendered as the literals as they were and an argument for
each slot, none for a slot beyond the arguments. Of any text whatever the reader reads all pieces, after as many turns
as there are characters, with no slice that ends inside a character. -/
theorem written_read_rendered :
    (∀ (written : List Written) (args : List String),
      (parse (source written)).render args = String.join (written.map (·.value args))) ∧
    ∀ text : String, readPieces text.length text.toList = .ok (parse text).pieces := by
  refine ⟨render_parse_source, fun text => ?_⟩
  rw [parse]
  exact readPieces_eq (Nat.le_of_eq String.length_toList)

end Mcs51.Template
