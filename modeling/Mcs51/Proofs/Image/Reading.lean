import Mathlib.Data.List.Forall2
import Mcs51.Proofs.Image.Record
import Mcs51.Proofs.Text.Lines

/-! # What a reader of images accepts

An image is records up to an end-of-file record (`Image`), and lines hold it if their texts, without the blank
ones, hold these records one by one (`Image.HeldBy`). A text is read exactly if its lines begin with such lines;
a plus sign in one of them is the only thing that is read and is no Intel HEX (`parse_eq_ok_iff`).
-/

namespace Mcs51.IntelHex

open Text

/-- Whether a type is that of a data record or of an address record. -/
def IsBody (kind : UInt8) : Prop :=
  kind = 0 ∨ 2 ≤ kind ∧ kind ≤ 5

instance (kind : UInt8) : Decidable (IsBody kind) :=
  inferInstanceAs (Decidable (_ ∨ _))

private theorem IsBody.le {kind : UInt8} (body : IsBody kind) : kind ≤ 5 := by
  rcases body with rfl | ⟨_, bound⟩
  · decide
  · exact bound

private theorem IsBody.ne_one {kind : UInt8} (body : IsBody kind) : kind ≠ 1 := by
  rintro rfl
  exact absurd body (by decide)

/-- A type up to 5 is that of an end-of-file record or of another record. -/
theorem kind_cases {kind : UInt8} (known : kind ≤ 5) : kind = 1 ∨ IsBody kind := by
  refine forall_byte (P := fun kind => kind ≤ 5 → kind = 1 ∨ IsBody kind) ?_ kind known
  decide +kernel

/-- An image: data and address records in order, and the end-of-file record behind them. -/
structure Image where
  records : List Entry
  ending : Entry
  kinds : ∀ e ∈ records, IsBody e.kind
  ends : ending.kind = 1

namespace Image

/-- The data that an image contributes: addresses and bytes of the data records, in order. -/
def chunks (image : Image) : List Chunk :=
  image.records.filterMap Entry.chunk?

/-- The texts of lines without the blanks at their ends; blank lines are left out. -/
def texts (lines : List (List Char)) : List (List Char) :=
  (lines.map trim).filter (!·.isEmpty)

/-- Whether lines hold an image: one record in each line that is not blank, the end-of-file record last. -/
def HeldBy (pair : Char → Char → UInt8 → Prop) (lines : List (List Char)) (image : Image) : Prop :=
  List.Forall₂ (fun text e => e.HeldBy pair text) (texts lines) (image.records ++ [image.ending])

/-- The image of an end-of-file record alone. -/
def ofEnding (ending : Entry) (ends : ending.kind = 1) : Image where
  records := []
  ending := ending
  kinds _ member := absurd member List.not_mem_nil
  ends := ends

/-- An image with one more record in front. -/
def cons (e : Entry) (body : IsBody e.kind) (image : Image) : Image where
  records := e :: image.records
  ending := image.ending
  kinds := List.forall_mem_cons.mpr ⟨body, image.kinds⟩
  ends := image.ends

theorem chunks_cons (e : Entry) (body : IsBody e.kind) (image : Image) :
    (image.cons e body).chunks = e.chunk?.toList ++ image.chunks := by
  rw [chunks, cons, List.filterMap_cons]
  cases e.chunk? <;> rfl

/-- An image consists of its end-of-file record, or has a first record. -/
theorem eq_ofEnding_or_cons (image : Image) :
    (∃ ending ends, image = ofEnding ending ends) ∨ ∃ e body rest, image = cons e body rest := by
  obtain ⟨records, ending, kinds, ends⟩ := image
  cases records with
  | nil => exact .inl ⟨ending, ends, rfl⟩
  | cons e records =>
    obtain ⟨body, kinds⟩ := List.forall_mem_cons.mp kinds
    exact .inr ⟨e, body, ⟨records, ending, kinds, ends⟩, rfl⟩

/-! ### Lines that hold an image -/

variable {pair : Char → Char → UInt8 → Prop} {line : List Char} {lines : List (List Char)} {image : Image}

private theorem texts_cons_of_blank (blank : trim line = []) : texts (line :: lines) = texts lines := by
  simp [texts, blank]

theorem texts_cons_of_text (text : trim line ≠ []) : texts (line :: lines) = trim line :: texts lines := by
  simp [texts, text]

theorem heldBy_cons_of_blank (blank : trim line = []) :
    image.HeldBy pair (line :: lines) ↔ image.HeldBy pair lines := by
  rw [HeldBy, HeldBy, texts_cons_of_blank blank]

theorem not_heldBy_nil : ¬image.HeldBy pair [] := by
  intro held
  have length := List.Forall₂.length_eq held
  simp [texts] at length

end Image

theorem Entry.HeldBy.ne_nil {pair : Char → Char → UInt8 → Prop} {line : List Char} {e : Entry}
    (held : e.HeldBy pair line) : line ≠ [] := by
  obtain ⟨body, bytes, rfl, _⟩ := held
  exact List.cons_ne_nil _ _

namespace Image

variable {pair : Char → Char → UInt8 → Prop} {line : List Char} {lines : List (List Char)} {image : Image}

theorem heldBy_ofEnding {ending : Entry} (ends : ending.kind = 1) (text : trim line ≠ []) :
    (ofEnding ending ends).HeldBy pair (line :: lines) ↔ ending.HeldBy pair (trim line) ∧ texts lines = [] := by
  rw [HeldBy, texts_cons_of_text text]
  change List.Forall₂ _ _ [ending] ↔ _
  rw [List.forall₂_cons, List.forall₂_nil_right_iff]

theorem heldBy_cons {e : Entry} (body : IsBody e.kind) (text : trim line ≠ []) :
    (image.cons e body).HeldBy pair (line :: lines) ↔ e.HeldBy pair (trim line) ∧ image.HeldBy pair lines := by
  rw [HeldBy, texts_cons_of_text text]
  change List.Forall₂ _ _ (e :: (image.records ++ [image.ending])) ↔ _
  rw [List.forall₂_cons]
  rfl

private theorem forall_mem_texts (lines : List (List Char)) :
    (∀ text ∈ texts lines, '+' ∉ text) ↔ ∀ line ∈ lines, '+' ∉ line := by
  have visible (line : List Char) : '+' ∈ trim line ↔ '+' ∈ line := mem_trim rfl
  constructor
  · intro none line member signed
    rw [← visible] at signed
    apply none (trim line) _ signed
    refine List.mem_filter.mpr ⟨List.mem_map_of_mem member, ?_⟩
    simp [List.ne_nil_of_mem signed]
  · intro none text member signed
    obtain ⟨line, present, rfl⟩ := List.mem_map.mp (List.mem_filter.mp member).1
    exact none line present ((visible line).mp signed)

/-- Lines hold an image in hex digits if and only if they hold it in pairs that can be read, without a plus sign
in any of them. -/
theorem heldBy_hexPair_iff :
    image.HeldBy HexPair lines ↔ image.HeldBy ReadPair lines ∧ ∀ line ∈ lines, '+' ∉ line := by
  have held : image.HeldBy HexPair lines ↔
      List.Forall₂ (fun text e => '+' ∉ text ∧ e.HeldBy ReadPair text) (texts lines)
        (image.records ++ [image.ending]) := by
    simp only [HeldBy, IntelHex.heldBy_hexPair_iff, and_comm]
  rw [held, List.forall₂_and_left, forall_mem_texts, and_comm]
  rfl

end Image

/-! ### Reading lines -/

variable {line : List Char} {rest : List (List Char)} {read : List Chunk} {n : Nat} {e : Entry}

theorem parseLines_of_blank (blank : trim line = []) :
    parseLines n read (line :: rest) = parseLines (n + 1) read rest := by
  rw [parseLines, blank]
  rfl

theorem parseLines_of_text (text : trim line ≠ []) :
    parseLines n read (line :: rest) =
      match Record.ofLine n (trim line) with
      | .error e => .error e
      | .ok .endOfFile => .ok read.reverse
      | .ok .ignored => parseLines (n + 1) read rest
      | .ok (.data chunk) => parseLines (n + 1) (chunk :: read) rest := by
  have present : ¬(trim line).isEmpty = true := by
    rw [List.isEmpty_iff]
    exact text
  rw [parseLines]
  exact if_neg present

/-- The end-of-file record ends the image. -/
theorem parseLines_of_ending (held : e.HeldBy ReadPair (trim line)) (ends : e.kind = 1) :
    parseLines n read (line :: rest) = .ok read.reverse := by
  have reading : e.reading = .endOfFile := by
    rw [Entry.reading, ends]
    rfl
  have known : e.kind ≤ 5 := by
    rw [ends]
    decide
  rw [parseLines_of_text held.ne_nil, (ofLine_eq_ok_iff n).mpr ⟨e, held, known, reading⟩]

/-- Any other record contributes its data. -/
theorem parseLines_of_body (held : e.HeldBy ReadPair (trim line)) (body : IsBody e.kind) :
    parseLines n read (line :: rest) = parseLines (n + 1) (e.chunk?.toList ++ read) rest := by
  have found := (ofLine_eq_ok_iff n).mpr ⟨e, held, body.le, rfl⟩
  rw [parseLines_of_text held.ne_nil, found, Entry.reading, Entry.chunk?]
  by_cases data : e.kind = 0
  · rw [if_pos data, if_pos data]
    rfl
  · rw [if_neg data, if_neg body.ne_one, if_neg data]
    rfl

theorem reverse_chunk_append (e : Entry) (read others : List Chunk) :
    (e.chunk?.toList ++ read).reverse ++ others = read.reverse ++ (e.chunk?.toList ++ others) := by
  cases e.chunk? <;> simp

/-- Lines are read onto what was read before if and only if they begin with lines that hold an image. -/
theorem parseLines_eq_ok_iff {lines : List (List Char)} {chunks : List Chunk} :
    parseLines n read lines = .ok chunks ↔
      ∃ (image : Image) (held rest : List (List Char)), lines = held ++ rest ∧ image.HeldBy ReadPair held ∧
        read.reverse ++ image.chunks = chunks := by
  constructor
  · intro parsed
    -- Each line that is not blank is the first one of an image or its last one, by the type of its record.
    induction lines generalizing n read with
    | nil => contradiction
    | cons line lines ih =>
      by_cases blank : trim line = []
      · rw [parseLines_of_blank blank] at parsed
        obtain ⟨image, held, rest, rfl, holds, same⟩ := ih parsed
        exact ⟨image, line :: held, rest, rfl, (Image.heldBy_cons_of_blank blank).mpr holds, same⟩
      · cases found : Record.ofLine n (trim line) with
        | error e =>
          rw [parseLines_of_text blank, found] at parsed
          contradiction
        | ok record =>
          obtain ⟨e, holds, known, _⟩ := (ofLine_eq_ok_iff n).mp found
          rcases kind_cases known with ends | body
          · rw [parseLines_of_ending holds ends] at parsed
            refine ⟨.ofEnding e ends, [line], lines, rfl, (Image.heldBy_ofEnding ends blank).mpr ⟨holds, rfl⟩, ?_⟩
            rw [← Except.ok.inj parsed]
            exact List.append_nil _
          · rw [parseLines_of_body holds body] at parsed
            obtain ⟨image, held, rest, rfl, others, same⟩ := ih parsed
            refine ⟨image.cons e body, line :: held, rest, rfl, (Image.heldBy_cons body blank).mpr ⟨holds, others⟩, ?_⟩
            rw [← same, Image.chunks_cons, reverse_chunk_append]
  · rintro ⟨image, held, rest, rfl, holds, rfl⟩
    induction held generalizing n read image with
    | nil => exact absurd holds Image.not_heldBy_nil
    | cons line held ih =>
      rw [List.cons_append]
      by_cases blank : trim line = []
      · rw [parseLines_of_blank blank]
        exact ih image ((Image.heldBy_cons_of_blank blank).mp holds)
      · obtain ⟨ending, ends, rfl⟩ | ⟨e, body, others, rfl⟩ := image.eq_ofEnding_or_cons
        · rw [parseLines_of_ending ((Image.heldBy_ofEnding ends blank).mp holds).1 ends]
          exact congrArg _ (List.append_nil _).symm
        · obtain ⟨first, later⟩ := (Image.heldBy_cons body blank).mp holds
          rw [parseLines_of_body first body, ih others later, Image.chunks_cons, reverse_chunk_append]

/-- A text is read as an image if and only if its lines begin with lines that hold the image, in pairs of hex
digits or of a plus sign and a digit; without a plus sign in these lines it is Intel HEX. -/
theorem parse_eq_ok_iff (text : String) (chunks : List Chunk) :
    parse text = .ok chunks ↔
      ∃ (image : Image) (held rest : List (List Char)), lines text.toList = held ++ rest ∧ image.chunks = chunks ∧
        image.HeldBy ReadPair held ∧ (image.HeldBy HexPair held ↔ ∀ line ∈ held, '+' ∉ line) := by
  rw [parse, parseLines_eq_ok_iff]
  constructor
  · rintro ⟨image, held, rest, same, holds, rfl⟩
    refine ⟨image, held, rest, same, rfl, holds, ?_⟩
    rw [Image.heldBy_hexPair_iff, and_iff_right holds]
  · rintro ⟨image, held, rest, same, rfl, holds, _⟩
    exact ⟨image, held, rest, same, holds, rfl⟩

/-- A data record with a plus sign in place of a digit is read, and no lines of the text hold an image in hex
digits. -/
theorem parse_plusSign :
    let text := ":01000000+AF5\n:00000001FF"
    parse text = .ok [⟨0, [10]⟩] ∧
      ¬∃ (image : Image) (held rest : List (List Char)), lines text.toList = held ++ rest ∧
        image.HeldBy HexPair held := by
  refine ⟨by decide, ?_⟩
  rintro ⟨image, held, rest, same, holds⟩
  obtain ⟨_, unsigned⟩ := Image.heldBy_hexPair_iff.mp holds
  cases held with
  | nil => exact Image.not_heldBy_nil holds
  | cons line held =>
    have first : line = ":01000000+AF5".toList := (List.cons.inj same).1.symm
    apply unsigned line List.mem_cons_self
    rw [first]
    decide

end Mcs51.IntelHex
