import Mathlib.Algebra.Ring.Nat
import Mcs51.Machine
import Mcs51.Proofs.Core.Memory

/-! # Loading a program

`load` copies a text onto the machine in place, one byte after the other, and counts the bytes that fit;
`loadHex` gives the same count and the same machine (`load_eq`). A text that is refused leaves the machine
alone. Of one that is accepted every byte of code memory holds what was copied there last, or what it held
before if nothing was, and nothing but code memory changes (`load_last_written`).

An address here is the address of a chunk and an offset into it, added without a bound: a chunk that runs
past FFFFh runs past the end of every code memory, it does not start over at 0.
-/

namespace Mcs51

open IntelHex

/-! ### The bytes of an image -/

def IntelHex.Chunk.byteAt? (chunk : Chunk) (addr : Nat) : Option UInt8 :=
  if chunk.address.toNat ≤ addr then chunk.data[addr - chunk.address.toNat]? else none

/-- How many bytes of a chunk lie below an address. -/
def IntelHex.Chunk.countBelow (chunk : Chunk) (limit : Nat) : Nat :=
  (List.range chunk.data.length).countP fun offset => chunk.address.toNat + offset < limit

/-- The bytes that an image has at an address, in file order. -/
def IntelHex.bytesAt (chunks : List Chunk) (addr : Nat) : List UInt8 :=
  chunks.filterMap (·.byteAt? addr)

/-- A byte of an image with its address, as it is found at an address. -/
def IntelHex.atAddress (addr : Nat) (entry : Nat × UInt8) : Option UInt8 :=
  if entry.1 = addr then some entry.2 else none

private theorem filterMap_atAddress_mapIdx (base addr : Nat) (data : List UInt8) :
    (data.mapIdx fun offset byte => (base + offset, byte)).filterMap (atAddress addr) =
      (if base ≤ addr then data[addr - base]? else none).toList := by
  induction data generalizing base with
  | nil => simp
  | cons byte data ih =>
    have shift : (fun offset byte => (base + (offset + 1), byte)) =
        fun offset (byte : UInt8) => ((base + 1) + offset, byte) := by
      funext offset byte
      rw [Nat.add_assoc, Nat.add_comm 1]
    rw [List.mapIdx_cons, shift, List.filterMap_cons, ih, atAddress, Nat.add_zero]
    rcases Nat.lt_trichotomy base addr with before | here | behind
    · have index : addr - base = (addr - (base + 1)) + 1 := by omega
      rw [if_neg (by omega), if_pos (by omega), if_pos (by omega), index, List.getElem?_cons_succ]
    · subst here
      rw [if_pos rfl, if_neg (by omega), if_pos (Nat.le_refl _), Nat.sub_self]
      rfl
    · rw [if_neg (by omega), if_neg (by omega), if_neg (by omega)]

private theorem filterMap_atAddress_imageBytes (addr : Nat) (chunks : List Chunk) :
    (Machine.imageBytes chunks).filterMap (atAddress addr) = bytesAt chunks addr := by
  induction chunks with
  | nil => rfl
  | cons chunk chunks ih =>
    rw [Machine.imageBytes, List.flatMap_cons, List.filterMap_append, filterMap_atAddress_mapIdx,
      ← Machine.imageBytes, ih, ← Chunk.byteAt?, bytesAt, bytesAt, List.filterMap_cons]
    cases chunk.byteAt? addr <;> rfl

private theorem countP_imageBytes (limit : Nat) (chunks : List Chunk) :
    (Machine.imageBytes chunks).countP (fun entry => entry.1 < limit) = (chunks.map (·.countBelow limit)).sum := by
  rw [Machine.imageBytes, List.countP_flatMap]
  congr 2
  funext chunk
  have places : (chunk.data.mapIdx fun offset byte => (chunk.address.toNat + offset, byte)).map Prod.fst =
      (List.range chunk.data.length).map (chunk.address.toNat + ·) := by
    apply List.ext_getElem <;> simp
  have counted := congrArg (List.countP fun place => place < limit) places
  rw [List.countP_map, List.countP_map] at counted
  exact counted

namespace Machine

/-! ### Copying an image -/

/-- Copy a byte to its address and count it, if it lies below the end of code memory. -/
def copyByte (size : Nat) (state : Nat × Machine) (entry : Nat × UInt8) : Nat × Machine :=
  if entry.1 < size then (state.1 + 1, state.2.writeByte .rom entry.1 entry.2) else state

/-- Copy the bytes of a chunk one after the other. -/
def copyChunk (size : Nat) (state : Nat × Machine) (chunk : Chunk) : Nat × Machine :=
  (chunk.data.mapIdx fun offset byte => (chunk.address.toNat + offset, byte)).foldl (copyByte size) state

/-- Load an Intel HEX text in place: the answer, and the machine that it leaves. -/
def load (m : Machine) (text : String) : Except IntelHex.Error Nat × Machine :=
  match IntelHex.parse text with
  | .error e => (.error e, m)
  | .ok chunks =>
    let copied := chunks.foldl (copyChunk (m.cpu.spaceSize .rom)) (0, m)
    (.ok copied.1, copied.2)

/-- Write bytes to code memory in turn. -/
def deposit (m : Machine) (entries : List (Nat × UInt8)) : Machine :=
  entries.foldl (fun m entry => m.writeByte .rom entry.1 entry.2) m

/-- The bytes of an image that lie below the end of code memory. -/
def fitting (m : Machine) (chunks : List Chunk) : List (Nat × UInt8) :=
  (imageBytes chunks).filter fun entry => entry.1 < m.cpu.spaceSize .rom

private theorem foldl_copyByte (size count : Nat) (m : Machine) (entries : List (Nat × UInt8)) :
    entries.foldl (copyByte size) (count, m) =
      (count + (entries.filter fun entry => entry.1 < size).length,
        m.deposit (entries.filter fun entry => entry.1 < size)) := by
  induction entries generalizing count m with
  | nil => rfl
  | cons entry entries ih =>
    by_cases inside : entry.1 < size
    · rw [List.foldl_cons, copyByte, if_pos inside, ih, List.filter_cons, if_pos (decide_eq_true inside),
        List.length_cons, Nat.add_right_comm, Nat.add_assoc]
      rfl
    · rw [List.foldl_cons, copyByte, if_neg inside, ih, List.filter_cons, if_neg (by simpa using inside)]

/-- Copying chunk by chunk writes the bytes of the image that fit. -/
theorem foldl_copyChunk (m : Machine) (chunks : List Chunk) :
    chunks.foldl (copyChunk (m.cpu.spaceSize .rom)) (0, m) =
      ((m.fitting chunks).length, m.deposit (m.fitting chunks)) := by
  have flat : chunks.foldl (copyChunk (m.cpu.spaceSize .rom)) (0, m) =
      (imageBytes chunks).foldl (copyByte (m.cpu.spaceSize .rom)) (0, m) := by
    rw [imageBytes, List.foldl_flatMap]
    rfl
  rw [flat, foldl_copyByte, Nat.zero_add]
  rfl

theorem loadHex_of_ok {m : Machine} {text : String} {chunks : List Chunk} (parsed : parse text = .ok chunks) :
    m.loadHex text = .ok ((m.fitting chunks).length, m.deposit (m.fitting chunks)) := by
  rw [loadHex, parsed]
  rfl

theorem loadHex_of_error {m : Machine} {text : String} {e : IntelHex.Error} (refused : parse text = .error e) :
    m.loadHex text = .error e := by
  rw [loadHex, refused]
  rfl

/-- Loading in place leaves the machine as it was where `loadHex` has none to give, and its machine else. -/
theorem load_eq (m : Machine) (text : String) :
    m.load text =
      match m.loadHex text with
      | .error e => (.error e, m)
      | .ok (written, after) => (.ok written, after) := by
  cases parsed : parse text with
  | error e => rw [load, parsed, loadHex_of_error parsed]
  | ok chunks =>
    simp only [load, parsed, loadHex_of_ok parsed, foldl_copyChunk]

/-! ### What was copied -/

@[simp] theorem spaceSize_writeByte (m : Machine) (space : Space) (addr : Nat) (value : UInt8) (other : Space) :
    (m.writeByte space addr value).cpu.spaceSize other = m.cpu.spaceSize other :=
  m.cpu.spaceSize_write space addr value other

/-- A byte of code memory is the one written there last. -/
theorem readByte_deposit (m : Machine) (entries : List (Nat × UInt8)) {addr : Nat}
    (inside : addr < m.cpu.spaceSize .rom) :
    (m.deposit entries).readByte .rom addr =
      (entries.filterMap (atAddress addr)).getLast?.getD (m.readByte .rom addr) := by
  induction entries generalizing m with
  | nil => rfl
  | cons entry entries ih =>
    have written : (m.writeByte .rom entry.1 entry.2).readByte .rom addr =
        (atAddress addr entry).getD (m.readByte .rom addr) := by
      rw [readByte, writeByte, Cpu.read_write, atAddress]
      by_cases here : entry.1 = addr
      · rw [if_pos ⟨⟨rfl, here.symm⟩, here ▸ inside⟩, if_pos here, Option.getD_some]
      · rw [if_neg fun all => here all.1.2.symm, if_neg here, Option.getD_none, readByte]
    rw [deposit, List.foldl_cons, ← deposit, ih _ (by rwa [spaceSize_writeByte]), written, List.filterMap_cons]
    cases atAddress addr entry with
    | none => rfl
    | some value =>
      rw [List.getLast?_cons, Option.getD_some, Option.getD_some]

/-- Writing to code memory changes nothing else, and not its size. -/
theorem exists_code_deposit (m : Machine) (entries : List (Nat × UInt8)) :
    ∃ code : Array UInt8, code.size = m.cpu.code.size ∧ m.deposit entries = { m with cpu := { m.cpu with code } } := by
  induction entries generalizing m with
  | nil => exact ⟨m.cpu.code, rfl, rfl⟩
  | cons entry entries ih =>
    obtain ⟨code, size, rest⟩ := ih (m.writeByte .rom entry.1 entry.2)
    refine ⟨code, ?_, ?_⟩
    · rw [size]
      exact Array.size_setIfInBounds
    · rw [deposit, List.foldl_cons, ← deposit, rest]
      rfl

private theorem filterMap_atAddress_fitting (m : Machine) (chunks : List Chunk) {addr : Nat}
    (inside : addr < m.cpu.spaceSize .rom) :
    (m.fitting chunks).filterMap (atAddress addr) = bytesAt chunks addr := by
  rw [← filterMap_atAddress_imageBytes, fitting, List.filterMap_filter]
  congr 1
  funext entry
  rw [atAddress]
  by_cases here : entry.1 = addr
  · rw [if_pos here, here, if_pos (decide_eq_true inside)]
  · rw [if_neg here, ite_self]

private theorem length_fitting (m : Machine) (chunks : List Chunk) :
    (m.fitting chunks).length = (chunks.map (·.countBelow (m.cpu.spaceSize .rom))).sum := by
  rw [fitting, ← List.countP_eq_length_filter, countP_imageBytes]

/-- Loading a text is all or nothing, and where the bytes of an image meet, the last one counts. A refused
text leaves the whole machine as it was. An accepted one is answered with the number of its bytes below the
end of code memory; each byte of code memory is the last that the image has there, or the old one if the
image has none, and nothing else of the machine changes. -/
theorem load_last_written (m : Machine) (text : String) :
    match m.loadHex text with
    | .error e => parse text = .error e ∧ m.load text = (.error e, m)
    | .ok (written, after) =>
      m.load text = (.ok written, after) ∧
      ∃ chunks, parse text = .ok chunks ∧
        written = (chunks.map (·.countBelow (m.cpu.spaceSize .rom))).sum ∧
        (∀ addr < m.cpu.spaceSize .rom,
          after.readByte .rom addr = (bytesAt chunks addr).getLast?.getD (m.readByte .rom addr)) ∧
        ∃ code : Array UInt8, code.size = m.cpu.code.size ∧ after = { m with cpu := { m.cpu with code } } := by
  cases parsed : parse text with
  | error e =>
    rw [loadHex_of_error parsed]
    refine ⟨rfl, ?_⟩
    rw [load_eq, loadHex_of_error parsed]
  | ok chunks =>
    rw [loadHex_of_ok parsed]
    refine ⟨?_, chunks, rfl, m.length_fitting chunks, ?_, m.exists_code_deposit _⟩
    · rw [load_eq, loadHex_of_ok parsed]
    · intro addr inside
      rw [m.readByte_deposit _ inside, m.filterMap_atAddress_fitting chunks inside]

end Machine

end Mcs51
