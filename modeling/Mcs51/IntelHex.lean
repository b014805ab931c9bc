import Mcs51.Text.Hex
import Mcs51.Text.Lines

/-! # Intel HEX

A program image is a text of records, one per line: a colon, then pairs of hex digits for the byte
count, a 16-bit address, the record type, the data and a checksum that makes all bytes add up to zero.
Blank lines are skipped and blanks around a record are ignored. Reading ends at the end-of-file record;
address records are accepted and ignored, since code addresses have 16 bits.
-/

namespace Mcs51.IntelHex

open Text

/-- Why a text is not a program image. Lines are numbered from 1. -/
inductive Error
  | missingColon (line : Nat)
  | invalidDigit (line : Nat)
  | badLength (line expected actual : Nat)
  | checksum (line : Nat) (computed : UInt8)
  | unsupportedRecord (line : Nat) (kind : UInt8)
  | missingEof
deriving DecidableEq, Repr

def Error.message : Error → String
  | missingColon line => s!"line {line}: record does not start with ':'"
  | invalidDigit line => s!"line {line}: invalid hex digits"
  | badLength line expected actual => s!"line {line}: record is {actual} bytes, expected {expected}"
  | checksum line computed => s!"line {line}: checksum mismatch (computed {byteHex computed}h)"
  | unsupportedRecord line kind => s!"line {line}: unsupported record type {byteHex kind}h"
  | missingEof => "no end-of-file record"

/-- A contiguous run of data bytes. -/
structure Chunk where
  address : UInt16
  data : List UInt8
deriving DecidableEq, Repr

/-- The byte that two characters write: two hex digits, or a plus sign and one digit. -/
def pairByte? (high low : Char) : Option UInt8 :=
  if high = '+' then (hexValue? low).map UInt8.ofNat
  else do
    let h ← hexValue? high
    let l ← hexValue? low
    return UInt8.ofNat (16 * h + l)

/-- The bytes that a text of pairs writes. -/
def bytes? : List Char → Option (List UInt8)
  | [] => some []
  | [_] => none
  | high :: low :: rest => do
    let byte ← pairByte? high low
    let bytes ← bytes? rest
    return byte :: bytes

/-- The sum of bytes modulo 256. -/
def sum (bytes : List UInt8) : UInt8 :=
  bytes.foldl (· + ·) 0

/-- The checksum byte that belongs behind the given bytes. -/
def checksum (bytes : List UInt8) : UInt8 :=
  0 - sum bytes

/-- What one record contributes. -/
inductive Record
  | data (chunk : Chunk)
  | endOfFile
  /-- An address record, which carries nothing here. -/
  | ignored
deriving DecidableEq, Repr

/-- Read the bytes of the record on a line: first the length, then the checksum, then the type. -/
def Record.ofBytes (line : Nat) (bytes : List UInt8) : Except Error Record :=
  match bytes with
  | count :: high :: low :: kind :: payload@(_ :: _) =>
    let expected := count.toNat + 5
    if bytes.length ≠ expected then .error (.badLength line expected bytes.length)
    else if sum bytes ≠ 0 then .error (.checksum line (checksum bytes.dropLast))
    else if kind = 0 then
      .ok (.data ⟨high.toUInt16 <<< 8 ||| low.toUInt16, payload.dropLast⟩)
    else if kind = 1 then .ok .endOfFile
    else if kind ≤ 5 then .ok .ignored
    else .error (.unsupportedRecord line kind)
  | _ => .error (.badLength line 5 bytes.length)

/-- Read the record on a trimmed, non-empty line. -/
def Record.ofLine (line : Nat) : List Char → Except Error Record
  | ':' :: body =>
    match bytes? body with
    | some bytes => Record.ofBytes line bytes
    | none => .error (.invalidDigit line)
  | _ => .error (.missingColon line)

/-- Read lines, the first of which has the given number, onto the chunks read so far, which are held in
reverse. -/
def parseLines (line : Nat) (chunks : List Chunk) : List (List Char) → Except Error (List Chunk)
  | [] => .error .missingEof
  | raw :: rest =>
    let text := trim raw
    if text.isEmpty then parseLines (line + 1) chunks rest
    else
      match Record.ofLine line text with
      | .error e => .error e
      | .ok .endOfFile => .ok chunks.reverse
      | .ok .ignored => parseLines (line + 1) chunks rest
      | .ok (.data chunk) => parseLines (line + 1) (chunk :: chunks) rest

/-- Read a program image into its data chunks, in file order. -/
def parse (text : String) : Except Error (List Chunk) :=
  parseLines 1 [] (lines text.toList)

end Mcs51.IntelHex
