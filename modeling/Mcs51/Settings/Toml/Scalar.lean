import Mcs51.Settings.Toml.Value
import Mcs51.Text.Hex

/-! # TOML scalars

Reading of strings, numbers and date-times. A reader takes the text and returns what it read together
with the text behind it, or nothing if the text does not begin with what it reads. Readers that repeat a
step take a bound on the number of steps; a bound at least as large as the text is long stops none of
them early.
-/

namespace Mcs51.Toml

/-- A reader of a value at the start of a text. -/
abbrev Reader (α : Type) := List Char → Option (α × List Char)

/-- Whether a character may stand in a comment or a string: a tab or anything but a control character. -/
def isPlain (c : Char) : Bool :=
  c = '\t' || (0x20 ≤ c.toNat && c.toNat != 0x7F)

def isSpace (c : Char) : Bool :=
  c = ' ' || c = '\t'

def skipSpaces (text : List Char) : List Char :=
  text.dropWhile isSpace

/-- The text behind a line end, if it begins with one. -/
def lineEnd? : List Char → Option (List Char)
  | '\n' :: rest => some rest
  | '\r' :: '\n' :: rest => some rest
  | _ => none

/-- Drop spaces, tabs and line ends. -/
def skipBlanks : List Char → List Char
  | '\r' :: '\n' :: rest => skipBlanks rest
  | c :: rest => if isSpace c || c = '\n' then skipBlanks rest else c :: rest
  | [] => []

/-! ### Strings -/

/-- Whether a number is a Unicode scalar value. -/
def isScalar (n : Nat) : Bool :=
  n < 0xD800 || (0xDFFF < n && n < 0x110000)

/-- Read the character whose code is written by exactly `count` hex digits. -/
def scalar (count : Nat) : Reader Char := fun text =>
  let digits := (text.take count).filterMap Text.hexValue?
  let n := digits.foldl (fun n d => 16 * n + d) 0
  if digits.length = count && isScalar n then some (Char.ofNat n, text.drop count) else none

/-- Read the part of an escape behind the backslash. -/
def escape : Reader Char
  | 'b' :: rest => some ('\x08', rest)
  | 't' :: rest => some ('\t', rest)
  | 'n' :: rest => some ('\n', rest)
  | 'f' :: rest => some ('\x0c', rest)
  | 'r' :: rest => some ('\r', rest)
  | '\x22' :: rest => some ('\x22', rest)
  | '\\' :: rest => some ('\\', rest)
  | 'u' :: rest => scalar 4 rest
  | 'U' :: rest => scalar 8 rest
  | _ => none

/-- Read a string on one line up to its closing quote; `done` holds the characters so far in reverse. In
a literal string a backslash is a character. -/
def lineString (quote : Char) (done : List Char) : Nat → Reader String
  | 0, _ | _, [] => none
  | fuel + 1, c :: rest =>
    if c = quote then some (String.ofList done.reverse, rest)
    else if c = '\\' && quote = '\x22' then do
      let (c, rest) ← escape rest
      lineString quote (c :: done) fuel rest
    else if isPlain c then lineString quote (c :: done) fuel rest
    else none

/-- Read a string over several lines up to its three closing quotes; up to two further quotes in front of
these belong to the string. A backslash at the end of a line drops the blanks behind it. -/
def blockString (quote : Char) (done : List Char) : Nat → Reader String
  | 0, _ | _, [] => none
  | fuel + 1, c :: rest =>
    if c = quote then
      let run := 1 + (rest.takeWhile (· = quote)).length
      let behind := rest.dropWhile (· = quote)
      if run < 3 then blockString quote (List.replicate run quote ++ done) fuel behind
      else if run ≤ 5 then some (String.ofList (List.replicate (run - 3) quote ++ done).reverse, behind)
      else none
    else if c = '\\' && quote = '\x22' then
      match lineEnd? (skipSpaces rest) with
      | some behind => blockString quote done fuel (skipBlanks behind)
      | none => do
        let (c, rest) ← escape rest
        blockString quote (c :: done) fuel rest
    else
      match lineEnd? (c :: rest) with
      | some behind => blockString quote ('\n' :: done) fuel behind
      | none => if isPlain c then blockString quote (c :: done) fuel rest else none

/-- Read a string behind its first quote. A line end right behind three quotes is dropped. -/
def stringBehind (quote : Char) (fuel : Nat) : Reader String := fun text =>
  match text with
  | second :: third :: rest =>
    if second = quote && third = quote then blockString quote [] fuel ((lineEnd? rest).getD rest)
    else lineString quote [] fuel text
  | _ => lineString quote [] fuel text

/-! ### Numbers -/

/-- The digits at the start of a text, with single underscores between digits. -/
def digitRun (isDigit : Char → Bool) : List Char → List Char × List Char
  | '_' :: c :: rest =>
    if isDigit c then
      let (digits, behind) := digitRun isDigit rest
      (c :: digits, behind)
    else ([], '_' :: c :: rest)
  | c :: rest =>
    if isDigit c then
      let (digits, behind) := digitRun isDigit rest
      (c :: digits, behind)
    else ([], c :: rest)
  | [] => ([], [])

/-- Read digits, the first of which is not preceded by an underscore. -/
def digits (isDigit : Char → Bool) : Reader (List Char)
  | c :: rest => if isDigit c then some (digitRun isDigit (c :: rest)) else none
  | [] => none

def number (base : Nat) (digits : List Char) : Nat :=
  digits.foldl (fun n c => base * n + (Text.hexValue? c).getD 0) 0

/-- Read a sign; the result tells whether it is a minus. -/
def sign : List Char → Bool × List Char
  | '-' :: rest => (true, rest)
  | '+' :: rest => (false, rest)
  | text => (false, text)

/-- Read decimal digits without a leading zero. -/
def decimal : Reader (List Char)
  | '0' :: rest => some (['0'], rest)
  | text => digits Char.isDigit text

/-- Read a number in another base behind its two-character mark. -/
def based? : List Char → Option (Nat × List Char × List Char)
  | '0' :: 'x' :: rest =>
    (digits (fun c => (Text.hexValue? c).isSome) rest).map fun r => (16, r.1, r.2)
  | '0' :: 'o' :: rest => (digits (fun c => '0' ≤ c && c ≤ '7') rest).map fun r => (8, r.1, r.2)
  | '0' :: 'b' :: rest => (digits (fun c => c = '0' || c = '1') rest).map fun r => (2, r.1, r.2)
  | _ => none

/-- Whether an integer fits into 64 bits. -/
def isInt64 (n : Int) : Bool :=
  -0x8000000000000000 ≤ n && n < 0x8000000000000000

/-- Read an integer. -/
def integer : Reader Value := fun text =>
  match text with
  | '0' :: mark :: _ =>
    if mark = 'x' || mark = 'o' || mark = 'b' then do
      let (base, ds, rest) ← based? text
      if isInt64 (number base ds) then return (.integer (number base ds), rest) else none
    else plain text
  | _ => plain text
where
  /-- A decimal integer with an optional sign. -/
  plain (text : List Char) : Option (Value × List Char) := do
    let (negative, rest) := sign text
    let (ds, rest) ← decimal rest
    let n : Int := if negative then -(number 10 ds : Int) else number 10 ds
    if isInt64 n then return (.integer n, rest) else none

/-- Whether `m * 10 ^ e` is rounded to infinity as a binary64 number. -/
def overflows (m : Nat) (e : Int) : Bool :=
  let bound := Nat.pow 2 1024 - Nat.pow 2 970
  let size := (toString m).length + e
  if m = 0 || size < 300 then false
  else if 320 < size then true
  else if 0 ≤ e then bound ≤ m * Nat.pow 10 e.toNat
  else bound * Nat.pow 10 (-e).toNat ≤ m

/-- Read the fraction of a float, if there is one. -/
def fraction : List Char → Option (List Char × List Char)
  | '.' :: rest => digits Char.isDigit rest
  | text => some ([], text)

/-- Read the exponent of a float, if there is one. -/
def exponent (text : List Char) : Option (Option Int × List Char) :=
  match text with
  | c :: rest =>
    if c = 'e' || c = 'E' then do
      let (negative, rest) := sign rest
      let (ds, rest) ← digits Char.isDigit rest
      return (some (if negative then -(number 10 ds : Int) else number 10 ds), rest)
    else some (none, text)
  | [] => some (none, text)

/-- Read a float: digits with a fraction, an exponent or both, or infinity, or a NaN. A positive number
too large for a finite value is refused. -/
def float : Reader Value := fun text => do
  let (negative, rest) := sign text
  match rest with
  | 'i' :: 'n' :: 'f' :: rest => return (.float, rest)
  | 'n' :: 'a' :: 'n' :: rest => return (.float, rest)
  | _ =>
    let (whole, afterWhole) ← decimal rest
    let (part, afterPart) ← fraction afterWhole
    let (power, behind) ← exponent afterPart
    if part.isEmpty && power.isNone then none
    else if !negative && overflows (number 10 (whole ++ part)) (power.getD 0 - part.length) then none
    else return (.float, behind)

/-! ### Date-times -/

/-- Read exactly `count` decimal digits that write a number within bounds. -/
def field (count least greatest : Nat) : Reader Nat := fun text =>
  let ds := text.take count
  let n := number 10 ds
  if ds.length = count && ds.all Char.isDigit && least ≤ n && n ≤ greatest then some (n, text.drop count)
  else none

/-- Read one expected character. -/
def expect (c : Char) : List Char → Option (List Char)
  | d :: rest => if c = d then some rest else none
  | [] => none

def daysIn (year month : Nat) : Nat :=
  if month = 2 then
    if year % 4 = 0 && (year % 100 != 0 || year % 400 = 0) then 29 else 28
  else if month = 4 || month = 6 || month = 9 || month = 11 then 30
  else 31

/-- The text behind a date. -/
def date? (text : List Char) : Option (List Char) := do
  let (year, text) ← field 4 0 9999 text
  let text ← expect '-' text
  let (month, text) ← field 2 1 12 text
  let text ← expect '-' text
  let (_, text) ← field 2 1 (daysIn year month) text
  return text

/-- The text behind a time of day. -/
def time? (text : List Char) : Option (List Char) := do
  let (_, text) ← field 2 0 23 text
  let text ← expect ':' text
  let (_, text) ← field 2 0 59 text
  let text ← expect ':' text
  let (_, text) ← field 2 0 60 text
  match text with
  | '.' :: c :: rest => if c.isDigit then return rest.dropWhile Char.isDigit else return text
  | _ => return text

/-- The text behind an offset from universal time, if there is one. -/
def skipOffset (text : List Char) : List Char :=
  match text with
  | c :: rest =>
    if c = 'Z' || c = 'z' then rest
    else if c = '+' || c = '-' then
      (do
        let (_, rest) ← field 2 0 23 rest
        let rest ← expect ':' rest
        let (_, rest) ← field 2 0 59 rest
        return rest).getD text
    else text
  | [] => text

/-- Read a date, a time of day, or both with an optional offset. -/
def dateTime : Reader Value := fun text =>
  match date? text with
  | some behind =>
    match behind with
    | c :: rest =>
      if c = 'T' || c = 't' || c = ' ' then
        some (.dateTime, ((time? rest).map skipOffset).getD behind)
      else some (.dateTime, behind)
    | [] => some (.dateTime, behind)
  | none => (time? text).map fun behind => (.dateTime, behind)

end Mcs51.Toml
