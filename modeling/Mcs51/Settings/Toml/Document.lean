import Mcs51.Settings.Toml.Scalar

/-! # TOML documents

Keys, values and the lines of a document. Arrays and inline tables nest up to `nestingLimit` deep and a
dotted key has fewer parts than that. The bound on the steps of reading a document is four times its
length: every character takes at most a step of its line, of its value and of the array or table around
it. Settings rely on the table that is read, and on nothing else of a document.
-/

namespace Mcs51.Toml

/-- Bound on the nesting of values and on the parts of a key. -/
def nestingLimit : Nat := 80

/-- Whether a character may stand in a key without quotes. -/
def isBare (c : Char) : Bool :=
  c.isAlphanum || c = '_' || c = '-'

def keyPart (fuel : Nat) : Reader String
  | '\x22' :: rest => lineString '\x22' [] fuel rest
  | '\x27' :: rest => lineString '\x27' [] fuel rest
  | text =>
    let bare := text.takeWhile isBare
    if bare.isEmpty then none else some (String.ofList bare, text.dropWhile isBare)

/-- Read the parts of a dotted key, in reverse behind those in `done`, with the spaces around them. -/
def keyParts (done : List String) : Nat → Reader (List String)
  | 0, _ => none
  | fuel + 1, text => do
    let (part, rest) ← keyPart (fuel + 1) (skipSpaces text)
    match skipSpaces rest with
    | '.' :: rest => keyParts (part :: done) fuel rest
    | rest => return (part :: done, rest)

/-- Read a dotted key: its path and its last part. -/
def key (fuel : Nat) : Reader (List String × String) := fun text => do
  let (parts, rest) ← keyParts [] fuel text
  match parts with
  | last :: path => if parts.length < nestingLimit then return ((path.reverse, last), rest) else none
  | [] => none

/-- The text behind a comment, if it begins with one. -/
def skipComment (text : List Char) : List Char :=
  match text with
  | '#' :: rest => rest.dropWhile isPlain
  | _ => text

/-- The text behind spaces, comments and line ends. -/
def skipLines : Nat → List Char → List Char
  | 0, text => text
  | fuel + 1, text =>
    match lineEnd? (skipComment (skipSpaces text)) with
    | some rest => skipLines fuel rest
    | none => skipSpaces text

def word (w : String) (v : Value) : Reader Value := fun text =>
  if w.toList.isPrefixOf text then some (v, text.drop w.length) else none

/-- Read a number or a date-time. -/
def numeric : Reader Value := fun text =>
  dateTime text <|> float text <|> integer text

mutual

/-- Read a value that is nested in `depth` arrays and inline tables. -/
def value (depth : Nat) : Nat → Reader Value
  | 0, _ | _, [] => none
  | fuel + 1, c :: rest =>
    if c = '\x22' || c = '\x27' then (stringBehind c fuel rest).map fun r => (.string r.1, r.2)
    else if c = '[' then if depth + 1 < nestingLimit then items (depth + 1) [] fuel rest else none
    else if c = '\x7b' then
      if depth + 1 < nestingLimit then
        match skipSpaces rest with
        | '\x7d' :: behind => some (.table .inline [], behind)
        | inside => pairs (depth + 1) [] fuel inside
      else none
    else if c = 't' then word "true" .boolean (c :: rest)
    else if c = 'f' then word "false" .boolean (c :: rest)
    else numeric (c :: rest)

/-- Read the items of an array behind those in `done`, which are in reverse. -/
def items (depth : Nat) (done : List Value) : Nat → Reader Value
  | 0, _ => none
  | fuel + 1, text =>
    match skipLines fuel text with
    | ']' :: rest => some (.array done.reverse, rest)
    | text => do
      let (item, rest) ← value depth fuel text
      match skipLines fuel rest with
      | ',' :: rest => items depth (item :: done) fuel rest
      | ']' :: rest => return (.array (item :: done).reverse, rest)
      | _ => none

/-- Read the keys and values of an inline table behind the entries in `done`. -/
def pairs (depth : Nat) (done : Entries) : Nat → Reader Value
  | 0, _ => none
  | fuel + 1, text => do
    let ((path, last), rest) ← key fuel text
    let rest ← expect '=' rest
    let (v, rest) ← value depth fuel (skipSpaces rest)
    let done ← insertKey path last v done
    match skipSpaces rest with
    | ',' :: rest => pairs depth done fuel rest
    | '\x7d' :: rest => return (.table .inline done, rest)
    | _ => none

end

/-- The table under construction and the path of the last header. -/
structure Draft where
  root : Entries
  current : List String

/-- Read a header behind its first bracket. -/
def header (draft : Draft) (fuel : Nat) : List Char → Option (Draft × List Char)
  | '[' :: text => do
    let ((path, last), rest) ← key fuel text
    let rest ← expect ']' rest
    let rest ← expect ']' rest
    let root ← openElement path last draft.root
    return (⟨root, path ++ [last]⟩, rest)
  | text => do
    let ((path, last), rest) ← key fuel text
    let rest ← expect ']' rest
    let root ← openTable path last draft.root
    return (⟨root, path ++ [last]⟩, rest)

/-- Read a key and its value. -/
def assignment (draft : Draft) (fuel : Nat) (text : List Char) : Option (Draft × List Char) := do
  let ((path, last), rest) ← key fuel text
  let rest ← expect '=' rest
  let (v, rest) ← value 0 fuel (skipSpaces rest)
  let root ← insertBelow draft.current path last v draft.root
  return ({ draft with root }, rest)

/-- Read what stands on a line in front of its comment. -/
def expression (draft : Draft) (fuel : Nat) (text : List Char) : Option (Draft × List Char) :=
  match text with
  | [] => some (draft, text)
  | c :: rest =>
    if c = '[' then header draft fuel rest
    else if c = '#' || c = '\n' || c = '\r' then some (draft, text)
    else assignment draft fuel text

/-- Read the lines of a document onto a draft. -/
def documentLines (draft : Draft) : Nat → List Char → Option Entries
  | 0, _ => none
  | fuel + 1, text => do
    let (draft, rest) ← expression draft fuel (skipSpaces text)
    match skipComment (skipSpaces rest) with
    | [] => return draft.root
    | rest => do
      let rest ← lineEnd? rest
      documentLines draft fuel rest

/-- Read a document. A byte order mark in front is dropped. -/
def parse (source : String) : Option Entries :=
  let text := source.toList
  let text := if text.head? = some '\ufeff' then text.tail else text
  documentLines ⟨[], []⟩ (4 * text.length + 4) text

end Mcs51.Toml
