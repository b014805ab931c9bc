import Mcs51.Text.Hex
import Mcs51.Text.Lines
import Mcs51.Text.Property.Alphanumeric

/-! # Patterns

A pattern is a regular expression in the field of a log filter. All that is relied on is whether it can be used, which
decides between no warning and one of two wordings (`PatternError`); what it matches is not modelled. A pattern is
over the characters of Unicode unless a flag makes it one over bytes. It matches whole characters only, and
the classes and the letter cases of Unicode are not known to it: what needs them is malformed. There are no
counted repetitions, since a pattern holds no closing brace.
-/

namespace Mcs51

/-- Why a pattern cannot be used. -/
inductive PatternError
  | malformed
  /-- A word ends where the characters of Unicode say, which is not known in advance. -/
  | wordBoundary
deriving DecidableEq, Repr

namespace Pattern

/-! ### Flags -/

/-- The flags that matter for whether a pattern is well formed. -/
structure Flags where
  caseless : Bool
  /-- Blanks and comments are skipped. -/
  spaced : Bool
  unicode : Bool
deriving DecidableEq, Repr

namespace Flags

def initial : Flags :=
  ⟨false, false, true⟩

def letters : List Char :=
  ['i', 'm', 's', 'U', 'u', 'R', 'x']

/-- Turn flags on and off. -/
def update (flags : Flags) (on off : List Char) : Flags :=
  let value (letter : Char) (old : Bool) : Bool := on.contains letter || (old && !off.contains letter)
  ⟨value 'i' flags.caseless, value 'x' flags.spaced, value 'u' flags.unicode⟩

/-- Read a list of flags: those that are turned on, and behind a minus sign those that are turned off. No flag
and no sign may come twice. -/
def read? (flags : Flags) (text : List Char) : Option Flags :=
  if text.all (fun c => c = '-' || letters.contains c) && text.eraseDups.length = text.length &&
      text.getLast? ≠ some '-' then
    some (flags.update (text.takeWhile (· != '-')) ((text.dropWhile (· != '-')).drop 1))
  else none

/-- Drop a comment up to the end of its line. -/
def afterComment (text : List Char) : List Char :=
  (text.dropWhile (· != '\n')).drop 1

/-- Drop the blanks and comments in front of a text. -/
def skipAll : Nat → List Char → List Char
  | 0, text => text
  | fuel + 1, text =>
    match text.dropWhile Text.isBlank with
    | '#' :: rest => skipAll fuel (afterComment rest)
    | text => text

/-- Drop what the flags say is skipped. -/
def skip (flags : Flags) (text : List Char) : List Char :=
  if flags.spaced then skipAll text.length text else text

/-- Whether a character can stand for itself. `coded` says that it is given as a byte. -/
def allowsChar (flags : Flags) (c : Char) (coded : Bool) : Bool :=
  if flags.unicode then !flags.caseless else !coded || c ≤ '\x7F'

/-- Whether a character can be in a class. -/
def allowsMember (flags : Flags) (c : Char) : Bool :=
  if flags.unicode then !flags.caseless else c ≤ '\x7F'

/-- Whether a named class can be used. -/
def allowsNamed (flags : Flags) (negated : Bool) : Bool :=
  if flags.unicode then !flags.caseless else !negated

end Flags

/-! ### Escapes -/

/-- What a single sign of a pattern stands for. -/
inductive Atom
  /-- A character, and whether it is given as a byte. -/
  | char (c : Char) (coded : Bool)
  /-- The start or the end of the text or of a line. -/
  | edge
  | wordBoundary
  /-- Digits, blanks or the characters of words, or all others. -/
  | named (negated : Bool)
deriving DecidableEq, Repr

/-- Read a number of exactly `count` hex digits. -/
def hexNumber (flags : Flags) (n : Nat) : Nat → List Char → Option (Nat × List Char)
  | 0, text => some (n, text)
  | _ + 1, [] => none
  | count + 1, c :: rest => do
    let digit ← Text.hexValue? c
    hexNumber flags (16 * n + digit) count (flags.skip rest)

/-- Read a character given by its number. -/
def numbered (flags : Flags) (count : Nat) (coded : Bool) (text : List Char) : Option (Atom × List Char) := do
  let (n, rest) ← hexNumber flags 0 count (flags.skip text)
  if n.isValidChar then some (.char (Char.ofNat n) coded, rest) else none

/-- Read what follows a backslash. -/
def escape (flags : Flags) : List Char → Option (Atom × List Char)
  | [] => none
  | c :: rest =>
    match c with
    | 'x' => numbered flags 2 true rest
    | 'u' => numbered flags 4 false rest
    | 'U' => numbered flags 8 false rest
    | 'd' | 's' | 'w' => some (.named false, rest)
    | 'D' | 'S' | 'W' => some (.named true, rest)
    | 'a' => some (.char '\x07' false, rest)
    | 'f' => some (.char '\x0c' false, rest)
    | 't' => some (.char '\t' false, rest)
    | 'n' => some (.char '\n' false, rest)
    | 'r' => some (.char '\r' false, rest)
    | 'v' => some (.char '\x0b' false, rest)
    | 'A' | 'z' => some (.edge, rest)
    | 'b' | 'B' | '<' | '>' => some (.wordBoundary, rest)
    | _ => if c ≤ '\x7F' && !c.isAlphanum then some (.char c false, rest) else none

/-! ### Nesting -/

def maxDepth : Nat := 250

/-- Items one after the other, with the depth of the deepest. -/
structure Items where
  count : Nat
  deepest : Nat
deriving DecidableEq, Repr

namespace Items

def none : Items :=
  ⟨0, 0⟩

def push (items : Items) (depth : Nat) : Items :=
  ⟨items.count + 1, max items.deepest depth⟩

/-- The depth of the items together; a single one is as deep as by itself. -/
def depth (items : Items) : Nat :=
  if items.count ≤ 1 then items.deepest else items.deepest + 1

end Items

/-- The depth of two parts around a sign, of which the first may be absent. -/
def joinedDepth (before : Option Nat) (depth : Nat) : Nat :=
  match before with
  | none => depth
  | some other => max other depth + 1

/-! ### Classes -/

def classNames : List String :=
  ["alnum", "alpha", "ascii", "blank", "cntrl", "digit", "graph", "lower", "print", "punct", "space", "upper",
    "word", "xdigit"]

/-- Read a named class behind its opening bracket, and whether it is negated. -/
def namedClass? : List Char → Option (Bool × List Char)
  | ':' :: text =>
    let negated := text.head? = some '^'
    let text := if negated then text.drop 1 else text
    match text.dropWhile (· != ':') with
    | ':' :: ']' :: rest =>
      if classNames.contains (String.ofList (text.takeWhile (· != ':'))) then some (negated, rest) else none
    | _ => none
  | _ => none

/-- A class that is being read. -/
structure Class where
  members : Items
  /-- The depth of what stands in front of the last operator. -/
  before : Option Nat
deriving DecidableEq, Repr

namespace Class

def empty : Class :=
  ⟨Items.none, none⟩

def push (cls : Class) (depth : Nat) : Class :=
  { cls with members := cls.members.push depth }

def depth (cls : Class) : Nat :=
  joinedDepth cls.before cls.members.depth + 1

/-- Go on behind an operator between classes. -/
def operator (cls : Class) : Class :=
  ⟨Items.none, some (joinedDepth cls.before cls.members.depth)⟩

end Class

/-- Read a sign in a class. -/
def member (flags : Flags) : List Char → Option (Atom × List Char)
  | [] => none
  | '\\' :: rest => escape flags rest
  | c :: rest => some (.char c false, rest)

/-- Read a member of a class: a sign, or a range from one character to another. -/
def memberOrRange (flags : Flags) (text : List Char) : Option (List Char) := do
  let (first, rest) ← member flags text
  let rest := flags.skip rest
  let isRange :=
    rest.head? = some '-' && (flags.skip (rest.drop 1)).head? ≠ some ']' &&
      (flags.skip (rest.drop 1)).head? ≠ some '-'
  match first with
  | .char c _ =>
    if isRange then
      match ← member flags (flags.skip (rest.drop 1)) with
      | (.char d _, rest) =>
        if c ≤ d && flags.allowsMember c && flags.allowsMember d then some rest else none
      | _ => none
    else if flags.allowsMember c then some rest
    else none
  | .named negated => if isRange || flags.unicode || negated then none else some rest
  | .edge | .wordBoundary => none

/-- Read the minus signs at the start of a class, which are members. -/
def openingMinus (flags : Flags) (cls : Class) : Nat → List Char → Class × List Char
  | fuel + 1, '-' :: rest => openingMinus flags (cls.push 0) fuel (flags.skip rest)
  | _, text => (cls, text)

/-- Read the start of a class behind its opening bracket. A closing bracket that comes first is a member. -/
def openClass (flags : Flags) (text : List Char) : Option (Class × List Char) :=
  let text := flags.skip text
  let negated := text.head? = some '^'
  let text := if negated then flags.skip (text.drop 1) else text
  let (cls, text) := openingMinus flags Class.empty text.length text
  let (cls, text) :=
    if cls.members.count = 0 && text.head? = some ']' then (cls.push 0, flags.skip (text.drop 1)) else (cls, text)
  if (negated && !flags.unicode) || (cls.members.count ≠ 0 && !flags.allowsMember '-') then none
  else some (cls, text)

/-- Read a class up to its closing bracket, and its depth. `outer` holds the classes around it. -/
def readClass (flags : Flags) (outer : List Class) (cls : Class) : Nat → List Char → Option (Nat × List Char)
  | 0, _ => none
  | fuel + 1, text =>
    match flags.skip text with
    | [] => none
    | '[' :: rest =>
      match namedClass? rest with
      | some (negated, rest) =>
        if flags.allowsNamed negated then readClass flags outer (cls.push 0) fuel rest else none
      | none =>
        match openClass flags rest with
        | some (inner, rest) => readClass flags (cls :: outer) inner fuel rest
        | none => none
    | ']' :: rest =>
      match outer with
      | [] => some (cls.depth, rest)
      | parent :: outer => readClass flags outer (parent.push cls.depth) fuel rest
    | '&' :: '&' :: rest | '-' :: '-' :: rest | '~' :: '~' :: rest =>
      readClass flags outer cls.operator fuel rest
    | text =>
      match memberOrRange flags text with
      | some rest => readClass flags outer (cls.push 0) fuel rest
      | none => none

/-! ### Groups -/

/-- A group that is being read, or the pattern itself. -/
structure Group where
  /-- The flags at the place that is read. -/
  flags : Flags
  items : Items
  /-- The depth of the last item, if it can be repeated. -/
  last : Option Nat
  /-- The depth of the alternatives in front of the last bar. -/
  before : Option Nat
deriving DecidableEq, Repr

namespace Group

def empty (flags : Flags) : Group :=
  ⟨flags, Items.none, none, none⟩

def push (group : Group) (depth : Nat) : Group :=
  { group with items := group.items.push depth, last := some depth }

/-- Change the flags from here on. -/
def setFlags (group : Group) (flags : Flags) : Group :=
  { group with flags, items := group.items.push 0, last := none }

def repeatLast (group : Group) : Option Group :=
  group.last.map fun depth =>
    { group with
      items := { group.items with deepest := max group.items.deepest (depth + 1) }
      last := some (depth + 1) }

/-- Go on with the next alternative. All alternatives together are one level deeper than the deepest. -/
def alternative (group : Group) : Group :=
  { group with
    items := Items.none
    last := none
    before := some (max (group.before.getD 0) group.items.depth) }

def depth (group : Group) : Nat :=
  joinedDepth group.before group.items.depth

end Group

/-- What has been read of a pattern. -/
structure Reading where
  group : Group
  /-- The groups around it. -/
  outer : List Group
  /-- The names of groups. -/
  names : List (List Char)
  wordBoundary : Bool
deriving DecidableEq, Repr

namespace Reading

/-- Nothing read yet. -/
def initial : Reading :=
  ⟨Group.empty Flags.initial, [], [], false⟩

def push (reading : Reading) (depth : Nat) : Reading :=
  { reading with group := reading.group.push depth }

def openGroup (reading : Reading) (flags : Flags) : Reading :=
  { reading with group := Group.empty flags, outer := reading.group :: reading.outer }

def closeGroup (reading : Reading) : Option Reading :=
  match reading.outer with
  | [] => none
  | parent :: outer => some { reading with group := parent.push (reading.group.depth + 1), outer }

/-- Add what a sign stands for. -/
def addAtom (reading : Reading) (atom : Atom) : Option Reading :=
  let flags := reading.group.flags
  match atom with
  | .char c coded => if flags.allowsChar c coded then some (reading.push 0) else none
  | .edge => some (reading.push 0)
  | .wordBoundary =>
    some { reading.push 0 with wordBoundary := reading.wordBoundary || flags.unicode }
  | .named negated => if flags.unicode || negated then none else some (reading.push 0)

def isNameChar (c : Char) : Bool :=
  c = '_' || c = '.' || c = '[' || c = ']' || Text.Property.isAlphanumeric c

def isName (name : List Char) : Bool :=
  name.head?.any (fun c => c = '_' || Text.Property.alphabetic.holds c) && name.all isNameChar

def namedGroup (reading : Reading) (text : List Char) : Option (Reading × List Char) :=
  let name := text.takeWhile (· != '>')
  match text.dropWhile (· != '>') with
  | _ :: rest =>
    if isName name && !reading.names.contains name then
      some ({ reading.openGroup reading.group.flags with names := name :: reading.names }, rest)
    else none
  | [] => none

/-- Read flags, for a group or for the rest of the group that is read. -/
def flagGroup (reading : Reading) (text : List Char) : Option (Reading × List Char) := do
  let isEnd (c : Char) : Bool := c = ':' || c = ')'
  let letters := text.takeWhile (!isEnd ·)
  let flags ← reading.group.flags.read? letters
  match text.dropWhile (!isEnd ·) with
  | ':' :: rest => some (reading.openGroup flags, rest)
  | ')' :: rest =>
    if letters.isEmpty then none
    else some ({ reading with group := reading.group.setFlags flags }, rest)
  | _ => none

/-- Read what follows an opening parenthesis. -/
def group? (reading : Reading) (text : List Char) : Option (Reading × List Char) :=
  match reading.group.flags.skip text with
  | '?' :: 'P' :: '<' :: rest | '?' :: '<' :: rest => reading.namedGroup rest
  | '?' :: rest => reading.flagGroup rest
  | text => some (reading.openGroup reading.group.flags, text)

/-- Read one item or sign of a pattern. -/
def step (reading : Reading) : List Char → Option (Reading × List Char)
  | [] => none
  | '(' :: rest => reading.group? rest
  | ')' :: rest => reading.closeGroup.map (·, rest)
  | '|' :: rest => some ({ reading with group := reading.group.alternative }, rest)
  | '[' :: rest => do
    let flags := reading.group.flags
    let (cls, rest) ← openClass flags rest
    let (depth, rest) ← readClass flags [] cls (rest.length + 1) rest
    some (reading.push depth, rest)
  | '{' :: _ => none
  | '.' :: rest => if reading.group.flags.unicode then some (reading.push 0, rest) else none
  | '^' :: rest | '$' :: rest => some (reading.push 0, rest)
  | '\\' :: rest => do
    let (atom, rest) ← escape reading.group.flags rest
    let reading ← reading.addAtom atom
    some (reading, rest)
  | c :: rest =>
    if c = '?' || c = '*' || c = '+' then do
      let group ← reading.group.repeatLast
      some ({ reading with group }, if rest.head? = some '?' then rest.drop 1 else rest)
    else do
      let reading ← reading.addAtom (.char c false)
      some (reading, rest)

def run (reading : Reading) : Nat → List Char → Option Reading
  | 0, _ => none
  | fuel + 1, text =>
    match reading.group.flags.skip text with
    | [] => if reading.outer.isEmpty then some reading else none
    | text =>
      match reading.step text with
      | some (reading, rest) => run reading fuel rest
      | none => none

end Reading

/-- Why a pattern cannot be used. -/
def fault? (pattern : List Char) : Option PatternError :=
  match Reading.initial.run (pattern.length + 1) pattern with
  | none => some .malformed
  | some reading =>
    if maxDepth < reading.group.depth then some .malformed
    else if reading.wordBoundary then some .wordBoundary
    else none

end Pattern

end Mcs51
