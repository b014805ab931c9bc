import Mcs51.Startup.Pattern
import Mcs51.Text.Lines
import Mcs51.Text.Property.Alphanumeric

/-! # Log filters

A log level is a list of directives with commas between them. A directive is a level, or a target, or a span
in brackets that may follow a target and may hold a field in braces; a level may follow behind an equals sign.
A field may ask for a value, which is a number or a pattern. Directives that cannot be read are left out with
a warning, and a launch passes these warnings on: nothing else of a filter has an effect on the console.
-/

namespace Mcs51

/-- Why a directive cannot be read. -/
inductive DirectiveError
  | malformed
  | unknownLevel
  /-- The value of a field cannot be used. -/
  | badField (cause : PatternError)
deriving DecidableEq, Repr

def PatternError.message : PatternError → String
  | malformed => "error building NFA"
  | wordBoundary =>
    "unsupported regex feature for DFAs: cannot build DFAs for regexes with Unicode word boundaries; " ++
      "switch to ASCII word boundaries, or heuristically enable Unicode word boundaries or use a " ++
      "different regex engine"

def DirectiveError.message : DirectiveError → String
  | malformed => "invalid filter directive"
  | unknownLevel =>
    "error parsing level filter: expected one of \"off\", \"error\", \"warn\", \"info\", \"debug\", " ++
      "\"trace\", or a number 0-5"
  | badField cause => "invalid field filter: " ++ cause.message

namespace LogFilter

/-! ### Levels and values -/

/-- The levels, from none on. A level may also be given as its place in this list. -/
def levels : List String :=
  ["off", "error", "warn", "info", "debug", "trace"]

/-- The number that digits stand for; a plus sign may come before them. -/
def number? (text : List Char) : Option Nat :=
  let digits := if text.head? = some '+' then text.drop 1 else text
  if digits.isEmpty || !digits.all Char.isDigit then none
  else some (digits.foldl (fun n c => 10 * n + (c.toNat - '0'.toNat)) 0)

/-- Whether a text is a level. Capital letters make no difference, and an empty text stands for all levels. -/
def isLevel (text : List Char) : Bool :=
  text.isEmpty || levels.contains (String.ofList (text.map Char.toLower)) ||
    (number? text).any (· < levels.length)

/-- Drop a sign in front of a number. -/
def dropSign (text : List Char) : List Char :=
  if text.head? = some '+' || text.head? = some '-' then text.drop 1 else text

/-- Whether a text is an exponent of a number, or nothing. -/
def isExponent : List Char → Bool
  | [] => true
  | c :: rest => (c = 'e' || c = 'E') && !(dropSign rest).isEmpty && (dropSign rest).all Char.isDigit

/-- Whether a text is a decimal number. -/
def isNumber (text : List Char) : Bool :=
  let text := dropSign text
  let whole := text.takeWhile Char.isDigit
  let behind := text.dropWhile Char.isDigit
  let fraction := if behind.head? = some '.' then (behind.drop 1).takeWhile Char.isDigit else []
  let exponent := if behind.head? = some '.' then (behind.drop 1).dropWhile Char.isDigit else behind
  ["inf", "infinity", "nan"].contains (String.ofList (text.map Char.toLower)) ||
    ((!whole.isEmpty || !fraction.isEmpty) && isExponent exponent)

/-- Why a field cannot be used. Its value stands between the first equals sign and the next. -/
def fieldFault? (field : List Char) : Option PatternError :=
  match field.dropWhile (· != '=') with
  | [] => none
  | _ :: rest =>
    let value := rest.takeWhile (· != '=')
    if isNumber value then none else Pattern.fault? value

/-! ### Directives -/

/-- The bytes that a text takes. -/
def size (text : List Char) : Nat :=
  text.foldr (fun c n => c.utf8Size + n) 0

/-- Drop a number of bytes, and the rest of a character that would be cut. -/
def dropBytes : Nat → List Char → List Char
  | 0, text => text
  | _, [] => []
  | n + 1, c :: rest => dropBytes (n + 1 - c.utf8Size) rest

/-- Take a number of bytes, and the rest of a character that would be cut. -/
def takeBytes : Nat → List Char → List Char
  | 0, _ | _, [] => []
  | n + 1, c :: rest => c :: takeBytes (n + 1 - c.utf8Size) rest

/-- A directive. It is read without the blanks around it, but what it says is taken from the same places of the
written text: blanks in front shift it. -/
structure Directive where
  written : List Char
deriving DecidableEq, Repr

namespace Directive

/-- The directive without the blanks around it. -/
def form (d : Directive) : List Char :=
  Text.trim d.written

/-- The written text from the place on where a rest of the form starts. -/
def behind (d : Directive) (start : List Char) : List Char :=
  dropBytes (size d.form - size start) d.written

/-- The written text between the places where two rests of the form start. -/
def between (d : Directive) (start stop : List Char) : List Char :=
  takeBytes (size start - size stop) (d.behind start)

/-- Whether a character can start a target. -/
def startsTarget (c : Char) : Bool :=
  c = '-' || c = ':' || c = '_' || Text.Property.isAlphanumeric c

def level (d : Directive) (text : List Char) : Option DirectiveError :=
  if isLevel (d.behind text) then none else some .unknownLevel

/-- Read what follows a span. -/
def behindSpan (d : Directive) : List Char → Option DirectiveError
  | [] => none
  | '=' :: rest => d.level rest
  | _ => some .malformed

/-- Read the field of a span; `start` is the text from the field on. -/
def inField (d : Directive) (start : List Char) : List Char → Option DirectiveError
  | [] => some .malformed
  | '}' :: rest =>
    if start.length = rest.length + 1 then some .malformed
    else
      match fieldFault? (d.between start ('}' :: rest)), rest with
      | some cause, _ => some (.badField cause)
      | none, ']' :: rest => d.behindSpan rest
      | none, _ => some .malformed
  | _ :: rest => d.inField start rest

def inSpan (d : Directive) : List Char → Option DirectiveError
  | [] => some .malformed
  | ']' :: rest => d.behindSpan rest
  | '{' :: rest => d.inField rest rest
  | _ :: rest => d.inSpan rest

/-- Read a target, or a level that stands alone. -/
def inTarget (d : Directive) : List Char → Option DirectiveError
  | [] => none
  | '=' :: rest => d.level rest
  | '[' :: rest => d.inSpan rest
  | _ :: rest => d.inTarget rest

/-- Why a directive cannot be read. -/
def fault? (d : Directive) : Option DirectiveError :=
  match d.form with
  | [] => some .malformed
  | '[' :: rest => d.inSpan rest
  | c :: rest => if startsTarget c then d.inTarget rest else some .malformed

/-- The warning about a directive, unless it can be read. -/
def warning? (d : Directive) : Option String :=
  d.fault?.map fun error => "ignoring `" ++ String.ofList d.written ++ "`: " ++ error.message

end Directive

/-- The warnings about the directives of a log level. -/
def warnings (level : String) : List String :=
  ((level.splitOn ",").filter (!·.isEmpty)).filterMap fun written => Directive.warning? ⟨written.toList⟩

end LogFilter

end Mcs51
