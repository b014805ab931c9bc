/-! # Lines, blanks and columns

A line ends at a line feed, and one carriage return in front of that line feed belongs to the end
of the line. A blank is a character of Unicode's `White_Space` property. `fit` cuts or pads a text
to a column width, one column per character.
-/

namespace Mcs51.Text

/-- The characters with Unicode's `White_Space` property. -/
def isBlank (c : Char) : Bool :=
  let n := c.toNat
  (9 ≤ n && n ≤ 13) || n == 0x20 || n == 0x85 || n == 0xA0 || n == 0x1680 ||
    (0x2000 ≤ n && n ≤ 0x200A) || n == 0x2028 || n == 0x2029 || n == 0x202F || n == 0x205F ||
    n == 0x3000

def trim (text : List Char) : List Char :=
  ((text.dropWhile isBlank).reverse.dropWhile isBlank).reverse

/-- The line held in reverse, without the carriage return that ends it. -/
def endLine : List Char → List Char
  | [] => []
  | c :: rest => if c = '\r' then rest.reverse else (c :: rest).reverse

/-- Split a text into lines; `line` is the part of the current line already read, in reverse. -/
def linesFrom (line : List Char) : List Char → List (List Char)
  | [] => if line.isEmpty then [] else [line.reverse]
  | c :: rest =>
      if c = '\n' then endLine line :: linesFrom [] rest else linesFrom (c :: line) rest

/-- The lines of a text. A final line feed starts no further line. -/
def lines (text : List Char) : List (List Char) :=
  linesFrom [] text

/-- Pad with spaces on the right up to `width` columns. -/
def padRight (width : Nat) (text : String) : String :=
  text ++ String.ofList (List.replicate (width - text.length) ' ')

/-- Cut or pad a text to exactly `width` columns. -/
def fit (width : Nat) (text : String) : String :=
  padRight width (String.ofList (text.toList.take width))

def spaces (n : Nat) : String :=
  String.ofList (List.replicate n ' ')

end Mcs51.Text
