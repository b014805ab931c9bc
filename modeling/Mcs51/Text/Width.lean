import Mcs51.Text.Cluster
import Mcs51.Text.Property.Measuring

/-! # Column widths

How many columns of a terminal a cluster takes. A character counts by itself unless it is combined with the
characters behind it: joined emoji take the columns of one, and selectors and skin tones change what they
follow. So a text is measured from its end, and what stands behind a character is its context. The characters of the
screen take one column each.
-/

namespace Mcs51.Text

/-- What stands behind a character, as far as it matters for the columns that the character takes. -/
inductive Context
  | other
  | lineFeed
  | emoji
  /-- An emoji with a joiner in front of it. -/
  | joinedEmoji
  /-- A joined emoji with the sign of a keycap in front of it. -/
  | joinedKeycap
  /-- A joined emoji with tags in front of it, which spell the region of a flag from its end: so many letters,
  then so many digits. -/
  | region (letters digits : Nat)
  | skinTone
  /-- The selector of emoji; a joined emoji may follow it. -/
  | asEmoji (joined : Bool)
  /-- The selector of text. -/
  | asText
  /-- A Khmer letter that can stand below another. -/
  | subjoined
deriving DecidableEq, Repr

/-- The selector that shows the character in front of it as an emoji. -/
def emojiSelector : Char := '\uFE0F'

/-- The selector that shows the character in front of it as text. -/
def textSelector : Char := '\uFE0E'

def joiner : Char := '\u200D'

/-- The Khmer sign that puts the letter behind it below the letter in front. -/
def subjoiningSign : Char := '\u17D2'

/-- The sign that makes a keycap of the characters in front of it. -/
def keycapSign : Char := '\u20E3'

/-- The flag that tags make the flag of a region. -/
def blackFlag : Char := Char.ofNat 0x1F3F4

/-- The tag that ends the name of a region. -/
def endTag : Char := Char.ofNat 0xE007F

def isLetterTag (c : Char) : Bool :=
  0xE0061 ≤ c.toNat && c.toNat ≤ 0xE007A

def isDigitTag (c : Char) : Bool :=
  0xE0030 ≤ c.toNat && c.toNat ≤ 0xE0039

def maxLettersBehindDigits : Nat := 4

/-- Most letters of a region without digits. -/
def maxLetters : Nat := 6

/-- Least letters of a region without digits. -/
def minLetters : Nat := 3

def regionDigits : Nat := 3

/-- Marks that do not come between the subjoining sign and its letter. -/
def isTransparent (c : Char) : Bool :=
  let n := c.toNat
  n = 0x34F || (0x17B4 ≤ n && n ≤ 0x17B5) || (0x180B ≤ n && n ≤ 0x180D) || n = 0x180F || c = joiner ||
    (0xFE00 ≤ n && n ≤ 0xFE0F) || (0xE0100 ≤ n && n ≤ 0xE01EF)

/-- Columns that a character takes by itself. Control characters take one, except for the line feed. -/
def charColumns (c : Char) : Nat :=
  let n := c.toNat
  if c = '\n' then 0
  else if n ≤ 0xA0 || n = 0x2D7F then 1
  else if n = 0x17D8 then 3
  else if Property.hidden.holds c then 0
  else if Property.wide.holds c then 2
  else 1

def Context.ofChar (c : Char) : Context :=
  let n := c.toNat
  if c = '\n' then .lineFeed
  else if n ≤ 0xA0 then .other
  else if c = emojiSelector then .asEmoji false
  else if c = textSelector then .asText
  else if Property.emoji.holds c then .emoji
  else if Property.skinTone.holds c then .skinTone
  else if Property.subjoined.holds c then .subjoined
  else .other

/-- Columns of the end of a text, and the context that it is for the character in front of it. -/
structure Measure where
  columns : Nat
  context : Context
deriving DecidableEq, Repr

namespace Measure

def empty : Measure :=
  ⟨0, .other⟩

/-- Measure a character that counts by itself. -/
def addAlone (m : Measure) (c : Char) : Measure :=
  ⟨m.columns + charColumns c, Context.ofChar c⟩

/-- Measure a character that takes no columns beside those of its context. -/
def addJoined (m : Measure) (context : Context) : Measure :=
  { m with context }

/-- Measure a character in front of the end of a text. -/
def add (c : Char) (m : Measure) : Measure :=
  match m.context with
  | .other => m.addAlone c
  | .lineFeed => if c = '\r' then m.addJoined .other else m.addAlone c
  | .asEmoji joined =>
    if Property.emojiStyled.holds c then ⟨m.columns + (if joined then 0 else 2), .emoji⟩ else m.addAlone c
  | .asText =>
    if Property.textStyled.holds c then ⟨m.columns + 1, .other⟩ else m.addAlone c
  | .emoji => if c = joiner then m.addJoined .joinedEmoji else m.addAlone c
  | .skinTone =>
    if Property.skinToned.holds c then m.addJoined .emoji
    else if c = joiner then m.addJoined .joinedEmoji
    else m.addAlone c
  | .joinedEmoji =>
    if c = emojiSelector then m.addJoined (.asEmoji true)
    else if c = keycapSign then m.addJoined .joinedKeycap
    else if c = endTag then m.addJoined (.region 0 0)
    else if Property.skinTone.holds c then m.addJoined .skinTone
    else if Property.emoji.holds c then m.addJoined .emoji
    else m.addAlone c
  | .joinedKeycap => if c = emojiSelector then m.addJoined (.asEmoji true) else m.addAlone c
  | .region letters digits =>
    if isLetterTag c && digits = 0 && letters < maxLetters then m.addJoined (.region (letters + 1) 0)
    else if isDigitTag c && (digits ≠ 0 || letters ≤ maxLettersBehindDigits) && digits < regionDigits then
      m.addJoined (.region letters (digits + 1))
    else if c = blackFlag && (digits = regionDigits || (digits = 0 && minLetters ≤ letters)) then
      m.addJoined .emoji
    else m.addAlone c
  | .subjoined =>
    if isTransparent c then m
    else if c = subjoiningSign then ⟨m.columns - 1, .other⟩
    else m.addAlone c

end Measure

/-- Columns that a cluster takes. -/
def columns (cluster : List Char) : Nat :=
  (cluster.foldr Measure.add Measure.empty).columns

/-- A cluster with the columns that it takes. -/
structure Glyph where
  symbol : String
  width : Nat
deriving DecidableEq, Repr

def glyphs (text : List Char) : List Glyph :=
  (clusters text).map fun cluster => ⟨String.ofList cluster, columns cluster⟩

end Mcs51.Text
