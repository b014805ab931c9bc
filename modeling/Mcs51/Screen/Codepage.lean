/-! # Code page 437

The screen holds bytes. Every byte has a glyph, and every ASCII character and every glyph of the page
has a byte. NUL and space share the blank glyph, which belongs to the space.
-/

namespace Mcs51.Codepage

/-- The glyphs of the 256 bytes. NUL is shown as a blank; the last glyph is a no-break space. -/
def glyphs : Array Char := #[
  ' ', '☺', '☻', '♥', '♦', '♣', '♠', '•', '◘', '○', '◙', '♂', '♀', '♪', '♫', '☼',
  '►', '◄', '↕', '‼', '¶', '§', '▬', '↨', '↑', '↓', '→', '←', '∟', '↔', '▲', '▼',
  ' ', '!', '\x22', '#', '$', '%', '&', '\x27', '(', ')', '*', '+', ',', '-', '.', '/',
  '0', '1', '2', '3', '4', '5', '6', '7', '8', '9', ':', ';', '<', '=', '>', '?',
  '@', 'A', 'B', 'C', 'D', 'E', 'F', 'G', 'H', 'I', 'J', 'K', 'L', 'M', 'N', 'O',
  'P', 'Q', 'R', 'S', 'T', 'U', 'V', 'W', 'X', 'Y', 'Z', '[', '\\', ']', '^', '_',
  '\x60', 'a', 'b', 'c', 'd', 'e', 'f', 'g', 'h', 'i', 'j', 'k', 'l', 'm', 'n', 'o',
  'p', 'q', 'r', 's', 't', 'u', 'v', 'w', 'x', 'y', 'z', '\x7b', '|', '\x7d', '~', '⌂',
  'Ç', 'ü', 'é', 'â', 'ä', 'à', 'å', 'ç', 'ê', 'ë', 'è', 'ï', 'î', 'ì', 'Ä', 'Å',
  'É', 'æ', 'Æ', 'ô', 'ö', 'ò', 'û', 'ù', 'ÿ', 'Ö', 'Ü', '¢', '£', '¥', '₧', 'ƒ',
  'á', 'í', 'ó', 'ú', 'ñ', 'Ñ', 'ª', 'º', '¿', '⌐', '¬', '½', '¼', '¡', '«', '»',
  '░', '▒', '▓', '│', '┤', '╡', '╢', '╖', '╕', '╣', '║', '╗', '╝', '╜', '╛', '┐',
  '└', '┴', '┬', '├', '─', '┼', '╞', '╟', '╚', '╔', '╩', '╦', '╠', '═', '╬', '╧',
  '╨', '╤', '╥', '╙', '╘', '╒', '╓', '╫', '╪', '┘', '┌', '█', '▄', '▌', '▐', '▀',
  'α', 'ß', 'Γ', 'π', 'Σ', 'σ', 'µ', 'τ', 'Φ', 'Θ', 'Ω', 'δ', '∞', 'φ', 'ε', '∩',
  '≡', '±', '≥', '≤', '⌠', '⌡', '÷', '≈', '°', '∙', '·', '√', 'ⁿ', '²', '■', '\u00a0']

set_option maxRecDepth 2000 in
theorem size_glyphs : glyphs.size = 256 := rfl

def index (byte : UInt8) : Fin glyphs.size :=
  ⟨byte.toNat, by rw [size_glyphs]; exact byte.toNat_lt⟩

/-- The glyph of a byte. -/
def decode (byte : UInt8) : Char :=
  glyphs[index byte]

/-- The byte that stands for characters outside the page. -/
def unmapped : UInt8 := 0x3F

/-- The byte of a character: an ASCII character, control characters included, is its own byte; any other
character has the byte whose glyph it is. -/
def encodeChar (c : Char) : UInt8 :=
  if c.toNat < 0x80 then UInt8.ofNat c.toNat
  else (glyphs.findIdx? (· == c)).elim unmapped UInt8.ofNat

/-- The bytes of a text. -/
def encode (text : String) : List UInt8 :=
  text.toList.map encodeChar

/-- The glyphs of bytes. -/
def decodeAll (bytes : List UInt8) : String :=
  String.ofList (bytes.map decode)

end Mcs51.Codepage
