/-!
# Blank characters

The characters that count as white space when a value is trimmed, coerced to a number or matched
against a line of an environment file: the ASCII controls from tab to carriage return, the space
separators of Unicode, the two line separators and the byte order mark.
-/

namespace NodeProbe.Text

/-- A line terminator ends a line: line feed, carriage return, line separator, paragraph
separator. -/
def isLineBreak (c : Char) : Bool :=
  c = '\n' || c = '\r' || c = '\u2028' || c = '\u2029'

/-- The code point of a blank: a tab-like control, a space separator, a line terminator or the byte
order mark. U+0085, U+180E and U+200B are none. -/
def isBlankCode (n : Nat) : Bool :=
  (0x09 ≤ n && n ≤ 0x0D) || n = 0x20 || n = 0xA0 || n = 0x1680 || (0x2000 ≤ n && n ≤ 0x200A) ||
    n = 0x2028 || n = 0x2029 || n = 0x202F || n = 0x205F || n = 0x3000 || n = 0xFEFF

/-- A blank character. -/
def isBlank (c : Char) : Bool :=
  isBlankCode c.toNat

/-- The characters without the blanks at both ends. -/
def trimChars (cs : List Char) : List Char :=
  ((cs.dropWhile isBlank).reverse.dropWhile isBlank).reverse

@[simp] theorem trimChars_nil : trimChars [] = [] := rfl

end NodeProbe.Text
