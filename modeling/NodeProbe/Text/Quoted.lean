import NodeProbe.Text.Basic
import NodeProbe.Text.Digit

/-!
# Texts between quotes

How a message shows a text that someone has handed in. The text stands between single quotes, or, if
it holds some itself, between other quotes that it does not hold; the backslash, the controls and
the lone halves of characters are escaped. A long text is shown line by line, each line between
quotes of its own and with a plus sign between two lines. What would be longer than 128 units is cut
off and ends in three dots.
-/

namespace NodeProbe.Text.Quoted

/-- The single quote. -/
def singleQuote : Char := Char.ofNat 0x27

/-- The double quote. -/
def doubleQuote : Char := Char.ofNat 0x22

/-- The slanted quote. -/
def slantedQuote : Char := Char.ofNat 0x60

/-- The character that begins an escape. -/
def backslash : Char := Char.ofNat 0x5C

/-- The pieces hold the beginning of a place that would be filled in between slanted quotes. -/
def holdsOpening : List Piece → Bool
  | p :: q :: rest => (p = .inl '$' && q = .inl (Char.ofNat 0x7B)) || holdsOpening (q :: rest)
  | _ => false

/-- The quotes that are put around some pieces. -/
def quoteFor (ps : List Piece) : Char :=
  if !ps.contains (.inl singleQuote) then singleQuote
  else if !ps.contains (.inl doubleQuote) then doubleQuote
  else if !ps.contains (.inl slantedQuote) && !holdsOpening ps then slantedQuote
  else singleQuote

/-- The controls of ASCII and those behind it. -/
def isControl (c : Char) : Bool :=
  c.toNat < 0x20 || (0x7F ≤ c.toNat && c.toNat ≤ 0x9F)

/-- A character between quotes. -/
def escapeChar (quote c : Char) : List Char :=
  if c = backslash || c = quote then [backslash, c]
  else if c = '\x08' then [backslash, 'b']
  else if c = '\x0C' then [backslash, 'f']
  else if c = '\n' then [backslash, 'n']
  else if c = '\r' then [backslash, 'r']
  else if c = '\t' then [backslash, 't']
  else if isControl c then [backslash, 'x', upperDigit (c.toNat / 16), upperDigit (c.toNat % 16)]
  else [c]

/-- A piece between quotes. -/
def escapePiece (quote : Char) : Piece → List Char
  | .inl c => escapeChar quote c
  | .inr u => backslash :: 'u' :: fourDigits u.toNat

/-- Pieces between quotes. -/
def quoted (ps : List Piece) : List Char :=
  let quote := quoteFor ps
  quote :: ps.flatMap (escapePiece quote) ++ [quote]

/-- The lines of some pieces, each with the line feed at its end. -/
def linesOf : List Piece → List (List Piece)
  | [] => []
  | p :: rest =>
    if p = .inl '\n' then [p] :: linesOf rest
    else
      match linesOf rest with
      | line :: more => (p :: line) :: more
      | [] => [[p]]

/-- The greatest number of units of a text that is shown in one line. -/
def greatestLine : Nat := 76

/-- What stands between two lines. -/
def lineMark : List Char :=
  " +\n  ".toList

/-- A whole text between quotes. -/
def whole (t : Text) : Text :=
  ofChars <|
    if greatestLine < t.length then lineMark.intercalate ((linesOf t.pieces).map quoted)
    else quoted t.pieces

/-- The greatest number of units that is shown. -/
def greatestLength : Nat := 128

/-- A text that is cut off if it is too long. -/
def cut (t : Text) : Text :=
  if t.length ≤ greatestLength then t else ⟨t.units.take greatestLength⟩ ++ "..."

/-- What a message shows of a text. -/
def shown (t : Text) : Text :=
  cut (whole t)

end NodeProbe.Text.Quoted
