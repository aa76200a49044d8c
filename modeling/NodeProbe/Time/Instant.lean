import NodeProbe.Decimal.Layout
import NodeProbe.Time.Calendar

/-!
# Instants

A point in time, in whole milliseconds since 1970. An instant lies within a hundred million days of
that moment. Its text is the one of ISO 8601, `2026-01-02T03:04:05.000Z`; a year that does not lie
between 0 and 9999 has a sign and six digits. `ofText?` reads such a text.
-/

namespace NodeProbe.Time

/-- The greatest distance of an instant from the epoch. -/
def greatestMs : Int := 8640000000000000

/-- A point in time. -/
structure Instant where
  /-- Milliseconds since 1970. -/
  ms : Int
  isValid : -greatestMs ≤ ms ∧ ms ≤ greatestMs

/-- Milliseconds of a day. -/
def dayMs : Nat := 86400000

/-- A number with leading zeros up to a width. -/
def padded (width n : Nat) : List Char :=
  let cs := Decimal.digitChars n
  List.replicate (width - cs.length) '0' ++ cs

/-- The digits of a year. -/
def yearChars (year : Int) : List Char :=
  if 0 ≤ year && year ≤ 9999 then padded 4 year.toNat
  else (if year < 0 then '-' else '+') :: padded 6 year.natAbs

namespace Instant

/-- The instant so many milliseconds after the epoch, if there is one. -/
def ofMs? (ms : Int) : Option Instant :=
  if h : -greatestMs ≤ ms ∧ ms ≤ greatestMs then some ⟨ms, h⟩ else none

/-- The instant of a number of milliseconds without its fraction. -/
def ofRat? (ms : Rat) : Option Instant :=
  ofMs? (ms.num.tdiv ms.den)

/-- The instant of a number of milliseconds, which may be anything. -/
def ofFloat? (ms : Float) : Option Instant :=
  (Decimal.rational? ms).bind ofRat?

/-- The text of an instant. -/
def chars (i : Instant) : List Char :=
  let date := Date.ofDay (i.ms / dayMs)
  let ms := (i.ms % dayMs).toNat
  yearChars date.year ++ '-' :: padded 2 date.month ++ '-' :: padded 2 date.day ++
    'T' :: padded 2 (ms / 3600000) ++ ':' :: padded 2 (ms / 60000 % 60) ++
    ':' :: padded 2 (ms / 1000 % 60) ++ '.' :: padded 3 (ms % 1000) ++ ['Z']

/-- The text of an instant. -/
def text (i : Instant) : String :=
  String.ofList i.chars

/-! ## Reading -/

/-- Reads so many digits. -/
def digits? (count : Nat) (cs : List Char) : Option (Nat × List Char) :=
  let read := cs.take count
  if read.length = count && read.all Char.isDigit then
    some (read.foldl (fun n c => 10 * n + (c.toNat - '0'.toNat)) 0, cs.drop count)
  else none

/-- Reads a year: four digits, or a sign and six. -/
def year? : List Char → Option (Int × List Char)
  | '+' :: rest => (digits? 6 rest).map fun (n, rest) => ((n : Int), rest)
  | '-' :: rest => (digits? 6 rest).map fun (n, rest) => (-(n : Int), rest)
  | cs => (digits? 4 cs).map fun (n, rest) => ((n : Int), rest)

/-- Reads a mark and the digits behind it. -/
def part? (mark : Char) (count : Nat) (cs : List Char) : Option (Nat × List Char) :=
  match cs with
  | c :: rest => if c = mark then digits? count rest else none
  | [] => none

/-- Reads the text of an instant. -/
def ofText? (s : String) : Option Instant := do
  let (year, rest) ← year? s.toList
  let (month, rest) ← part? '-' 2 rest
  let (day, rest) ← part? '-' 2 rest
  let (hour, rest) ← part? 'T' 2 rest
  let (minute, rest) ← part? ':' 2 rest
  let (second, rest) ← part? ':' 2 rest
  let (ms, rest) ← part? '.' 3 rest
  if rest = ['Z'] then
    ofMs? ((Date.mk year month day).toDay * dayMs +
      (hour * 3600000 + minute * 60000 + second * 1000 + ms : Nat))
  else none

end Instant

end NodeProbe.Time
