import NodeProbe.Decimal.Binary
import NodeProbe.Text.Blank
import NodeProbe.Text.Digit

/-!
# Numerals

Two ways to read a number. `strict?` takes exactly the numbers of JSON; `coerce` takes any text and
is lenient: blanks around it are dropped, no text at all is zero, a point may lead or trail, whole
numbers may be binary, octal or hexadecimal, and what is no number becomes NaN. Both give the double
nearest to what is written.
-/

namespace NodeProbe.Decimal

/-- The value of decimal digits. -/
def digitsValue (cs : List Char) : Nat :=
  cs.foldl (fun n c => 10 * n + (c.toNat - '0'.toNat)) 0

/-- The double nearest to `± digits · 10 ^ exponent`. An exponent beyond the range of doubles
decides at once. -/
def nearestDecimal (negative : Bool) (digits : Nat) (exponent : Int) : Float :=
  if digits = 0 || exponent + digits.log2 + 1 < -330 then nearest negative 0 1
  else if 310 < exponent then nearest negative (power 2 1024) 1
  else nearest negative (digits * power 10 exponent.toNat) (power 10 (-exponent).toNat)

/-- The parts of an unsigned decimal numeral. -/
structure Numeral where
  whole : List Char
  /-- The digits behind the point, if there is a point. -/
  fraction : Option (List Char)
  /-- The sign and the digits of the exponent, if there is one. -/
  exponent : Option (Bool × List Char)
  deriving DecidableEq, Repr

namespace Numeral

/-- The sign in front and the rest; `plus` says whether a plus sign may be written. -/
def splitSign (plus : Bool) : List Char → Bool × List Char
  | '-' :: rest => (true, rest)
  | '+' :: rest => if plus then (false, rest) else (false, '+' :: rest)
  | cs => (false, cs)

/-- Digits, perhaps a point with digits, perhaps a mark with an exponent, and nothing behind. Any of
the digits may be missing. -/
def scan (cs : List Char) : Option Numeral :=
  let whole := cs.takeWhile Char.isDigit
  let (fraction, rest) :=
    match cs.dropWhile Char.isDigit with
    | '.' :: rest => (some (rest.takeWhile Char.isDigit), rest.dropWhile Char.isDigit)
    | rest => (none, rest)
  match rest with
  | [] => some ⟨whole, fraction, none⟩
  | mark :: rest =>
    if mark = 'e' || mark = 'E' then
      let (negative, digits) := splitSign true rest
      if digits.all Char.isDigit then some ⟨whole, fraction, some (negative, digits)⟩ else none
    else none

/-- The digits of the exponent are there if its mark is. -/
def hasExponentDigits (n : Numeral) : Bool :=
  n.exponent.all fun e => !e.2.isEmpty

/-- The form that JSON allows: a whole part without a leading zero, and digits behind each mark. -/
def isStrict (n : Numeral) : Bool :=
  (n.whole = ['0'] || (!n.whole.isEmpty && n.whole.head? ≠ some '0')) &&
    n.fraction.all (!·.isEmpty) && n.hasExponentDigits

/-- The lenient form: a digit before or behind the point. -/
def isLenient (n : Numeral) : Bool :=
  !(n.whole ++ n.fraction.getD []).isEmpty && n.hasExponentDigits

/-- The double nearest to the numeral. -/
def value (negative : Bool) (n : Numeral) : Float :=
  let fraction := n.fraction.getD []
  let exponent : Int :=
    match n.exponent with
    | some (true, digits) => -(digitsValue digits : Int)
    | some (false, digits) => digitsValue digits
    | none => 0
  nearestDecimal negative (digitsValue (n.whole ++ fraction)) (exponent - fraction.length)

end Numeral

/-- Reads a number of JSON. -/
def strict? (cs : List Char) : Option Float :=
  let (negative, unsigned) := Numeral.splitSign false cs
  match Numeral.scan unsigned with
  | some n => if n.isStrict then some (n.value negative) else none
  | none => none

/-- Not a number. -/
def nan : Float :=
  Float.ofBits 0x7FF8000000000000

/-- An infinity. -/
def infinity (negative : Bool) : Float :=
  nearest negative (power 2 1024) 1

/-- Reads digits of a base, at least one. -/
def inBase? (base : Nat) (cs : List Char) : Option Float :=
  (Text.valueInBase? base cs).map fun n => nearest false n 1

/-- Reads a trimmed, nonempty text as a signed decimal or an infinity. -/
def signed? (cs : List Char) : Option Float :=
  let (negative, unsigned) := Numeral.splitSign true cs
  if unsigned = "Infinity".toList then some (infinity negative)
  else
    match Numeral.scan unsigned with
    | some n => if n.isLenient then some (n.value negative) else none
    | none => none

/-- Reads any text as a number, NaN if it is none. -/
def coerce (s : String) : Float :=
  let read : Option Float :=
    match Text.trimChars s.toList with
    | [] => some (nearest false 0 1)
    | '0' :: mark :: rest =>
      if mark = 'x' || mark = 'X' then inBase? 16 rest
      else if mark = 'o' || mark = 'O' then inBase? 8 rest
      else if mark = 'b' || mark = 'B' then inBase? 2 rest
      else signed? ('0' :: mark :: rest)
    | cs => signed? cs
  read.getD nan

end NodeProbe.Decimal
