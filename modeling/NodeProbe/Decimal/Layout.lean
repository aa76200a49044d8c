import NodeProbe.Decimal.Shortest

/-!
# Numbers as text

A layout says how the digits of a number are set: over which exponents the point is written among
the digits, how an exponent is marked, and what stands for the values that have no digits. Every
number of this library is written in the layout `standard`.
-/

namespace NodeProbe.Decimal

/-- How numbers are set. -/
structure Layout where
  /-- The least exponent of the first digit for which no exponent is written. -/
  least : Int
  /-- The greatest exponent of the first digit for which no exponent is written. -/
  greatest : Int
  /-- What stands between the digits and the exponent. -/
  mark : String
  /-- The sign of an exponent that is not negative. -/
  plus : String
  zero : String
  infinity : String
  nan : String

/-- Numbers from 0.000001 up to but not including 10²¹ are written without an exponent, others as
`1e+21` and `1e-7`; both zeros are `0`. -/
def standard : Layout :=
  { least := -6, greatest := 20, mark := "e", plus := "+", zero := "0", infinity := "Infinity",
    nan := "NaN" }

/-- The decimal digits of a natural number. -/
def digitChars (n : Nat) : List Char :=
  Nat.toDigits 10 n

/-- An integer with a sign. -/
def Layout.exponentText (layout : Layout) (e : Int) : String :=
  (if e < 0 then "-" else layout.plus) ++ String.ofList (digitChars e.natAbs)

/-- Writes a positive decimal. -/
def Layout.decimal (layout : Layout) (d : Digits) : String :=
  let cs := digitChars d.digits
  let first := d.exponent + cs.length - 1
  if first < layout.least || layout.greatest < first then
    let fraction := cs.drop 1
    String.ofList (cs.take 1) ++ (if fraction.isEmpty then "" else "." ++ String.ofList fraction) ++
      layout.mark ++ layout.exponentText first
  else if 0 ≤ d.exponent then String.ofList (cs ++ List.replicate d.exponent.toNat '0')
  else if 0 ≤ first then
    let (whole, fraction) := cs.splitAt (first + 1).toNat
    String.ofList (whole ++ '.' :: fraction)
  else String.ofList ('0' :: '.' :: List.replicate (-first - 1).toNat '0' ++ cs)

/-- Writes a double. -/
def Layout.write (layout : Layout) (x : Float) : String :=
  match Binary.ofFloat x with
  | .finite negative m q =>
    if m = 0 then layout.zero
    else (if negative then "-" else "") ++ layout.decimal (shortest m q)
  | .infinite negative => (if negative then "-" else "") ++ layout.infinity
  | .nan => layout.nan

/-- The text of a number. -/
def text (x : Float) : String :=
  standard.write x

/-- The text of a natural number. -/
def natText (n : Nat) : String :=
  String.ofList (digitChars n)

end NodeProbe.Decimal
