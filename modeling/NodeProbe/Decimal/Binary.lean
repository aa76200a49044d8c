/-!
# Doubles as exact numbers

A finite double is a sign and a product `m · 2 ^ q` of integers. `Binary.ofFloat` reads the parts
off the bits, `rational?` gives the rational number, and `nearest` goes the other way: the double
closest to a quotient of naturals, with a tie going to the even neighbour.
-/

namespace NodeProbe.Decimal

/-- `base` to the power of a natural number. -/
def power (base n : Nat) : Nat :=
  Nat.pow base n

/-- What a double stands for. -/
inductive Binary where
  /-- The number `± mantissa · 2 ^ exponent`. -/
  | finite (negative : Bool) (mantissa : Nat) (exponent : Int)
  | infinite (negative : Bool)
  | nan
  deriving DecidableEq, Repr

/-- The exponent of the smallest subnormal double. -/
def leastExponent : Int := -1074

/-- The parts of a double: one bit of sign, eleven of exponent, fifty-two of fraction. -/
def Binary.ofBits (bits : Nat) : Binary :=
  let negative := bits / power 2 63 % 2 = 1
  let field : Nat := bits / power 2 52 % power 2 11
  let fraction : Nat := bits % power 2 52
  if field = power 2 11 - 1 then
    if fraction = 0 then .infinite negative else .nan
  else if field = 0 then .finite negative fraction leastExponent
  else .finite negative (power 2 52 + fraction) (leastExponent + ((field : Int) - 1))

/-- What the double stands for. -/
def Binary.ofFloat (x : Float) : Binary :=
  .ofBits x.toBits.toNat

/-- `n · b ^ e` for an integer exponent. -/
def scaled (n b : Nat) (e : Int) : Rat :=
  if 0 ≤ e then (n * power b e.toNat : Nat) else mkRat n (power b (-e).toNat)

/-- The number that a finite double stands for. -/
def Binary.value? : Binary → Option Rat
  | finite negative m q => some (if negative then -scaled m 2 q else scaled m 2 q)
  | infinite _ | nan => none

/-- The exact value of a finite double. -/
def rational? (x : Float) : Option Rat :=
  (Binary.ofFloat x).value?

/-- The double is a whole number. -/
def isInteger (x : Float) : Bool :=
  match Binary.ofFloat x with
  | .finite _ m q => 0 ≤ q || m % power 2 (-q).toNat = 0
  | .infinite _ | .nan => false

/-! ## Rounding to a double -/

/-- The integer nearest to `num / den`; a tie goes to the even one. -/
def roundHalfEven (num den : Nat) : Nat :=
  let quotient := num / den
  let twice := 2 * (num % den)
  if twice < den then quotient
  else if den < twice then quotient + 1
  else quotient + quotient % 2

/-- The greatest `k` with `2 ^ k ≤ num / den`, for positive `num` and `den`. -/
def binaryScale (num den : Nat) : Int :=
  let k : Int := num.log2 - den.log2
  let fits := if 0 ≤ k then den * power 2 k.toNat ≤ num else den ≤ num * power 2 (-k).toNat
  if fits then k else k - 1

/-- The bits of the positive double nearest to `num / den`. The fraction keeps fifty-two bits behind
the leading one, fewer for a subnormal; a carry out of it counts up the exponent by itself, and what
is too large is infinite. -/
def nearestBits (num den : Nat) : Nat :=
  if num = 0 then 0
  else
    let e := max leastExponent (binaryScale num den - 52)
    let m :=
      if 0 ≤ e then roundHalfEven num (den * power 2 e.toNat)
      else roundHalfEven (num * power 2 (-e).toNat) den
    min ((e - leastExponent).toNat * power 2 52 + m) ((power 2 11 - 1) * power 2 52)

/-- The double nearest to `± num / den`. -/
def nearest (negative : Bool) (num den : Nat) : Float :=
  Float.ofBits (UInt64.ofNat (nearestBits num den + if negative then power 2 63 else 0))

/-- The double nearest to a rational number. -/
def ofRat (x : Rat) : Float :=
  nearest (x.num < 0) x.num.natAbs x.den

/-- The number for which the double nearest to a rational number stands. What is too large for a
double is left as it is. -/
def rounded (x : Rat) : Rat :=
  match (Binary.ofBits (nearestBits x.num.natAbs x.den)).value? with
  | some y => if x.num < 0 then -y else y
  | none => x

/-- The double nearest to an integer. -/
def ofInt (n : Int) : Float :=
  nearest (n < 0) n.natAbs 1

/-- The nearest whole number; a half goes up. -/
def roundHalfUp (x : Float) : Float :=
  match rational? x with
  | some q => ofInt (q + 1 / 2).floor
  | none => x

/-- The whole part of the double, if it is finite and not negative. -/
def wholePart? (x : Float) : Option Nat :=
  match rational? x with
  | some q => if 0 ≤ q then some q.floor.toNat else none
  | none => none

end NodeProbe.Decimal
