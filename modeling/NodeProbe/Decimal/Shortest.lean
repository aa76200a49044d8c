import NodeProbe.Decimal.Binary

/-!
# The shortest decimal of a double

`shortest m q` is the decimal with the fewest digits among those that read back as the double
`m · 2 ^ q`, and of two with equally many digits the nearer one. The numbers that read back form an
interval around the double; its ends belong to it exactly if `m` is even. Grids of one, two, three …
digits are tried in turn: if a grid has a point in the interval, one of the two neighbours of the
double on that grid lies in it.
-/

namespace NodeProbe.Decimal

/-- The number `digits · 10 ^ exponent`. -/
structure Digits where
  digits : Nat
  exponent : Int
  deriving DecidableEq, Repr

/-- Removes up to `fuel` zeros at the end of the digits. -/
def Digits.stripUpTo : Nat → Digits → Digits
  | 0, d => d
  | fuel + 1, d =>
    if d.digits % 10 = 0 then Digits.stripUpTo fuel ⟨d.digits / 10, d.exponent + 1⟩ else d

/-- The same number with no zero at the end of its digits. -/
def Digits.strip (d : Digits) : Digits :=
  if d.digits = 0 then ⟨0, 0⟩ else d.stripUpTo d.digits.log2

/-- The exponent `k` with `10 ^ (k - 1) ≤ num / den < 10 ^ k`, looked for around an estimate. -/
def decimalScale (num den : Nat) : Int :=
  let estimate : Int := ((num.log2 : Int) - den.log2) * 30103 / 100000
  let below (k : Int) : Bool :=
    if 0 ≤ k then num < den * power 10 k.toNat else num * power 10 (-k).toNat < den
  ([estimate - 1, estimate, estimate + 1].find? below).getD (estimate + 2)

/-- The interval of the numbers that round to a double, in units of `num / den`. -/
structure Rounding where
  value : Nat
  low : Nat
  high : Nat
  unitNum : Nat
  unitDen : Nat
  closed : Bool
  deriving DecidableEq, Repr

/-- Half way to the next double on both sides; below a power of two the next one is half as far. -/
def Rounding.of (m : Nat) (q : Int) : Rounding :=
  let narrow := m = power 2 52 && leastExponent < q
  { value := 4 * m
    low := 4 * m - if narrow then 1 else 2
    high := 4 * m + 2
    unitNum := power 2 (q - 2).toNat
    unitDen := power 2 (2 - q).toNat
    closed := m % 2 = 0 }

/-- The neighbour of the double on the grid of the multiples of `10 ^ e` that lies in the interval,
the nearer one if both do, the even one if both are as near. -/
def Rounding.onGrid (r : Rounding) (e : Int) : Option Digits :=
  let up := r.unitNum * power 10 (-e).toNat
  let down := r.unitDen * power 10 e.toNat
  let inside (n : Nat) : Bool :=
    if r.closed then r.low * up ≤ n * down && n * down ≤ r.high * up
    else r.low * up < n * down && n * down < r.high * up
  let n := r.value * up / down
  match inside n, inside (n + 1) with
  | true, true =>
    let twice := 2 * (r.value * up)
    let middle := (2 * n + 1) * down
    let upper := middle < twice || (middle = twice && n % 2 = 1)
    some ⟨if upper then n + 1 else n, e⟩
  | true, false => some ⟨n, e⟩
  | false, true => some ⟨n + 1, e⟩
  | false, false => none

/-- All digits of `m · 2 ^ q`. -/
def expansion (m : Nat) (q : Int) : Digits :=
  ⟨m * power 2 q.toNat * power 5 (-q).toNat, min q 0⟩

/-- The shortest decimal that reads back as the double `m · 2 ^ q`. Seventeen digits always
suffice. -/
def shortest (m : Nat) (q : Int) : Digits :=
  let r := Rounding.of m q
  let k := decimalScale (m * power 2 q.toNat) (power 2 (-q).toNat)
  let hit := (List.range 17).findSome? fun i : Nat => r.onGrid (k - (i + 1))
  (hit.getD (expansion m q)).strip

end NodeProbe.Decimal
