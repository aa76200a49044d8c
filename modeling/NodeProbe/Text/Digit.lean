/-!
# Digits

Numbers in a base up to sixteen are written with the digits from `0` to `9` and the letters from `a`
to `f`, capital or small.
-/

namespace NodeProbe.Text

/-- A digit, as a capital letter if it is one. -/
def upperDigit (n : Nat) : Char :=
  Char.ofNat (if n < 10 then 48 + n else 55 + n)

/-- A digit, as a small letter if it is one. -/
def lowerDigit (n : Nat) : Char :=
  Char.ofNat (if n < 10 then 48 + n else 87 + n)

/-- The last four digits in base sixteen. -/
def fourDigits (n : Nat) : List Char :=
  [4096, 256, 16, 1].map fun weight => lowerDigit (n / weight % 16)

/-- The value of a digit. -/
def digitValue? (c : Char) : Option Nat :=
  let n := c.toNat
  if 48 ≤ n && n ≤ 57 then some (n - 48)
  else if 65 ≤ n && n ≤ 70 then some (n - 55)
  else if 97 ≤ n && n ≤ 102 then some (n - 87)
  else none

/-- The value of some digits of a base, at least one. -/
def valueInBase? (base : Nat) (cs : List Char) : Option Nat :=
  let step (total : Option Nat) (c : Char) : Option Nat := do
    let n ← total
    let d ← digitValue? c
    if d < base then some (n * base + d) else none
  if cs.isEmpty then none else cs.foldl step (some 0)

end NodeProbe.Text
