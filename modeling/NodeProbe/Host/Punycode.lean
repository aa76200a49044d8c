/-!
# Names in letters and digits

A part of a name with characters behind ASCII can be written in letters and digits of ASCII. Its own
characters of ASCII stand in front, up to the last hyphen; behind it, one number for each of the
other characters says which one it is and where it goes. Digits count from `a` to `z` and on from
`0` to `9`, the lowest one comes first, and the place of a digit and the numbers before it decide up
to which value it is the last one of its number.
-/

namespace NodeProbe.Host.Punycode

/-- The value of a digit. -/
def digitValue? (c : Char) : Option Nat :=
  if 'a' ≤ c && c ≤ 'z' then some (c.toNat - 97)
  else if '0' ≤ c && c ≤ '9' then some (c.toNat - 22)
  else none

/-- A digit below it is the last one of its number. `place` is 36 for the first digit, 72 for the
second one, and so on. -/
def threshold (place bias : Nat) : Nat :=
  if place ≤ bias then 1 else if bias + 26 ≤ place then 26 else place - bias

/-- Divides by 35 until little is left, and counts 36 each time. -/
def scaleDown (delta count : Nat) : Nat × Nat :=
  if 455 < delta then scaleDown (delta / 35) (count + 36) else (delta, count)
termination_by delta
decreasing_by
  rename_i h
  exact Nat.div_lt_self (Nat.lt_of_le_of_lt (Nat.zero_le _) h) (by decide)

/-- The bias for the number that follows one of value `delta` when there are `length`
characters. -/
def adapted (delta length : Nat) (isFirst : Bool) : Nat :=
  let start := if isFirst then delta / 700 else delta / 2
  let (rest, count) := scaleDown (start + start / length) 0
  count + 36 * rest / (rest + 38)

/-- No number may be greater. -/
def greatest : Nat := 0x7FFFFFFF

/-- What has been read: the characters so far, the code point of the last one that was put among
them and the position behind it, and of the number that is being read its value and the weight and
the place of its next digit. -/
structure Progress where
  read : List Char
  point : Nat
  position : Nat
  bias : Nat
  value : Nat
  weight : Nat
  place : Nat

namespace Progress

/-- Some characters of ASCII, and no number. -/
def initially (read : List Char) : Progress :=
  ⟨read, 128, 0, 72, 0, 1, 36⟩

/-- A number ends: the position moves on by it, around all the positions and one code point further
each time, and there stands the character. -/
def insert? (p : Progress) (value : Nat) : Option Progress :=
  let length := p.read.length + 1
  let point := p.point + (p.position + value) / length
  let position := (p.position + value) % length
  if point.isValidChar then
    some {
      read := p.read.take position ++ Char.ofNat point :: p.read.drop position
      point, position := position + 1
      bias := adapted value length (p.position = 0)
      value := 0, weight := 1, place := 36 }
  else none

/-- Reads a digit. -/
def step? (p : Progress) (c : Char) : Option Progress := do
  let digit ← digitValue? c
  let value := p.value + digit * p.weight
  let bound := threshold p.place p.bias
  let weight := p.weight * (36 - bound)
  if greatest < p.position + value then none
  else if digit < bound then p.insert? value
  else if greatest < weight then none
  else some { p with value, weight, place := p.place + 36 }

end Progress

/-- The characters of ASCII in front, and the numbers. -/
def parts (cs : List Char) : List Char × List Char :=
  if cs.contains '-' then
    (((cs.reverse.dropWhile (· ≠ '-')).drop 1).reverse, (cs.reverse.takeWhile (· ≠ '-')).reverse)
  else ([], cs)

/-- Reads a part of a name in lower case. The last number must be complete. -/
def decode? (cs : List Char) : Option (List Char) := do
  let (front, numbers) := parts cs
  let p ← numbers.foldlM Progress.step? (.initially front)
  if p.place = 36 then return p.read else none

end NodeProbe.Host.Punycode
