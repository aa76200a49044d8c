import NodeProbe.Text.Digit

/-!
# Hosts written as numbers

A host is known by a number of 32 bits or by one of 128 bits. The shorter one is written in up to
four parts between points, of which the last one takes all the octets that the others leave; a part
may be decimal, octal or hexadecimal. The longer one is written in eight groups between colons, the
last two of them perhaps as a shorter one of four decimal parts, and two colons may stand for groups
that are zero.
-/

namespace NodeProbe.Host

/-! ## Thirty-two bits -/

/-- The value of a part in lower case. After `0x` it is hexadecimal and may have no digits, which
are worth zero; after another zero it is octal. -/
def partValue? : List Char → Option Nat
  | '0' :: 'x' :: digits => if digits.isEmpty then some 0 else Text.valueInBase? 16 digits
  | '0' :: d :: digits => Text.valueInBase? 8 (d :: digits)
  | digits => Text.valueInBase? 10 digits

/-- The parts of a name between its points. A point at the end of the name ends the last part. -/
def pointedParts (name : List Char) : List (List Char) :=
  let parts := name.splitOn '.'
  if 1 < parts.length && parts.getLast? = some [] then parts.dropLast else parts

/-- The last part is a number or has no character but digits, so the whole must be a number. -/
def endsInNumber (parts : List (List Char)) : Bool :=
  match parts.getLast? with
  | none | some [] => false
  | some last => last.all Char.isDigit || (partValue? last).isSome

/-- The parts are those of a number of 32 bits. -/
def isPointed (parts : List (List Char)) : Bool :=
  match parts.mapM partValue? with
  | none => false
  | some values =>
    values.length ≤ 4 && values.dropLast.all (· < 256) &&
      values.getLast?.any (· < 1 <<< (8 * (5 - values.length)))

/-! ## A hundred and twenty-eight bits -/

/-- A decimal number up to 255 without zeros in front. -/
def isOctet (cs : List Char) : Bool :=
  cs.all Char.isDigit && (cs.length = 1 || cs.head? ≠ some '0') &&
    (Text.valueInBase? 10 cs).any (· < 256)

/-- Four octets between points. -/
def isQuad (cs : List Char) : Bool :=
  let parts := cs.splitOn '.'
  parts.length = 4 && parts.all isOctet

/-- The number of groups that a text stands for; the last ones may be four octets if `quad`
says so. -/
def groupCount? (quad : Bool) (cs : List Char) : Option Nat :=
  let isGroup (group : List Char) : Bool := group.length ≤ 4 && (Text.valueInBase? 16 group).isSome
  let groups := cs.splitOn ':'
  if cs.isEmpty then some 0
  else if groups.all isGroup then some groups.length
  else if quad && groups.dropLast.all isGroup && groups.getLast?.any isQuad then
    some (groups.length + 1)
  else none

/-- What stands before the first two colons in a row, and what stands behind them. -/
def cutAtGap : List Char → List Char × Option (List Char)
  | ':' :: ':' :: rest => ([], some rest)
  | c :: rest => ((cutAtGap rest).1.cons c, (cutAtGap rest).2)
  | [] => ([], none)

/-- A number of 128 bits: eight groups, or fewer with a gap among them. -/
def isGrouped (cs : List Char) : Bool :=
  match cutAtGap cs with
  | (whole, none) => groupCount? true whole = some 8
  | (front, some back) =>
    match groupCount? false front, groupCount? true back with
    | some m, some n => m + n ≤ 7
    | _, _ => false

end NodeProbe.Host
