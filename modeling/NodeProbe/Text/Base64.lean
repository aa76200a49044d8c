import NodeProbe.Text.Utf8

/-!
# Base64

Three octets are written as four characters of the standard alphabet, each for six bits; a last
group of one or two octets is filled up with `=`. `decode` reads back what `encode` writes.
-/

namespace NodeProbe.Text.Base64

/-- The character that stands for six bits. -/
def digit (n : Nat) : Char :=
  if n < 26 then Char.ofNat (65 + n)
  else if n < 52 then Char.ofNat (97 + (n - 26))
  else if n < 62 then Char.ofNat (48 + (n - 52))
  else if n = 62 then '+' else '/'

/-- The six bits that a character stands for. -/
def value? (c : Char) : Option Nat :=
  let n := c.toNat
  if 65 ≤ n && n ≤ 90 then some (n - 65)
  else if 97 ≤ n && n ≤ 122 then some (n - 97 + 26)
  else if 48 ≤ n && n ≤ 57 then some (n - 48 + 52)
  else if c = '+' then some 62
  else if c = '/' then some 63
  else none

/-- The characters of the octets. -/
def encodeChars : Bytes → List Char
  | [] => []
  | [a] =>
    let n := a.toNat * 16
    [digit (n / 64), digit (n % 64), '=', '=']
  | [a, b] =>
    let n := (a.toNat * 256 + b.toNat) * 4
    [digit (n / 4096), digit (n / 64 % 64), digit (n % 64), '=']
  | a :: b :: c :: rest =>
    let n := a.toNat * 65536 + b.toNat * 256 + c.toNat
    digit (n / 262144) :: digit (n / 4096 % 64) :: digit (n / 64 % 64) :: digit (n % 64) ::
      encodeChars rest

/-- The Base64 text of the octets. -/
def encode (bytes : Bytes) : String :=
  String.ofList (encodeChars bytes)

/-- Reads groups of four characters; only the last group may be filled up. -/
def decodeChars : List Char → Option Bytes
  | [] => some []
  | [a, b, '=', '='] => do
    let n := (← value? a) * 64 + (← value? b)
    return [UInt8.ofNat (n / 16)]
  | [a, b, c, '='] => do
    let n := ((← value? a) * 64 + (← value? b)) * 64 + (← value? c)
    return [UInt8.ofNat (n / 1024), UInt8.ofNat (n / 4 % 256)]
  | a :: b :: c :: d :: rest => do
    let n := (((← value? a) * 64 + (← value? b)) * 64 + (← value? c)) * 64 + (← value? d)
    let more ← decodeChars rest
    return UInt8.ofNat (n / 65536) :: UInt8.ofNat (n / 256 % 256) :: UInt8.ofNat (n % 256) :: more
  | _ => none

/-- The six bits that a character stands for in one of the two usual alphabets. -/
def anyValue? (c : Char) : Option Nat :=
  if c = '-' then some 62 else if c = '_' then some 63 else value? c

/-- The octets of groups of six bits; bits that fill no octet count for nothing. -/
def octetsOf : List Nat → Bytes
  | a :: b :: c :: d :: rest =>
    let n := ((a * 64 + b) * 64 + c) * 64 + d
    UInt8.ofNat (n / 65536) :: UInt8.ofNat (n / 256 % 256) :: UInt8.ofNat (n % 256) ::
      octetsOf rest
  | [a, b, c] =>
    let n := (a * 64 + b) * 64 + c
    [UInt8.ofNat (n / 1024), UInt8.ofNat (n / 4 % 256)]
  | [a, b] => [UInt8.ofNat ((a * 64 + b) / 16)]
  | _ => []

/-- The octets of any text up to the first `=`: what is no digit is passed over. -/
def decodeLenient (s : String) : Bytes :=
  octetsOf ((s.toList.takeWhile (· ≠ '=')).filterMap anyValue?)

/-- The octets of a Base64 text, if it is one. -/
def decode (s : String) : Option Bytes :=
  decodeChars s.toList

end NodeProbe.Text.Base64
