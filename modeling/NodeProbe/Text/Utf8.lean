/-!
# Bytes and text

`Bytes` is a sequence of octets. Text is written to bytes as UTF-8, and bytes are read back as
UTF-8 in the lossy way: each maximal prefix of a sequence that cannot be continued becomes one
U+FFFD, and reading goes on with the byte that broke it.
-/

namespace NodeProbe

/-- A sequence of octets. -/
abbrev Bytes := List UInt8

namespace Text.Utf8

/-- The UTF-8 octets of a text. -/
def encode (s : String) : Bytes :=
  s.toUTF8.toList

/-- A sequence that has begun: how many octets it still needs, the value read so far, and the range
in which the next octet must lie. -/
structure Pending where
  needed : Nat
  value : Nat
  low : Nat
  high : Nat
  deriving DecidableEq, Repr

/-- What stands for octets that are no character. -/
def replacement : Char := '\uFFFD'

/-- A lead octet is a character by itself, begins a longer sequence, or is an error. -/
def lead (b : UInt8) : Char ⊕ Pending :=
  let n := b.toNat
  if n < 0x80 then .inl (Char.ofNat n)
  else if 0xC2 ≤ n && n ≤ 0xDF then .inr ⟨1, n - 0xC0, 0x80, 0xBF⟩
  else if n = 0xE0 then .inr ⟨2, 0, 0xA0, 0xBF⟩
  else if n = 0xED then .inr ⟨2, 0xD, 0x80, 0x9F⟩
  else if 0xE1 ≤ n && n ≤ 0xEF then .inr ⟨2, n - 0xE0, 0x80, 0xBF⟩
  else if n = 0xF0 then .inr ⟨3, 0, 0x90, 0xBF⟩
  else if n = 0xF4 then .inr ⟨3, 4, 0x80, 0x8F⟩
  else if 0xF1 ≤ n && n ≤ 0xF3 then .inr ⟨3, n - 0xF0, 0x80, 0xBF⟩
  else .inl replacement

/-- Reads octets from the state that `pending` describes. -/
def decodeFrom : Option Pending → Bytes → List Char
  | none, [] => []
  | some _, [] => [replacement]
  | none, b :: rest =>
    match lead b with
    | .inl c => c :: decodeFrom none rest
    | .inr p => decodeFrom (some p) rest
  | some p, b :: rest =>
    let n := b.toNat
    if p.low ≤ n && n ≤ p.high then
      let value := p.value * 64 + (n - 0x80)
      if p.needed ≤ 1 then Char.ofNat value :: decodeFrom none rest
      else decodeFrom (some ⟨p.needed - 1, value, 0x80, 0xBF⟩) rest
    else
      match lead b with
      | .inl c => replacement :: c :: decodeFrom none rest
      | .inr q => replacement :: decodeFrom (some q) rest

/-- The text of the octets, with U+FFFD for what is not UTF-8. A byte order mark is kept. -/
def decode (bytes : Bytes) : String :=
  String.ofList (decodeFrom none bytes)

/-- The text without a byte order mark at its beginning. -/
def dropMark : List Char → List Char
  | [] => []
  | c :: rest => if c = '\uFEFF' then rest else c :: rest

/-- The text of the octets of a message. Its octets and its text may each begin with a byte order
mark, so up to two of them are dropped. -/
def decodeUnmarked (bytes : Bytes) : String :=
  String.ofList (dropMark (dropMark (decodeFrom none bytes)))

end Text.Utf8

end NodeProbe
