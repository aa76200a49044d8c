import NodeProbe.Text.Digit
import NodeProbe.Text.Utf8

/-!
# Percent signs in addresses

In a part of an address, a percent sign and two hexadecimal digits stand for an octet. Everything
can be written that way, and what would end the part must be. A percent sign without two digits
behind it stands for itself.
-/

namespace NodeProbe.Text.Percent

/-- Writes a text. Only the plain characters stand for themselves. -/
def encode (isPlain : Char → Bool) (cs : List Char) : List Char :=
  cs.flatMap fun c =>
    if isPlain c then [c]
    else
      (Utf8.encode (String.ofList [c])).flatMap fun b =>
        ['%', upperDigit (b.toNat / 16), upperDigit (b.toNat % 16)]

/-- The octets that are meant by some octets. -/
def octets : Bytes → Bytes
  | 0x25 :: a :: b :: rest =>
    match digitValue? (Char.ofNat a.toNat), digitValue? (Char.ofNat b.toNat) with
    | some high, some low => UInt8.ofNat (16 * high + low) :: octets rest
    | _, _ => 0x25 :: octets (a :: b :: rest)
  | b :: rest => b :: octets rest
  | [] => []

/-- The text that is meant. -/
def decode (cs : List Char) : List Char :=
  Utf8.decodeFrom none (octets (Utf8.encode (String.ofList cs)))

end NodeProbe.Text.Percent
