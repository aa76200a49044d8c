import NodeProbe.Cipher.Aes

/-!
# Sealed messages

A sealed message is encrypted and carries a tag that tells whether it was made with the key. The
block cipher encrypts a counter that begins behind a nonce of 12 octets, and the message is added to
what comes out. The tag is a polynomial in the blocks of the sealed message and its length, taken at
a point that the key gives, in the field of 2¹²⁸ elements; the first counter hides it.
`unseal?` reads a message only if its tag is right.
-/

namespace NodeProbe.Cipher

/-- An element of the field, with the coefficient of the lowest power in the highest bit. -/
abbrev Element := BitVec 128

/-- The element of up to 16 octets, filled up with zeros. -/
def elementOf (block : Bytes) : Element :=
  let filled := block ++ List.replicate (16 - block.length) 0
  BitVec.ofNat 128 (filled.foldl (fun n b => 256 * n + b.toNat) 0)

/-- What is added when a power of the field runs over. -/
def overrun : Element :=
  BitVec.ofNat 128 0xE1 <<< 120

/-- The product of two elements. -/
def Element.times (a b : Element) : Element :=
  let step (state : Element × Element) (bit : Nat) : Element × Element :=
    (if a.getMsbD bit then state.1 ^^^ state.2 else state.1,
      if state.2.getLsbD 0 then (state.2 >>> 1) ^^^ overrun else state.2 >>> 1)
  ((List.range 128).foldl step (0, b)).1

/-- A number as so many octets, the highest first. -/
def bigEndian (count n : Nat) : Bytes :=
  (List.range count).map fun i => UInt8.ofNat (n >>> (8 * (count - 1 - i)))

/-- The polynomial in the blocks of a sealed message and its length. -/
def digest (point : Element) (message : Bytes) : Element :=
  let blocks := Aes.groups 16 message ++ [bigEndian 16 (8 * message.length)]
  blocks.foldl (fun total block => (total ^^^ elementOf block).times point) 0

/-- The block that a counter is encrypted to. -/
def counterBlock (key nonce : Bytes) (n : Nat) : Bytes :=
  Aes.encrypt key (nonce ++ bigEndian 4 n)

/-- The tag of a sealed message. -/
def tagOf (key nonce message : Bytes) : Bytes :=
  let point := elementOf (Aes.encrypt key (List.replicate 16 0))
  Aes.sum (bigEndian 16 (digest point message).toNat) (counterBlock key nonce 1)

/-- A message with what the counters from 2 on give added to it. -/
def crypt (key nonce message : Bytes) : Bytes :=
  ((Aes.groups 16 message).zipIdx.map fun (block, i) =>
    Aes.sum block (counterBlock key nonce (i + 2))).flatten

/-- Reads a sealed message, if its tag is right. -/
def unseal? (key nonce message tag : Bytes) : Option Bytes :=
  if tagOf key nonce message = tag then some (crypt key nonce message) else none

end NodeProbe.Cipher
