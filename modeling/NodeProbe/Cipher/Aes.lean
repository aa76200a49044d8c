import NodeProbe.Text.Utf8

/-!
# The block cipher

The Advanced Encryption Standard with a key of 32 octets. A block of 16 octets is four columns of
four octets, one after the other. Fourteen rounds substitute each octet, turn the rows, mix the
columns and add a round key; the last round does not mix. Octets are elements of a field: their sum
is exclusive or, and their product that of polynomials modulo x⁸ + x⁴ + x³ + x + 1. Only encryption
is needed here.
-/

namespace NodeProbe.Cipher.Aes

/-- Twice an octet. -/
def double (a : UInt8) : UInt8 :=
  (a <<< 1) ^^^ (if a < 0x80 then 0 else 0x1B)

/-- The product of two octets: the sum of the doubles of `a` that the bits of `b` ask for. -/
def product (a b : UInt8) : UInt8 :=
  let step (state : UInt8 × UInt8) (bit : Nat) : UInt8 × UInt8 :=
    (if b.toNat.testBit bit then state.1 ^^^ state.2 else state.1, double state.2)
  ((List.range 8).foldl step (0, a)).1

/-- The inverse of an octet, which is its power 254 = 2 + 4 + … + 128; that of zero is zero. -/
def inverse (a : UInt8) : UInt8 :=
  let step (state : UInt8 × UInt8) (_ : Nat) : UInt8 × UInt8 :=
    let square := product state.2 state.2
    (product state.1 square, square)
  ((List.range 7).foldl step (1, a)).1

/-- An octet with its bits turned to the left. -/
def turned (a bits : UInt8) : UInt8 :=
  (a <<< bits) ||| (a >>> (8 - bits))

/-- The octet that stands for another one. -/
def substitute (a : UInt8) : UInt8 :=
  let b := inverse a
  b ^^^ turned b 1 ^^^ turned b 2 ^^^ turned b 3 ^^^ turned b 4 ^^^ 0x63

/-- The sum of two sequences of octets. -/
def sum (a b : Bytes) : Bytes :=
  a.zipWith (· ^^^ ·) b

/-- Cuts octets into groups of `size`. -/
def groups (size : Nat) (bytes : Bytes) : List Bytes :=
  (List.range ((bytes.length + size - 1) / size)).map fun i => (bytes.drop (size * i)).take size

/-! ## Round keys -/

/-- Adds to each word the sum of it and the words before it, beginning with `seed`. -/
def chain (seed : Bytes) : List Bytes → List Bytes
  | [] => []
  | word :: rest =>
    let next := sum word seed
    next :: chain next rest

/-- The last of some words. -/
def lastWord (words : List Bytes) : Bytes :=
  words.getLast?.getD []

/-- The eight words that follow eight words of the schedule; `mark` sets the rounds apart. -/
def following (mark : UInt8) (words : List Bytes) : List Bytes :=
  let last := lastWord words
  let seed := sum ((last.drop 1 ++ last.take 1).map substitute) [mark, 0, 0, 0]
  let first := chain seed (words.take 4)
  first ++ chain ((lastWord first).map substitute) (words.drop 4)

/-- Eight words and so many times the eight words that follow. -/
def schedule (mark : UInt8) (words : List Bytes) : Nat → List Bytes
  | 0 => words
  | times + 1 => words ++ schedule (double mark) (following mark words) times

/-- The fifteen round keys of a key. -/
def roundKeys (key : Bytes) : List Bytes :=
  (groups 16 (schedule 1 (groups 4 key) 7).flatten).take 15

/-! ## Rounds -/

/-- Turns each row by its number. -/
def turnRows (block : Bytes) : Bytes :=
  (List.range 16).map fun i => block.getD ((i + 4 * (i % 4)) % 16) 0

/-- Mixes a column. -/
def mixColumn : Bytes → Bytes
  | [a, b, c, d] =>
    [product 2 a ^^^ product 3 b ^^^ c ^^^ d, a ^^^ product 2 b ^^^ product 3 c ^^^ d,
      a ^^^ b ^^^ product 2 c ^^^ product 3 d, product 3 a ^^^ b ^^^ c ^^^ product 2 d]
  | column => column

/-- Mixes each column of a block. -/
def mixColumns (block : Bytes) : Bytes :=
  ((groups 4 block).map mixColumn).flatten

/-- The rounds behind the first sum. -/
def rounds (block : Bytes) : List Bytes → Bytes
  | [] => block
  | [key] => sum (turnRows (block.map substitute)) key
  | key :: rest => rounds (sum (mixColumns (turnRows (block.map substitute))) key) rest

/-- Encrypts a block of 16 octets. -/
def encrypt (key block : Bytes) : Bytes :=
  match roundKeys key with
  | [] => block
  | first :: rest => rounds (sum block first) rest

end NodeProbe.Cipher.Aes
