import NodeProbe.Text.CompositionTable

/-!
# Composed characters

A letter with its marks can be written in several ways: as one character, or as the letter and the
marks behind it, and marks of different classes in any order. `composed` gives the one way in which
Unicode wants it written: everything is taken apart, the marks behind each letter are put in the
order of their classes, and then each letter is composed with the marks that it can be composed
with.
-/

namespace NodeProbe.Text

/-- The class of a mark, and zero for all else. -/
def markClass (c : Char) : Nat :=
  match markClasses.find? fun r => r.1 ≤ c.toNat && c.toNat ≤ r.2.1 with
  | some r => r.2.2
  | none => 0

/-! ## Syllables of Hangul

A syllable is composed of one of 19 leading consonants, one of 21 vowels, and perhaps one of 27
trailing consonants.
-/

/-- The number of a character in a block of characters that begins at `first`. -/
def numberIn? (first count : Nat) (c : Char) : Option Nat :=
  if first ≤ c.toNat && c.toNat < first + count then some (c.toNat - first) else none

/-- The two characters that a syllable is composed of. -/
def splitSyllable? (c : Char) : Option (Char × Char) :=
  (numberIn? 0xAC00 11172 c).map fun n =>
    if n % 28 = 0 then (Char.ofNat (0x1100 + n / 588), Char.ofNat (0x1161 + n % 588 / 28))
    else (Char.ofNat (0xAC00 + n / 28 * 28), Char.ofNat (0x11A7 + n % 28))

/-- The syllable that is composed of two characters. -/
def joinSyllable? (a b : Char) : Option Char :=
  match numberIn? 0x1100 19 a, numberIn? 0x1161 21 b with
  | some leading, some vowel => some (Char.ofNat (0xAC00 + 588 * leading + 28 * vowel))
  | _, _ =>
    match numberIn? 0xAC00 11172 a, numberIn? 0x11A8 27 b with
    | some n, some trailing =>
      if n % 28 = 0 then some (Char.ofNat (0xAC01 + n + trailing)) else none
    | _, _ => none

/-! ## Pairs -/

/-- The two characters that a character is composed of. -/
def split? (c : Char) : Option (Char × Char) :=
  match splitSyllable? c with
  | some pair => some pair
  | none =>
    (compositions.lookup c.toNat).map fun pair => (Char.ofNat pair.1, Char.ofNat pair.2)

/-- The character that two characters are composed to. -/
def join? (a b : Char) : Option Char :=
  match joinSyllable? a b with
  | some c => some c
  | none => (compositions.find? (·.2 = (a.toNat, b.toNat))).map fun pair => Char.ofNat pair.1

/-! ## Texts -/

/-- Takes a character apart, and what it is composed of, at most `depth` times. -/
def splitFully : Nat → Char → List Char
  | 0, c => [c]
  | depth + 1, c =>
    match split? c with
    | some (a, b) => splitFully depth a ++ splitFully depth b
    | none => [c]

/-- No character has to be taken apart more often. -/
def greatestDepth : Nat := 4

/-- Puts a character in front of a text whose marks are in order: a mark goes behind those of lower
classes. -/
def insertMark (c : Char) : List Char → List Char
  | [] => [c]
  | d :: rest =>
    if 0 < markClass d && markClass d < markClass c then d :: insertMark c rest else c :: d :: rest

/-- The marks behind each letter in the order of their classes. -/
def orderMarks : List Char → List Char
  | [] => []
  | c :: rest => insertMark c (orderMarks rest)

/-- Composes what follows a letter with it. The marks that stand between stay, and a mark is
composed with the letter only if they are of lower classes. -/
def joinFrom (letter : Char) (between : List Char) : List Char → List Char
  | [] => letter :: between
  | c :: rest =>
    match if between.all (markClass · < markClass c) then join? letter c else none with
    | some whole => joinFrom whole between rest
    | none =>
      if markClass c = 0 then letter :: between ++ joinFrom c [] rest
      else joinFrom letter (between ++ [c]) rest

/-- The text with its characters composed. -/
def composed (cs : List Char) : List Char :=
  match orderMarks (cs.flatMap (splitFully greatestDepth)) with
  | [] => []
  | c :: rest => joinFrom c [] rest

end NodeProbe.Text
