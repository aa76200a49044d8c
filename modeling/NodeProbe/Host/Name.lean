import NodeProbe.Host.NameTable
import NodeProbe.Host.Numeric
import NodeProbe.Host.Punycode
import NodeProbe.Text.Composed
import NodeProbe.Text.Percent

/-!
# Names of hosts

A name is made of labels between points. Before it is looked at, every character is replaced by the
one that names are written with, such as a capital by a small letter, and composed with its marks.
Labels of ASCII may be anything that can stand in an address; all others must follow rules about
their first character, about invisible joiners, and about letters that are written from right to
left, and so must those which labels that begin with `xn--` stand for.
-/

namespace NodeProbe.Host

/-- A character of ASCII. -/
def isAscii (c : Char) : Bool :=
  c.toNat < 128

/-! ## The written form -/

/-- What becomes of a character; nothing if it is refused. A character that is replaced by others
of its own kind may as well stay. -/
def prepareChar? (c : Char) : Option (List Char) :=
  if isAscii c then some [c.toLower]
  else if Text.inRanges refusedRanges c then none
  else if Text.inRanges droppedRanges c then some []
  else some (Text.mapChar spelledRuns spelledTexts c)

/-- The written form of a name, unless a character of it is refused. -/
def prepare? (name : List Char) : Option (List Char) :=
  (name.mapM prepareChar?).map fun cs => Text.composed cs.flatten

/-- Written names hold the character. -/
def isKept (c : Char) : Bool :=
  prepareChar? c = some [c] &&
    !renamedRuns.any fun (first, last, step) => Text.inRun first last step c.toNat

/-! ## Labels -/

/-- Can join the letter behind it. -/
def joinsForward (c : Char) : Bool :=
  Text.inRanges joiningForwardRanges c

/-- Can join the letter before it. -/
def joinsBackward (c : Char) : Bool :=
  Text.inRanges joiningBackwardRanges c

/-- The class of viramas, which are marks that take the vowel from a letter. -/
def viramaClass : Nat := 9

/-- An invisible joiner, or the opposite of one. -/
def isJoiner (c : Char) : Bool :=
  c = '\u200C' || c = '\u200D'

/-- The first joiner of a label may stand where it does, and nothing if there is none: behind a mark
that takes the vowel from a letter, or if it keeps letters apart that could join. -/
def allowsJoiner? (label : List Char) : Option Bool :=
  let before := label.takeWhile (!isJoiner ·)
  match label.dropWhile (!isJoiner ·) with
  | [] => none
  | joiner :: after =>
    some
      (before.getLast?.any (Text.markClass · = viramaClass) ||
        (joiner = '\u200C' && before.any joinsForward && after.any joinsBackward))

/-- The direction in which a character is written. -/
def direction (c : Char) : Direction :=
  match directionRanges.find? fun r => r.1 ≤ c.toNat && c.toNat ≤ r.2.1 with
  | some r => r.2.2
  | none => .left

/-- A label that is written from left to right, less the marks at its end. -/
def runsRight (directions : List Direction) : Bool :=
  directions.all ([.left, .european, .neutral, .mark].contains ·) &&
    directions.getLast?.any ([.left, .european].contains ·)

/-- A label that is written from right to left, less the marks at its end. -/
def runsLeft (directions : List Direction) : Bool :=
  directions.all ([.right, .arabic, .european, .neutral, .mark].contains ·) &&
    !(directions.contains .arabic && directions.contains .european) &&
    directions.getLast?.any ([.right, .arabic, .european].contains ·)

/-- The characters of a label can be written in one direction. A label is written from right to left
if it has a letter or a digit of that kind and does not begin with a letter of the other one. -/
def hasDirection (label : List Char) : Bool :=
  let directions := label.map direction
  let body := (directions.reverse.dropWhile (· = .mark)).reverse
  !body.isEmpty &&
    (if directions.any ([.right, .arabic].contains ·) then
      if directions.head? = some .left then runsRight body else runsLeft body
    else true)

/-- The mark in front of labels that stand for others. -/
def codedMark : List Char :=
  ['x', 'n', '-', '-']

/-- A label with characters behind ASCII follows the rules. Where a label has joiners, the first one
decides, and the direction of the characters does not count. -/
def isLabel (label : List Char) : Bool :=
  !label.isEmpty && !codedMark.isPrefixOf label &&
    !label.head?.any (Text.inRanges markRanges ·) &&
    (allowsJoiner? label).getD (hasDirection label)

/-- A label that stands for another one, less the mark in front of it. -/
def isCoded (code : List Char) : Bool :=
  !codedMark.isPrefixOf code &&
    match Punycode.decode? code with
    | some label =>
      !label.all isAscii && label.all isKept && Text.composed label = label && isLabel label
    | none => false

/-- A label of a written name. -/
def acceptsLabel (label : List Char) : Bool :=
  if label.all isAscii then
    if codedMark.isPrefixOf label then isCoded (label.drop codedMark.length) else true
  else isLabel label

/-! ## Names -/

/-- Stands in no host. -/
def isForbidden (c : Char) : Bool :=
  ['\x00', '\t', '\n', '\r', ' ', '#', '/', ':', '<', '>', '?', '@', '[', ']', '^', '|'].contains c
    || c = Char.ofNat 0x5C

/-- Stands in no name. -/
def isForbiddenInName (c : Char) : Bool :=
  isForbidden c || c.toNat < 0x20 || c = '%' || c.toNat = 0x7F

/-- The name of a host, in which an octet may be written with a percent sign. If it ends in a
number, it must be one of 32 bits. -/
def isName (cs : List Char) : Bool :=
  match prepare? (Text.Percent.decode cs) with
  | none => false
  | some name =>
    let parts := pointedParts name
    !name.isEmpty && !name.any isForbiddenInName && (name.splitOn '.').all acceptsLabel &&
      (!endsInNumber parts || isPointed parts)

end NodeProbe.Host
