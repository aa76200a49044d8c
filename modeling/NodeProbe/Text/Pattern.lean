import NodeProbe.Text.Blank

/-!
# Patterns with priorities

A small language of text patterns: classes of characters, sequence, ordered choice, greedy and lazy
repetition, captures, references to a capture and the ends of a line. Of all ways to match, the one
that comes first in the order of priorities wins: the left side of a choice before the right one,
another round of a greedy repetition before leaving it, leaving a lazy one before another round. A
round that consumes nothing is no round.

`Pattern.run` is the matcher in continuation-passing form, `find` the leftmost match and `findAll`
the matches from left to right, each beginning where the one before it ended.
-/

namespace NodeProbe.Text

/-- What a text may look like. -/
inductive Pattern where
  /-- Matches without consuming anything. -/
  | empty
  /-- One character of a class. -/
  | one (allowed : Char → Bool)
  | seq (first second : Pattern)
  /-- The first of the two that leads to a match. -/
  | either (preferred fallback : Pattern)
  /-- Any number of rounds, as many as possible if greedy, as few as possible if not. -/
  | many (greedy : Bool) (round : Pattern)
  /-- Remembers under a number what its body consumes. -/
  | capture (number : Nat) (body : Pattern)
  /-- Consumes what was captured under the number, nothing if nothing was. -/
  | again (number : Nat)
  /-- The beginning of a line. -/
  | lineStart
  /-- The end of a line. -/
  | lineEnd

namespace Pattern

/-- A part of a text: what follows its beginning, and how long it is. -/
structure Span where
  following : List Char
  length : Nat

/-- The characters of a part. -/
def Span.chars (s : Span) : List Char :=
  s.following.take s.length

/-- A place in a text: the character before it, what follows, how far it is from the beginning, and
what has been captured on the way. -/
structure Place where
  before : Option Char
  rest : List Char
  offset : Nat
  spans : Nat → Option Span

/-- The beginning of a text. -/
def Place.start (cs : List Char) : Place :=
  ⟨none, cs, 0, fun _ => none⟩

/-- One character further. -/
def Place.next? (p : Place) : Option Place :=
  match p.rest with
  | c :: rest => some { p with before := some c, rest, offset := p.offset + 1 }
  | [] => none

/-- The place behind `text`, if `text` follows. -/
def Place.skip? (p : Place) : List Char → Option Place
  | [] => some p
  | c :: more =>
    match p.next? with
    | some q => if q.before = some c then q.skip? more else none
    | none => none

/-- Remembers under `number` what stands between `first` and the place. -/
def Place.remember (p : Place) (number : Nat) (first : Place) : Place :=
  let span : Span := ⟨first.rest, p.offset - first.offset⟩
  { p with spans := fun n => if n = number then some span else p.spans n }

/-- What was captured under `number`, nothing if nothing was. -/
def Place.captured (p : Place) (number : Nat) : List Char :=
  ((p.spans number).map Span.chars).getD []

/-- A matcher tries its ways in order of priority, each followed by what has to come after it. -/
abbrev Matcher := Place → (Place → Option Place) → Option Place

/-- Rounds of `round`, at most one for each character of a text. -/
def repeated (greedy : Bool) (round : Matcher) : List Char → Matcher
  | [] => fun p finish => finish p
  | _ :: more => fun p finish =>
    let another := fun (_ : Unit) => round p fun q =>
      if p.offset < q.offset then repeated greedy round more q finish else none
    if greedy then
      match another () with
      | some q => some q
      | none => finish p
    else
      match finish p with
      | some q => some q
      | none => another ()

/-- The matcher of a pattern. -/
def run : Pattern → Matcher
  | empty => fun p finish => finish p
  | one allowed => fun p finish =>
    match p.rest, p.next? with
    | c :: _, some q => if allowed c then finish q else none
    | _, _ => none
  | seq first second => fun p finish => first.run p fun q => second.run q finish
  | either preferred fallback => fun p finish =>
    match preferred.run p finish with
    | some q => some q
    | none => fallback.run p finish
  | many greedy round => fun p finish => repeated greedy round.run p.rest p finish
  | capture number body => fun p finish =>
    body.run p fun q => finish (q.remember number p)
  | again number => fun p finish =>
    match p.skip? (p.captured number) with
    | some q => finish q
    | none => none
  | lineStart => fun p finish => if p.before.all isLineBreak then finish p else none
  | lineEnd => fun p finish => if p.rest.head?.all isLineBreak then finish p else none

/-! ## Patterns built from others -/

/-- The pattern or nothing, the pattern if possible. -/
def optional (body : Pattern) : Pattern :=
  either body empty

/-- One round or more. -/
def oneOrMore (greedy : Bool) (round : Pattern) : Pattern :=
  seq round (many greedy round)

/-- The character and no other. -/
def char (c : Char) : Pattern :=
  one (· = c)

/-- The characters of a text one after the other. -/
def text (s : String) : Pattern :=
  s.toList.foldr (fun c rest => seq (char c) rest) empty

/-- The patterns one after the other. -/
def all (patterns : List Pattern) : Pattern :=
  patterns.foldr seq empty

/-- The first of the patterns that leads to a match. -/
def anyOf : List Pattern → Pattern
  | [] => one fun _ => false
  | [p] => p
  | p :: rest => either p (anyOf rest)

/-! ## Searching -/

/-- A match: where it begins, and the place behind it with what was captured. -/
structure Match where
  start : Nat
  stop : Place

/-- The match that begins at the place. -/
def matchAt (pattern : Pattern) (p : Place) : Option Match :=
  (pattern.run p some).map fun q => ⟨p.offset, q⟩

/-- The leftmost match in `rest`, read from `p`. -/
def findFrom (pattern : Pattern) (p : Place) : List Char → Option Match
  | [] => pattern.matchAt { p with rest := [] }
  | c :: rest =>
    match pattern.matchAt { p with rest := c :: rest } with
    | some m => some m
    | none => pattern.findFrom { p with before := some c, offset := p.offset + 1 } rest

/-- The leftmost match from the place on. -/
def find (pattern : Pattern) (p : Place) : Option Match :=
  pattern.findFrom p p.rest

/-- At most `limit` matches from the place on; an empty match moves the search one character on. -/
def findUpTo (pattern : Pattern) : Nat → Place → List Match
  | 0, _ => []
  | limit + 1, p =>
    match pattern.find p with
    | none => []
    | some m =>
      let behind : Place := { m.stop with spans := fun _ => none }
      if m.start < m.stop.offset then m :: pattern.findUpTo limit behind
      else
        match behind.next? with
        | some q => m :: pattern.findUpTo limit q
        | none => [m]

/-- All matches from left to right. -/
def findAll (pattern : Pattern) (cs : List Char) : List Match :=
  pattern.findUpTo (cs.length + 1) (Place.start cs)

/-- What follows the offset `done`, with what each match captured under `number` in its place. -/
def putCaptures (number : Nat) (done : Nat) (rest : List Char) : List Match → List Char
  | [] => rest
  | m :: more =>
    rest.take (m.start - done) ++ m.stop.captured number ++
      putCaptures number m.stop.offset m.stop.rest more

/-- Replaces each match by what it captured under `number`. -/
def replaceByCapture (pattern : Pattern) (number : Nat) (cs : List Char) : List Char :=
  putCaptures number 0 cs (pattern.findAll cs)

end Pattern

end NodeProbe.Text
