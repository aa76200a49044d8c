import NodeProbe.Text.Casing

/-!
# Suggestions

A word that is not known is answered with the known words that are most like it. Two words are as
far apart as the number of letters that have to be inserted, deleted, exchanged, or swapped with the
next one, no letter being touched twice. A known word is suggested if it is at most three such steps
away and more than two fifths of the longer word stay; of those that are, only the nearest are.
-/

namespace NodeProbe.CommandLine

/-- The 16-bit units of a word. Which two units a character beyond the first plane takes does not
matter here, as no known word has one. -/
def units (word : String) : List Nat :=
  word.toList.flatMap fun c => if c.toNat < 0x10000 then [c.toNat] else [c.toNat, c.toNat]

/-- The number of steps between two words. -/
def distance : List Nat → List Nat → Nat
  | [], b => b.length
  | a, [] => a.length
  | x :: a, y :: b =>
    let plain :=
      min (min (distance a (y :: b)) (distance (x :: a) b) + 1)
        (distance a b + if x = y then 0 else 1)
    match a, b with
    | x' :: a', y' :: b' =>
      if x = y' ∧ x' = y then min plain (distance a' b' + 1) else plain
    | _, _ => plain
termination_by a b => a.length + b.length

/-- The greatest number of steps to a word that is suggested. -/
def maxDistance : Nat := 3

/-- How far a known word is away, if it may be suggested. Words whose lengths differ too much are
not compared. -/
def likeness? (word known : List Nat) : Option Nat :=
  let longer := max word.length known.length
  if known.length ≤ 1 || maxDistance < longer - min word.length known.length then none
  else
    let steps := distance word known
    if steps ≤ maxDistance && 2 * longer < 5 * (longer - steps) then some steps else none

/-- The nearest of the known words, in alphabetical order. -/
def nearest (word : String) (known : List String) : List String :=
  let near := known.eraseDups.filterMap fun k =>
    (likeness? (units word) (units k)).map fun steps => (k, steps)
  let best := (near.map (·.2)).foldl min maxDistance
  ((near.filter (·.2 = best)).map (·.1)).mergeSort (· ≤ ·)

/-- A text without its first two letters. -/
def dropHyphens (s : String) : String :=
  String.ofList (s.toList.drop 2)

/-- The known words that are suggested. For a word that begins with two hyphens, two letters are
taken off all words before they are compared. -/
def similar (word : String) (known : List String) : List String :=
  if word.startsWith "--" then
    (nearest (dropHyphens word) (known.map dropHyphens)).map ("--" ++ ·)
  else nearest word known

/-- The suggestion behind a message, on a line of its own. -/
def suggestion : List String → String
  | [] => ""
  | [word] => "\n(Did you mean " ++ word ++ "?)"
  | words => "\n(Did you mean one of " ++ ", ".intercalate words ++ "?)"

end NodeProbe.CommandLine
