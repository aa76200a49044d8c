/-!
# Runs of code points

Tables say which characters have a property, or which others stand for them, in ranges and in runs:
a run is every second or every single code point of a range, and a shifted run moves all of them by
the same distance. Characters that become more than one stand in lists of their own.
-/

namespace NodeProbe.Text

/-- One of `first`, `first + step`, … up to `last`. -/
def inRun (first last step n : Nat) : Bool :=
  first ≤ n && n ≤ last && (n - first) % step = 0

/-- In one of the ranges. -/
def inRanges (ranges : List (Nat × Nat)) (c : Char) : Bool :=
  ranges.any fun r => r.1 ≤ c.toNat && c.toNat ≤ r.2

/-- Code points `first`, `first + step`, … up to `last`, all moved by `shift`. -/
structure CodeRun where
  first : Nat
  last : Nat
  step : Nat
  shift : Int
  deriving DecidableEq, Repr

/-- The run lists the character. -/
def CodeRun.covers (r : CodeRun) (c : Char) : Bool :=
  inRun r.first r.last r.step c.toNat

/-- What stands for a character: an expansion, what a run moves it to, or itself. -/
def mapChar (runs : List CodeRun) (expansions : List (Nat × List Nat)) (c : Char) : List Char :=
  match expansions.lookup c.toNat with
  | some ns => ns.map Char.ofNat
  | none =>
    match runs.find? (·.covers c) with
    | some r => [Char.ofNat (c.toNat + r.shift).toNat]
    | none => [c]

end NodeProbe.Text
