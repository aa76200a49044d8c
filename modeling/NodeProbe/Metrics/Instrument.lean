import NodeProbe.Decimal.Layout
import NodeProbe.Text.Basic

/-!
# Instruments

A counter adds up, a histogram counts values by buckets. Each instrument keeps one series for every
set of labels. What is recorded is gathered first, and a collection adds it to what has been
reported; so sums are formed in two steps, and earlier collections do not change what later ones
report. The series that are pending at a time are limited in number: when there are enough of them,
values for further labels go to one series for the rest.

The limit and the labels of that series, like the standard boundaries of a histogram and the form of
the exposition, are those of `@opentelemetry/sdk-metrics` in the version 2 and of its exporter for
Prometheus in the version 0.200. Other versions may have others.
-/

namespace NodeProbe.Metrics

/-- Names and values that tell the series of an instrument apart. -/
abbrev Labels := List (Text × Text)

/-- The same labels, in whatever order. -/
def Labels.same (a b : Labels) : Bool :=
  a.length = b.length && a.all fun (key, value) => b.lookup key = some value

/-- How many series may be pending before further ones are gathered in one. -/
def seriesLimit : Nat := 1999

/-- The labels of the series for the rest. -/
def Labels.overflow : Labels := [("otel.metric.overflow", "true")]

/-! ## Distributions -/

/-- The smaller and the greater of the values so far. -/
structure Extent where
  least : Float
  greatest : Float

/-- The extent of two extents together. -/
def Extent.join (a b : Extent) : Extent where
  least := if b.least < a.least then b.least else a.least
  greatest := if a.greatest < b.greatest then b.greatest else a.greatest

/-- Values counted by buckets: one bucket for each boundary and one for what lies above. -/
structure Distribution where
  count : Nat
  sum : Float
  buckets : List Nat
  extent : Option Extent

namespace Distribution

/-- No value yet. -/
def empty (boundaries : List Float) : Distribution :=
  ⟨0, 0, List.replicate (boundaries.length + 1) 0, none⟩

/-- The bucket of a value: the first one whose boundary is not below it. -/
def bucketOf (boundaries : List Float) (x : Float) : Nat :=
  boundaries.findIdx (x ≤ ·)

/-- The extent of two distributions together. -/
def joinExtents : Option Extent → Option Extent → Option Extent
  | some a, some b => some (a.join b)
  | some a, none => some a
  | none, b => b

/-- Counts a value. What is no number is not counted. -/
def record (boundaries : List Float) (d : Distribution) (x : Float) : Distribution :=
  if x == x then
    { count := d.count + 1
      sum := d.sum + x
      buckets := d.buckets.modify (bucketOf boundaries x) (· + 1)
      extent := joinExtents d.extent (some ⟨x, x⟩) }
  else d

/-- Two distributions over the same boundaries together. -/
def join (a b : Distribution) : Distribution where
  count := a.count + b.count
  sum := a.sum + b.sum
  buckets := a.buckets.zipWith (· + ·) b.buckets
  extent := joinExtents a.extent b.extent

end Distribution

/-! ## Readings -/

/-- The kind of an instrument. -/
inductive Kind where
  | counter
  | histogram (boundaries : List Float)

/-- What a series reads. -/
inductive Reading where
  | total (x : Float)
  | distribution (d : Distribution)

namespace Kind

/-- The reading before anything is recorded. -/
def zero : Kind → Reading
  | counter => .total 0
  | histogram boundaries => .distribution (.empty boundaries)

/-- The reading with one more value. -/
def record (kind : Kind) (r : Reading) (x : Float) : Reading :=
  match kind, r with
  | counter, .total sum => .total (sum + x)
  | histogram boundaries, .distribution d => .distribution (d.record boundaries x)
  | _, r => r

/-- The boundaries of the buckets. -/
def boundaries : Kind → List Float
  | counter => []
  | histogram boundaries => boundaries

/-- Both are counters, or both are histograms. -/
def sameType : Kind → Kind → Bool
  | counter, counter | histogram _, histogram _ => true
  | _, _ => false

end Kind

/-- Two readings of one instrument together. -/
def Reading.join : Reading → Reading → Reading
  | .total a, .total b => .total (a + b)
  | .distribution a, .distribution b => .distribution (a.join b)
  | a, _ => a

/-! ## Series -/

/-- A series: what has been reported, and what has been recorded since. -/
structure Series where
  labels : Labels
  reported : Option Reading
  pending : Option Reading

namespace Series

/-- Records a value. -/
def record (kind : Kind) (s : Series) (x : Float) : Series :=
  { s with pending := some (kind.record (s.pending.getD kind.zero) x) }

/-- Adds what is pending to what is reported. -/
def collect (s : Series) : Series :=
  match s.reported, s.pending with
  | some a, some b => { s with reported := some (a.join b), pending := none }
  | none, some b => { s with reported := some b, pending := none }
  | _, none => s

end Series

/-- An instrument. -/
structure Instrument where
  name : Text
  description : Text
  unit : Text
  kind : Kind
  series : List Series

namespace Instrument

/-- The labels under which a value is recorded: its own, if their series is pending already or there
is room for one more. -/
def labelsFor (labels : Labels) (series : List Series) : Labels :=
  let pending := series.filter (·.pending.isSome)
  if pending.length < seriesLimit || pending.any (·.labels.same labels) then labels
  else .overflow

/-- Records a value in the series of its labels, which begins with it if need be. -/
def recordIn (kind : Kind) (labels : Labels) (x : Float) : List Series → List Series
  | [] => [Series.record kind ⟨labels, none, none⟩ x]
  | s :: rest =>
    if s.labels.same labels then s.record kind x :: rest
    else s :: recordIn kind labels x rest

/-- Records a value. One below zero is ignored. -/
def record (i : Instrument) (labels : Labels) (x : Float) : Instrument :=
  if x < 0 then i
  else { i with series := recordIn i.kind (labelsFor labels i.series) x i.series }

/-- Adds what is pending to what is reported. -/
def collect (i : Instrument) : Instrument :=
  { i with series := i.series.map (·.collect) }

/-- The reading of a series by the value of one of its labels, or by its lack of that label. -/
def reading? (i : Instrument) (key : Text) (value : Option Text) : Option Reading :=
  (i.series.find? (·.labels.lookup key = value)).bind (·.reported)

end Instrument

end NodeProbe.Metrics
