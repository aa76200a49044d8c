import NodeProbe.Metrics.Instrument

/-!
# The registry

The registry holds the instruments in the order of their creation. An instrument that is created a
second time under its name, with the same unit and of the same type, is the one that is there; the
longer description stays. Instruments of one name are reported together. The probe has four
instruments, with one series for each call.
-/

namespace NodeProbe.Metrics

/-- What the names of instruments begin with. -/
def standardNamespace : Text := "rpcextractor"

/-- The boundaries of the buckets of a histogram that has none of its own. -/
def standardBoundaries : List Float :=
  [0, 5, 10, 25, 50, 75, 100, 250, 500, 750, 1000, 2500, 5000, 7500, 10000]

/-- Boundaries in ascending order, without the infinite ones. -/
def tidyBoundaries (boundaries : List Float) : List Float :=
  (boundaries.filter fun x => (Decimal.rational? x).isSome).mergeSort (· ≤ ·)

/-- A histogram with buckets of its own, or with the standard ones. -/
def histogramOf (buckets : Option (List Float)) : Kind :=
  .histogram (tidyBoundaries (buckets.getD standardBoundaries))

/-- The instruments of one program. -/
structure Registry where
  instruments : List Instrument
  /-- The registry has been shut down. -/
  isShut : Bool

namespace Registry

/-- A registry without an instrument. -/
def empty : Registry :=
  ⟨[], false⟩

/-- An instrument of this name, unit and type. -/
def matching (name unit : Text) (kind : Kind) (i : Instrument) : Bool :=
  i.name = name && i.unit = unit && i.kind.sameType kind

/-- Creates an instrument, or finds it. Returns its number. -/
def create (r : Registry) (name description unit : Text) (kind : Kind) : Registry × Nat :=
  let number := r.instruments.findIdx (matching name unit kind)
  match r.instruments[number]? with
  | some i =>
    if i.description.length < description.length then
      ({ r with instruments := r.instruments.set number { i with description } }, number)
    else (r, number)
  | none =>
    ({ r with instruments := r.instruments ++ [⟨name, description, unit, kind, []⟩] }, number)

/-- Records a value with an instrument. -/
def record (r : Registry) (number : Nat) (labels : Labels) (x : Float) : Registry :=
  { r with instruments := r.instruments.modify number fun i => i.record labels x }

/-- Brings what is reported up to date. -/
def collect (r : Registry) : Registry :=
  { r with instruments := r.instruments.map (·.collect) }

/-- The instruments as they are reported: those of one name together, and the names in the order in
which they were first used. -/
def grouped (r : Registry) : List Instrument :=
  (r.instruments.map (·.name)).eraseDups.flatMap fun name => r.instruments.filter (·.name = name)

/-- The instruments that have recorded something. -/
def active (r : Registry) : List Instrument :=
  r.grouped.filter fun i => !i.series.isEmpty

/-- The active instrument of a name. -/
def find? (r : Registry) (name : Text) : Option Instrument :=
  r.active.find? (·.name = name)

end Registry

/-! ## The instruments of the probe -/

/-- The label that names the call. -/
def methodLabel : Text := "rpc_method"

/-- The boundaries of the durations, in seconds. -/
def durationBoundaries : List Float :=
  [0.001, 0.005, 0.01, 0.025, 0.05, 0.1, 0.25, 0.5, 1.0, 2.5, 5.0, 10.0]

/-- What is recorded about a call. -/
inductive Recording where
  | duration (ms : Float)
  | error
  | publishError
  | skip

/-- The name of an instrument below a base. -/
def fullName (base name : Text) : Text :=
  base ++ "_" ++ name

/-- The registry with the four instruments of the probe, which have the numbers 0 to 3. -/
def probeRegistry (base : Text) : Registry :=
  let counter (name description : Text) (r : Registry) : Registry :=
    (r.create (fullName base name) description "" .counter).1
  (Registry.empty.create (fullName base "rpc_fetch_duration_seconds")
      "Time it took to fetch data from the RPC endpoint." "s" (.histogram durationBoundaries)).1
    |> counter "rpc_fetch_errors_total"
      "Number of errors while fetching data from the RPC endpoint."
    |> counter "nats_publish_errors_total" "Number of errors while publishing events to NATS."
    |> counter "rpc_fetch_skipped_total"
      "Number of due RPC fetches skipped because the previous call had not resolved."

/-- The instrument of a recording. -/
def Recording.instrument : Recording → Nat
  | duration _ => 0
  | error => 1
  | publishError => 2
  | skip => 3

/-- The value of a recording; durations are kept in seconds. -/
def Recording.value : Recording → Float
  | duration ms => ms / 1000
  | _ => 1

/-- Records something about a call. -/
def Registry.note (r : Registry) (method : Text) (what : Recording) : Registry :=
  r.record what.instrument [(methodLabel, method)] what.value

end NodeProbe.Metrics
