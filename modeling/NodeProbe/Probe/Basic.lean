import NodeProbe.Bus.Connection
import NodeProbe.Probe.Transport
import NodeProbe.Scheduler.Basic

/-!
# The probe at work

A probe is a scheduler together with the world around it: a clock, the calls under way, the bus, the
metrics, and a journal of what has happened. After every step everything that can happen without
time passing happens: the loop goes on if its sleep has ended, the calls that have been answered are
recorded and published, and a loop that only waited for them ends. A call that failed before it was
under way is over sooner than the others.
-/

namespace NodeProbe

/-- What may happen to a call, or to the program as a whole. -/
inductive Happening where
  | called
  | aborted
  | recorded (what : Metrics.Recording)
  | published (message : Message)
  | printed (line : Line)
  /-- The program tries to connect to the bus. -/
  | connecting (access : BusAccess)
  /-- The program closes its connection to the bus. -/
  | closing
  /-- The program shuts its registry down. -/
  | shutting

/-- An entry of the journal. -/
structure Record where
  time : Rat
  /-- The call that it is about. -/
  method : Option Method
  what : Happening

/-- A scheduler and the world around it. -/
structure Probe where
  clock : Time.Clock
  scheduler : Scheduler
  transport : Transport
  flights : List Flight
  bus : Bus
  /-- What the subjects begin with. -/
  base : Option Text
  /-- What the publisher throws, if it is broken. -/
  publisherFault : Option Fault
  registry : Metrics.Registry
  /-- What has happened, the last entry in front. -/
  journal : List Record
  /-- The requests that were sent to the node, the last one in front. -/
  requests : List Request
  /-- For each attempt to run the loop, whether it was the one that did. -/
  runs : List Bool

namespace Probe

/-- A probe that has done nothing, with a clock that is started at a time. -/
def new (scheduler : Scheduler) (transport : Transport) (base : Option Text) (time : Rat) :
    Probe :=
  { clock := .startedAt time
    scheduler, transport
    flights := []
    bus := .accepting
    base
    publisherFault := none
    registry := Metrics.probeRegistry Metrics.standardNamespace
    journal := []
    requests := []
    runs := [] }

/-- Writes into the journal. -/
def note (p : Probe) (method : Option Method) (what : Happening) : Probe :=
  { p with journal := ⟨p.clock.now, method, what⟩ :: p.journal }

/-- Makes a call. -/
def call (p : Probe) (method : Method) : Probe :=
  let p := p.note method .called
  let (transport, clock, flight, request) := p.transport.call p.clock method
  { p with
    transport, clock
    flights := p.flights ++ [flight]
    requests := request.toList ++ p.requests }

/-- Records something; a broken recorder keeps nothing. -/
def record (p : Probe) (method : Method) (what : Metrics.Recording) : Probe :=
  let p := p.note method (.recorded what)
  if p.scheduler.broken.contains (Scheduler.Part.of what) then p
  else { p with registry := p.registry.note method.name what }

/-- Does what the scheduler asks. -/
def perform (p : Probe) : Scheduler.Effect → Probe
  | .call method => p.call method
  | .record method what => p.record method what
  | .print notice => p.note notice.about (.printed notice.line)

/-- The event of a result. -/
def event (p : Probe) (method : Method) (payload : Bytes) : Event :=
  ⟨method.name, payload, Time.Instant.ofRat? p.clock.now⟩

/-- Publishes the result of a call. -/
def publish (p : Probe) (method : Method) (payload : Bytes) : Probe :=
  let (p, result) : Probe × Except Fault (Option PublishFault) :=
    match p.publisherFault with
    | some fault => (p, .error fault)
    | none =>
      let (bus, result) := (p.event method payload).publish p.base p.bus
      let p := { p with bus }
      match result, bus.delivered.head? with
      | .ok none, some message => (p.note method (.published message), result)
      | _, _ => (p, result)
  let (scheduler, effects) := p.scheduler.published method result
  effects.foldl perform { p with scheduler }

/-- Takes in what a call came to. -/
def conclude (p : Probe) (method : Method) (result : Except Fault Outcome) : Probe :=
  let (scheduler, effects, payload) := p.scheduler.fetched method result
  let p := effects.foldl perform { p with scheduler }
  match payload with
  | some payload => p.publish method payload
  | none => p

/-- Takes in every call that is over: first those that failed before they were under way, and then
the others, in the order in which they were made. -/
def concludeAll (p : Probe) : Probe :=
  let (refused, others) := p.flights.partition (·.isRefused)
  let settled := (refused ++ others).map (·.settle p.clock)
  let p :=
    { p with flights := (p.flights.map (·.settle p.clock)).filter (·.result?.isNone) }
  settled.foldl
    (fun p flight =>
      match flight.result? with
      | some result => p.conclude flight.method result
      | none => p)
    p

/-- The loop goes on if it can. The calls of its tick are made before it sleeps again. -/
def resume (p : Probe) : Probe :=
  let (scheduler, effects) := p.scheduler.wake
  let p := effects.foldl perform { p with scheduler }
  let (clock, scheduler, effects) := p.scheduler.goOn p.clock
  effects.foldl perform { p with clock, scheduler }

/-- The waits for calls end if none is under way. -/
def stop (p : Probe) : Probe :=
  let (scheduler, effects) := p.scheduler.stop
  effects.foldl perform { p with scheduler }

/-- Everything happens that can happen without time passing. -/
def settle (p : Probe) : Probe :=
  p.resume.concludeAll.stop

/-! ## Steps -/

/-- A tick from outside the loop, before anything follows from it. -/
def tick (p : Probe) : Probe × Except Fault (List Method) :=
  let (scheduler, effects, result) := p.scheduler.tick
  (effects.foldl perform { p with scheduler }, result)

/-- Runs the loop, or tries to. -/
def run (p : Probe) : Probe :=
  match p.scheduler.run p.clock with
  | .error _ => { p with runs := p.runs ++ [false] }
  | .ok (clock, scheduler, effects) =>
    effects.foldl perform { p with clock, scheduler, runs := p.runs ++ [true] }

/-- Waits for the calls under way. -/
def drain (p : Probe) : Probe :=
  { p with scheduler := p.scheduler.drain }

/-- Raises the signal. -/
def raise (p : Probe) (reason : Text) : Probe :=
  { p with
    scheduler :=
      { p.scheduler with signal := p.scheduler.signal.raise reason p.clock.now } }

/-- Prepares new answers for a call. -/
def respond (p : Probe) (method : Method) (replies : List Reply) : Probe :=
  match p.transport with
  | .answers limit lines => { p with transport := .answers limit (lines.set method replies) }
  | _ => p

/-- The bus fails from now on, or works again. -/
def setBus (p : Probe) (fault : Option Fault) : Probe :=
  { p with bus := p.bus.setRefusal fault }

/-! ## Time -/

/-- The alarms that have not rung. -/
def alarms (p : Probe) : List Time.Alarm :=
  p.scheduler.signal.alarms ++ p.flights.flatMap (·.alarms)

/-- An alarm rings. -/
def ring (p : Probe) (alarm : Time.Alarm) : Probe :=
  let flights := p.flights.map (·.ring alarm p.clock)
  let aborted := (p.flights.zip flights).filter fun (old, new) => old.abortCount < new.abortCount
  let p :=
    { p with
      flights
      scheduler := { p.scheduler with signal := p.scheduler.signal.ring alarm p.clock.now } }
  (aborted.foldl (fun p (_, flight) => p.note flight.method .aborted) p).settle

/-- No more ticks of the loop than this can happen up to a time. Rounding may bring deadlines a
little closer together, and a sleep may end a little before its deadline. -/
def tickBound (p : Probe) (target : Rat) : Nat :=
  match p.scheduler.loop with
  | .asleep _ deadline =>
    2 * ((target - deadline) / p.scheduler.interval.length).floor.toNat + 2
  | _ => 0

instance : Time.Timed Probe where
  now p := p.clock.now
  moveTo p time := { p with clock := { p.clock with now := time } }
  alarms := alarms
  ring := ring
  bound p target :=
    p.alarms.length + p.tickBound target * (1 + 2 * p.scheduler.slots.length)

/-! ## Looking at a probe -/

/-- Where an attempt to run the loop stands. -/
inductive RunStatus where
  | pending
  | resolved
  | rejected (fault : Fault)

/-- Where the loop stands. -/
def loopStatus (p : Probe) : RunStatus :=
  match p.scheduler.loop with
  | .stopped => .resolved
  | .failed fault => .rejected fault
  | _ => .pending

/-- Where each attempt to run the loop stands. -/
def runStatuses (p : Probe) : List RunStatus :=
  p.runs.map fun ran => if ran then p.loopStatus else .rejected .alreadyRun

/-- What has been counted about a call. -/
structure Tally where
  calls : Nat
  durations : Nat
  errors : Nat
  publishErrors : Nat
  skips : Nat
  messages : Nat
  deriving DecidableEq

/-- The number of entries about a call that fit. -/
def countOf (p : Probe) (method : Method) (fits : Happening → Bool) : Nat :=
  (p.journal.filter fun r => r.method = some method && fits r.what).length

/-- The number of recordings about a call in one part of the recorder, which must have worked. -/
def recordings (p : Probe) (method : Method) (part : Scheduler.Part) : Nat :=
  if p.scheduler.broken.contains part then 0
  else
    p.countOf method fun
      | .recorded what => Scheduler.Part.of what = part
      | _ => false

/-- What has been counted about a call. -/
def tally (p : Probe) (method : Method) : Tally where
  calls := p.countOf method fun
    | .called => true
    | _ => false
  durations := p.recordings method .duration
  errors := p.recordings method .error
  publishErrors := p.recordings method .publishError
  skips := p.recordings method .skip
  messages := p.bus.count (subjectOf p.base method.name)

/-- Entries about calls in the order of time, and at one time in the order of the catalog. -/
def sortJournal (records : List Record) : List Record :=
  (records.filter (·.method.isSome)).mergeSort fun a b =>
    let rank (r : Record) : Nat := (r.method.map (·.position)).getD 0
    a.time < b.time || (a.time = b.time && rank a ≤ rank b)

end Probe

end NodeProbe
