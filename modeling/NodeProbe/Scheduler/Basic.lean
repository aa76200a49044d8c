import NodeProbe.Fetch.Outcome
import NodeProbe.Metrics.Registry
import NodeProbe.Scheduler.Notice
import NodeProbe.Scheduler.Slot
import NodeProbe.Scheduler.Wait
import NodeProbe.Shutdown

/-!
# The scheduler

At every tick the calls that are due are made, all at once; each is fetched, recorded and, if it
succeeded, published, on its own. At most one call of each kind is under way. The loop sleeps from
one deadline to the next; deadlines are multiples of the interval after its start, and those that
have passed while the program was held up are dropped. Once the signal is raised no call is made any
more, and the loop ends when the calls under way have ended. What a call throws is printed; only a
value that has no text ends the call with a fault.

The functions below are the steps of this machine. What a step asks of the world is returned with
the new state as a list of effects, in order.
-/

namespace NodeProbe

namespace Scheduler

/-- The parts of the recorder, which may break. -/
inductive Part where
  | duration
  | error
  | publishError
  | skip
  deriving DecidableEq, Repr

/-- The name of a part of the recorder. -/
def Part.name : Part → String
  | duration => "recordDuration"
  | error => "recordError"
  | publishError => "recordPublishError"
  | skip => "recordSkip"

/-- The part that keeps a recording. -/
def Part.of : Metrics.Recording → Part
  | .duration _ => duration
  | .error => error
  | .publishError => publishError
  | .skip => skip

/-- The wording of what a broken part of the recorder throws. -/
def Part.breakage (part : Part) : String :=
  part.name ++ " broke"

/-- What a broken part of the recorder throws. -/
def Part.fault (part : Part) : Fault :=
  .error "Error" part.breakage

/-- What a step asks of the world. -/
inductive Effect where
  /-- A call is made. -/
  | call (method : Method)
  | record (method : Method) (what : Metrics.Recording)
  | print (notice : Notice)

/-- How far a call is. -/
inductive Stage where
  | fetching
  | publishing
  deriving DecidableEq, Repr

/-- How far the loop is. -/
inductive Loop where
  | unstarted
  /-- It waits for a sleep, which is to end at a deadline. -/
  | asleep (sleep : Nat) (deadline : Rat)
  /-- It has ticked for a deadline. -/
  | ticked (deadline : Rat)
  /-- It waits for the calls under way. -/
  | draining (wait : Wait)
  | stopped
  /-- A tick threw, or a call ended with a fault while the loop waited for it. -/
  | failed (fault : Fault)

/-- The time between two ticks. -/
structure Interval where
  /-- The interval as it was given, in milliseconds. -/
  ms : Float
  length : Rat
  positive : 0 < length

/-- An interval of so many milliseconds. -/
def Interval.of? (ms : Float) : Option Interval :=
  match Decimal.rational? ms with
  | some length => if h : 0 < length then some ⟨ms, length, h⟩ else none
  | none => none

/-- The states in which a scheduler is seen. -/
inductive Status where
  | idle
  | dispatching
  | draining
  | stopped
  deriving DecidableEq, Repr

/-- The name of a status. -/
def Status.name : Status → String
  | idle => "idle"
  | dispatching => "dispatching"
  | draining => "draining"
  | stopped => "stopped"

end Scheduler

open Scheduler

/-- The state of a scheduler. -/
structure Scheduler where
  interval : Interval
  /-- The parts of the recorder that are broken. -/
  broken : List Part
  slots : List Slot
  /-- The calls under way, in the order in which they were made. -/
  inFlight : List (Method × Stage)
  ticks : Nat
  loop : Loop
  /-- The waits for calls that others than the loop have begun. -/
  drains : List Wait
  signal : Signal

namespace Scheduler

/-- A scheduler that has done nothing. The interval must be finite and above zero. -/
def new (catalog : Catalog) (intervalMs : Float) (broken : List Part) : Except Fault Scheduler :=
  match Interval.of? intervalMs with
  | none => .error (.interval intervalMs)
  | some interval =>
    .ok
      { interval, broken
        slots := catalog.specs.map Slot.new
        inFlight := []
        ticks := 0
        loop := .unstarted
        drains := []
        signal := .initial }

/-- The loop has ended. -/
def isStopped (s : Scheduler) : Bool :=
  match s.loop with
  | .stopped => true
  | _ => false

/-- The status of a scheduler, which follows from its parts. -/
def status (s : Scheduler) : Status :=
  if s.isStopped then .stopped
  else if s.signal.isRaised then .draining
  else if s.inFlight.isEmpty then .idle
  else .dispatching

/-- The calls under way. -/
def running (s : Scheduler) : List Method :=
  s.inFlight.map (·.1)

/-! ## Ticks -/

/-- What a tick did to the slots. -/
structure TickResult where
  slots : List Slot
  effects : List Effect
  /-- The calls that are made. -/
  fired : List Method
  /-- What was thrown half way. -/
  fault : Option Fault

/-- Gives each slot its turn, in the order of the catalog. When the recorder throws at a skip, the
slots behind it do not get theirs. -/
def tickSlots (skipBreaks : Bool) (running : List Method) : List Slot → TickResult
  | [] => ⟨[], [], [], none⟩
  | slot :: rest =>
    let isRunning := running.contains slot.method
    let after := slot.tick isRunning
    match slot.turn isRunning with
    | .rest =>
      let r := tickSlots skipBreaks running rest
      { r with slots := after :: r.slots }
    | .skip =>
      let recorded := Effect.record slot.method .skip
      if skipBreaks then ⟨after :: rest, [recorded], [], some Part.skip.fault⟩
      else
        let r := tickSlots skipBreaks running rest
        { r with
          slots := after :: r.slots
          effects := recorded :: .print (.busy slot.method) :: r.effects }
    | .fire =>
      let r := tickSlots skipBreaks running rest
      { r with
        slots := after :: r.slots
        effects := .call slot.method :: r.effects
        fired := slot.method :: r.fired }

/-- One tick. Behind a raised signal nothing happens. Answers the calls that are made. -/
def tick (s : Scheduler) : Scheduler × List Effect × Except Fault (List Method) :=
  if s.signal.isRaised || s.isStopped then (s, [], .ok [])
  else
    let r := tickSlots (s.broken.contains .skip) s.running s.slots
    let s :=
      { s with
        ticks := s.ticks + 1
        slots := r.slots
        inFlight := s.inFlight ++ r.fired.map fun m => (m, .fetching) }
    (s, r.effects,
      match r.fault with
      | some fault => .error fault
      | none => .ok r.fired)

/-! ## Calls -/

/-- A call is no longer under way; it may have ended with a fault. -/
def finish (s : Scheduler) (method : Method) (fault : Option Fault) : Scheduler :=
  { s with
    inFlight := s.inFlight.filter (·.1 ≠ method)
    loop := match s.loop with
      | .draining wait => .draining (wait.ended method fault)
      | loop => loop
    drains := s.drains.map (·.ended method fault) }

/-- A call threw. Its text is printed; without a text the call ends with a fault. -/
def abandon (s : Scheduler) (method : Method) (thrown : Fault) : Scheduler × List Effect :=
  match thrown.message with
  | .ok text => (s.finish method none, [.print (.unexpected method text)])
  | .error fault => (s.finish method (some fault), [])

/-- Records something and goes on with `next`, unless the recorder throws. -/
def recordOr (s : Scheduler) (method : Method) (what : Metrics.Recording)
    (next : List Effect) : List Effect :=
  .record method what ::
    if s.broken.contains (Part.of what) then
      [.print (.unexpected method (Part.of what).breakage)]
    else next

/-- A call has come to an outcome, or the fetching itself threw. A success is to be published; its
payload is returned. -/
def fetched (s : Scheduler) (method : Method) (result : Except Fault Outcome) :
    Scheduler × List Effect × Option Bytes :=
  match result with
  | .error fault =>
    let (s, effects) := s.abandon method fault
    (s, effects, none)
  | .ok outcome =>
    if s.broken.contains .duration then
      (s.finish method none, s.recordOr method (.duration outcome.elapsedMs) [], none)
    else
      match outcome.verdict with
      | .failure kind message =>
        (s.finish method none,
          s.recordOr method (.duration outcome.elapsedMs)
            (s.recordOr method .error
              [.print (.failed method kind outcome.elapsedMs message)]),
          none)
      | .success payload =>
        ({ s with
            inFlight := s.inFlight.map fun (m, stage) =>
              (m, if m = method then .publishing else stage) },
          s.recordOr method (.duration outcome.elapsedMs) [], some payload)

/-- An event has been published or not, or the publishing itself threw. -/
def published (s : Scheduler) (method : Method) (result : Except Fault (Option PublishFault)) :
    Scheduler × List Effect :=
  match result with
  | .error fault => s.abandon method fault
  | .ok none => (s.finish method none, [])
  | .ok (some fault) =>
    (s.finish method none,
      s.recordOr method .publishError [.print (.unpublished method fault.message)])

/-- Waits for the calls under way. -/
def drain (s : Scheduler) : Scheduler :=
  { s with drains := s.drains ++ [.new s.running] }

/-! ## The loop -/

/-- The number of deadlines that have passed since the first of them. -/
def deadlinesSince (interval : Interval) (first now : Rat) : Int :=
  (Time.sum (Decimal.rounded (Time.difference now first / interval.length)).floor 1).floor

/-- The next deadline behind one that has passed, and the number of deadlines that are dropped
because they have passed too. -/
def nextDeadline (interval : Interval) (deadline now : Rat) : Rat × Int :=
  let next := Time.sum deadline interval.length
  if next ≤ now then
    let missed := deadlinesSince interval next now
    (Time.sum next (Decimal.rounded (missed * interval.length)), missed)
  else (next, 0)

/-- Sleeps until a deadline. -/
def sleepUntil (s : Scheduler) (clock : Time.Clock) (deadline : Rat) : Time.Clock × Scheduler :=
  let signal := s.signal.forget
  let number := signal.sleeps.length
  let (clock, signal) := signal.sleep clock (some (clock.remaining deadline))
  (clock, { s with signal, loop := .asleep number deadline })

/-- The loop waits for the calls under way. -/
def windDown (s : Scheduler) : Scheduler × List Effect :=
  ({ s with loop := .draining (.new s.running) },
    if s.inFlight.isEmpty then [] else [.print (.waiting s.running)])

/-- Goes on with the loop: to the next sleep, or to its end if the signal is raised. -/
def continueLoop (s : Scheduler) (clock : Time.Clock) (deadline : Rat) :
    Time.Clock × Scheduler × List Effect :=
  if s.signal.isRaised then (clock, s.windDown)
  else
    let (clock, s) := s.sleepUntil clock deadline
    (clock, s, [])

/-- What is printed when the loop starts. -/
def banner (s : Scheduler) : List Effect :=
  let enabled := (s.slots.map (·.spec)).filter (·.enabled)
  .print (.starting s.interval.ms enabled.length s.slots.length) ::
    enabled.map fun spec => .print (.listed spec.method spec.cadence)

/-- Starts the loop, which can be done once. -/
def run (s : Scheduler) (clock : Time.Clock) :
    Except Fault (Time.Clock × Scheduler × List Effect) :=
  match s.loop with
  | .unstarted =>
    let (clock, after, effects) :=
      s.continueLoop clock (Time.sum clock.now s.interval.length)
    .ok (clock, after, s.banner ++ effects)
  | _ => .error .alreadyRun

/-- The tick of the loop for a deadline. -/
def beat (s : Scheduler) (deadline : Rat) : Scheduler × List Effect :=
  match s.tick with
  | (s, effects, .error fault) => ({ s with loop := .failed fault }, effects)
  | (s, effects, .ok _) => ({ s with loop := .ticked deadline }, effects)

/-- The loop goes on if its sleep has ended: with a tick, or to its end if the signal ended the
sleep. -/
def wake (s : Scheduler) : Scheduler × List Effect :=
  match s.loop with
  | .asleep sleep deadline =>
    match s.signal.sleeps[sleep]? with
    | some (.ended true _) => s.beat deadline
    | some (.ended false _) => s.windDown
    | _ => (s, [])
  | _ => (s, [])

/-- What is printed when deadlines are dropped. -/
def lagWarning (missed : Int) : List Effect :=
  if 0 < missed then [.print (.lagged missed)] else []

/-- Behind its tick the loop goes on to the next deadline. -/
def goOn (s : Scheduler) (clock : Time.Clock) : Time.Clock × Scheduler × List Effect :=
  match s.loop with
  | .ticked deadline =>
    let (next, missed) := nextDeadline s.interval deadline clock.now
    let (clock, s, effects) := s.continueLoop clock next
    (clock, s, lagWarning missed ++ effects)
  | _ => (clock, s, [])

/-- The waits whose calls have ended go on, and the loop ends with its own. -/
def stop (s : Scheduler) : Scheduler × List Effect :=
  let s := { s with drains := s.drains.map (Wait.renew s.running) }
  match s.loop with
  | .draining wait =>
    match wait.renew s.running with
    | .finished => ({ s with loop := .stopped }, [.print .stopped])
    | .failed fault => ({ s with loop := .failed fault }, [])
    | wait => ({ s with loop := .draining wait }, [])
  | _ => (s, [])

end Scheduler

end NodeProbe
