import NodeProbe.Fetch.Outcome
import NodeProbe.Time.Clock

/-!
# The race against the timeout

A call and an alarm run against each other, and the outcome is fixed by whichever comes first. The
alarm is armed before the call is made, so it wins a tie; an answer that is there at once wins in
any case. When the alarm rings first, the outcome is a timeout and only then is the call aborted, so
nothing that the call does about it changes the outcome.
-/

namespace NodeProbe

/-- How the other side answers a call. -/
inductive Reply where
  /-- The call fails before it is under way. -/
  | refused (fault : Fault)
  | immediate (s : Settlement)
  | delayed (delay : Option Rat) (s : Settlement)
  /-- It never answers; when aborted it may fail. -/
  | silent (onAbort : Option Fault)

/-- An answer that has not come yet. -/
inductive Awaited where
  | refused (fault : Fault)
  | ready (s : Settlement)
  | alarmed (alarm : Time.Alarm) (s : Settlement)
  | silent (onAbort : Option Fault)

/-- A call under way or over. -/
structure Race where
  method : Method
  /-- The timeout in milliseconds. -/
  limit : Float
  started : Rat
  /-- The alarm of the timeout while it is armed. -/
  timeout : Option Time.Alarm
  awaited : Option Awaited
  /-- The outcome once it is fixed, or why there is none. -/
  outcome : Option (Except Fault Outcome)
  /-- When the call was aborted. -/
  aborts : List Rat

namespace Race

/-- Makes a call. -/
def launch (clock : Time.Clock) (method : Method) (limit : Float) (reply : Reply) :
    Time.Clock × Race :=
  let (clock, timeout) := clock.arm (Time.delayOf limit)
  let (clock, awaited) : Time.Clock × Awaited :=
    match reply with
    | .refused fault => (clock, .refused fault)
    | .immediate s => (clock, .ready s)
    | .delayed delay s =>
      let (clock, alarm) := clock.arm delay
      (clock, .alarmed alarm s)
    | .silent onAbort => (clock, .silent onAbort)
  (clock, ⟨method, limit, clock.now, some timeout, some awaited, none, []⟩)

/-- Fixes the outcome, unless it is fixed already, and disarms the timeout. -/
def conclude (r : Race) (clock : Time.Clock) (verdict : Except Fault Verdict) : Race :=
  match r.outcome with
  | some _ => { r with timeout := none }
  | none =>
    let elapsed := Decimal.ofRat (clock.elapsedSince r.started)
    { r with
      timeout := none
      outcome := some (verdict.map fun v => ⟨r.method, v, elapsed⟩) }

/-- The call is answered. -/
def answer (r : Race) (clock : Time.Clock) (s : Settlement) : Race :=
  { r with awaited := none }.conclude clock (Verdict.ofSettlement r.method s)

/-- The call fails before it is under way. -/
def isRefused (r : Race) : Bool :=
  match r.awaited with
  | some (.refused _) => true
  | _ => false

/-- An answer that is there at once is taken. -/
def settle (r : Race) (clock : Time.Clock) : Race :=
  match r.awaited with
  | some (.refused fault) => r.answer clock (.error fault)
  | some (.ready s) => r.answer clock s
  | _ => r

/-- The call is aborted; one that was silent may now fail. -/
def abort (r : Race) (clock : Time.Clock) : Race :=
  let r := { r with aborts := r.aborts ++ [clock.now] }
  match r.awaited with
  | some (.silent (some fault)) => r.answer clock (.error fault)
  | _ => r

/-- An alarm rings. -/
def ring (r : Race) (alarm : Time.Alarm) (clock : Time.Clock) : Race :=
  if r.timeout = some alarm then
    (r.conclude clock (.ok (.ofTimeout r.method r.limit))).abort clock
  else
    match r.awaited with
    | some (.alarmed own s) => if own = alarm then r.answer clock s else r
    | _ => r

/-- The alarms that have not rung. -/
def alarms (r : Race) : List Time.Alarm :=
  r.timeout.toList ++
    match r.awaited with
    | some (.alarmed alarm _) => [alarm]
    | _ => []

end Race

/-- One call and the clock that it runs against. -/
structure Attempt where
  clock : Time.Clock
  race : Race

namespace Attempt

/-- Makes a call. -/
def start (clock : Time.Clock) (method : Method) (limit : Float) (reply : Reply) : Attempt :=
  let (clock, race) := Race.launch clock method limit reply
  ⟨clock, race.settle clock⟩

instance : Time.Timed Attempt where
  now a := a.clock.now
  moveTo a time := { a with clock := { a.clock with now := time } }
  alarms a := a.race.alarms
  ring a alarm := { a with race := (a.race.ring alarm a.clock).settle a.clock }
  bound a _ := a.race.alarms.length

end Attempt

end NodeProbe
