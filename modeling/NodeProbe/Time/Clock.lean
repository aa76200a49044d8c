import NodeProbe.Decimal.Binary

/-!
# Clock and alarms

Time is virtual: it moves only when it is told to. It is counted in milliseconds since 1970 and kept
with the precision of a double, so every sum and every difference of times is rounded. An alarm is
armed with a delay and is due so many milliseconds later; a delay that is negative or no number
counts as none, and an alarm with an infinite delay is never due. When time advances, the alarms
that come due ring one after the other, the earlier ones first and of several at one time the one
armed first, and everything that follows from one alarm happens before the next one rings. When time
is moved without ringing, alarms become overdue and ring at the next advance.

The timers of a real event loop are not modelled. They keep whole delays from 1 to 2^31 - 1
milliseconds and take any other one for 1; an alarm keeps every delay. Which settings stay in the
range is the matter of `NodeProbe.Proofs.Config.Timers`. They are also queued by their delays, so
that overdue ones of the same delay may ring in a row; overdue alarms ring as they came due.
-/

namespace NodeProbe.Time

/-- A time and a number of milliseconds together. -/
def sum (s t : Rat) : Rat :=
  Decimal.rounded (s + t)

/-- The number of milliseconds from the second time to the first one. -/
def difference (s t : Rat) : Rat :=
  Decimal.rounded (s - t)

/-- A clock: when it was started, the current time, and the number of alarms armed so far. -/
structure Clock where
  started : Rat
  now : Rat
  armed : Nat

/-- An alarm: when it is due, if ever, and its number in the order of arming. -/
structure Alarm where
  due : Option Rat
  number : Nat
  deriving DecidableEq

/-- The later of two times. -/
def later (s t : Rat) : Rat :=
  if s ≤ t then t else s

/-- A delay in milliseconds. No delay is shorter than zero, and what is no number is no delay. -/
def delayOf (ms : Float) : Option Rat :=
  match Decimal.Binary.ofFloat ms with
  | .finite _ _ _ => (Decimal.rational? ms).map fun d => if d < 0 then 0 else d
  | .infinite negative => if negative then some 0 else none
  | .nan => some 0

namespace Clock

/-- A clock that is started at a time. -/
def startedAt (time : Rat) : Clock :=
  ⟨time, time, 0⟩

/-- How long the clock had been running at a time. -/
def sinceStart (clock : Clock) (time : Rat) : Rat :=
  difference time clock.started

/-- How long ago an earlier time was, told by how long the clock had been running at either time. -/
def elapsedSince (clock : Clock) (earlier : Rat) : Rat :=
  difference (clock.sinceStart clock.now) (clock.sinceStart earlier)

/-- How long it is until a time, and no time if it has passed. -/
def remaining (clock : Clock) (time : Rat) : Rat :=
  if time ≤ clock.now then 0 else difference time clock.now

/-- Arms an alarm. The delay is kept also where a real timer would not keep it: below 1 and above
2^31 - 1 milliseconds. -/
def arm (clock : Clock) (delay : Option Rat) : Clock × Alarm :=
  ({ clock with armed := clock.armed + 1 }, ⟨delay.map (sum clock.now), clock.armed⟩)

end Clock

namespace Alarm

/-- The alarm is due at a time or was before it. -/
def isDue (alarm : Alarm) (time : Rat) : Bool :=
  match alarm.due with
  | some due => due ≤ time
  | none => false

/-- The first alarm rings before the second one. -/
def before (first second : Alarm) : Bool :=
  match first.due, second.due with
  | some s, some t => s < t || (s = t && first.number < second.number)
  | some _, none => true
  | none, some _ => false
  | none, none => first.number < second.number

/-- The alarm that rings first. -/
def earliest : List Alarm → Option Alarm
  | [] => none
  | a :: rest =>
    match earliest rest with
    | some b => some (if b.before a then b else a)
    | none => some a

end Alarm

/-- A world with a clock. -/
class Timed (World : Type) where
  now : World → Rat
  /-- Moves the clock and does nothing else. -/
  moveTo : World → Rat → World
  /-- The alarms that have not rung. -/
  alarms : World → List Alarm
  /-- An alarm rings, and everything that follows from it happens. -/
  ring : World → Alarm → World
  /-- No more alarms than this can ring up to a time. -/
  bound : World → Rat → Nat

namespace Timed

variable {World : Type} [Timed World]

/-- The alarm that rings next if time advances to `target`. -/
def next? (w : World) (target : Rat) : Option (Alarm × Rat) :=
  match Alarm.earliest (alarms w) with
  | some alarm =>
    match alarm.due with
    | some due => if due ≤ target then some (alarm, due) else none
    | none => none
  | none => none

/-- Lets at most `fuel` alarms ring up to `target`. -/
def advanceTo (target : Rat) : Nat → World → World
  | 0, w => moveTo w target
  | fuel + 1, w =>
    match next? w target with
    | some (alarm, due) => advanceTo target fuel (ring (moveTo w (later (now w) due)) alarm)
    | none => moveTo w target

/-- Time goes on by so many milliseconds, and every alarm that comes due rings. -/
def advance (w : World) (ms : Rat) : World :=
  let target := sum (now w) ms
  advanceTo target (bound w target) w

/-- Time goes on by so many milliseconds, and no alarm rings. -/
def stall (w : World) (ms : Rat) : World :=
  moveTo w (sum (now w) ms)

end Timed

end NodeProbe.Time
