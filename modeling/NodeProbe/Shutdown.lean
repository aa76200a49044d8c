import NodeProbe.Text.Basic
import NodeProbe.Time.Clock

/-!
# Shutdown

One signal for the whole program, raised once and never lowered. A task may sleep until a time or
until the signal is raised. Each sleep that has not ended holds one alarm and listens to the signal;
whichever of the two comes first ends the sleep and takes the other one away.
-/

namespace NodeProbe

/-- Where a sleep stands. -/
inductive Sleep where
  | pending
  /-- It ended at a time, because all of it had passed or because the signal was raised. -/
  | ended (elapsed : Bool) (time : Rat)
  deriving DecidableEq

/-- The signal: why it was raised, the sleeps in the order in which they began, and for those that
are pending the alarms and the listeners, each with the number of its sleep. -/
structure Signal where
  reason : Option Text
  sleeps : List Sleep
  timers : List (Nat × Time.Alarm)
  listeners : List Nat

namespace Signal

/-- The signal of a program that begins. -/
def initial : Signal :=
  ⟨none, [], [], []⟩

/-- The reason if none is given. -/
def defaultReason : Text := "shutdown requested"

/-- The signal has been raised. -/
def isRaised (s : Signal) : Bool :=
  s.reason.isSome

/-- Begins a sleep of a length. Behind a raised signal there is no sleep. -/
def sleep (s : Signal) (clock : Time.Clock) (delay : Option Rat) : Time.Clock × Signal :=
  if s.isRaised then (clock, { s with sleeps := s.sleeps ++ [.ended false clock.now] })
  else
    let (clock, alarm) := clock.arm delay
    let number := s.sleeps.length
    (clock,
      { s with
        sleeps := s.sleeps ++ [.pending]
        timers := s.timers ++ [(number, alarm)]
        listeners := s.listeners ++ [number] })

/-- Forgets the sleeps that have ended if none is pending. -/
def forget (s : Signal) : Signal :=
  if s.timers.isEmpty then { s with sleeps := [] } else s

/-- Ends a sleep if it is pending. -/
def finish (sleeps : List Sleep) (number : Nat) (elapsed : Bool) (time : Rat) : List Sleep :=
  sleeps.modify number fun
    | .pending => .ended elapsed time
    | ended => ended

/-- An alarm rings: its sleep is over, and the listener goes. -/
def ring (s : Signal) (alarm : Time.Alarm) (time : Rat) : Signal :=
  match s.timers.find? (·.2 = alarm) with
  | some (number, _) =>
    { s with
      sleeps := finish s.sleeps number true time
      timers := s.timers.filter (·.1 ≠ number)
      listeners := s.listeners.filter (· ≠ number) }
  | none => s

/-- A listener hears the signal: its sleep is over, and the alarm goes. -/
def notify (s : Signal) (time : Rat) (number : Nat) : Signal :=
  { s with
    sleeps := finish s.sleeps number false time
    timers := s.timers.filter (·.1 ≠ number) }

/-- Raises the signal. Only the first reason is kept. -/
def raise (s : Signal) (reason : Text) (time : Rat) : Signal :=
  if s.isRaised then s
  else
    let heard := s.listeners.foldl (fun s number => s.notify time number) s
    { heard with reason := some reason, listeners := [] }

/-- The alarms of the pending sleeps. -/
def alarms (s : Signal) : List Time.Alarm :=
  s.timers.map (·.2)

end Signal

/-- A signal and the clock it lives by. -/
structure Vigil where
  clock : Time.Clock
  signal : Signal

namespace Vigil

/-- Nothing has happened yet; the clock is started at a time. -/
def startedAt (time : Rat) : Vigil :=
  ⟨.startedAt time, .initial⟩

/-- Begins a sleep. -/
def sleep (v : Vigil) (delay : Option Rat) : Vigil :=
  let (clock, signal) := v.signal.sleep v.clock delay
  ⟨clock, signal⟩

/-- Raises the signal. -/
def raise (v : Vigil) (reason : Text) : Vigil :=
  { v with signal := v.signal.raise reason v.clock.now }

instance : Time.Timed Vigil where
  now v := v.clock.now
  moveTo v time := { v with clock := { v.clock with now := time } }
  alarms v := v.signal.alarms
  ring v alarm := { v with signal := v.signal.ring alarm v.clock.now }
  bound v _ := v.signal.timers.length

end Vigil

end NodeProbe
