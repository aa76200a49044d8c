import NodeProbe.Fault

/-!
# Waiting for calls

A wait watches the calls that were under way when it began. When all of them have ended, it is
finished if no call is under way at that moment, and else it watches those that are. A call that
ends with a fault makes the waits fail that watch it, and no others.
-/

namespace NodeProbe.Scheduler

/-- Where a wait for calls stands. -/
inductive Wait where
  | watching (calls : List Method)
  | finished
  | failed (fault : Fault)

namespace Wait

/-- A wait that begins while these calls are under way. -/
def new (running : List Method) : Wait :=
  if running.isEmpty then finished else watching running

/-- A call has ended, perhaps with a fault. -/
def ended (method : Method) (fault : Option Fault) : Wait → Wait
  | watching calls =>
    if calls.contains method then
      match fault with
      | some fault => failed fault
      | none => watching (calls.filter (· ≠ method))
    else watching calls
  | wait => wait

/-- A wait whose calls have all ended begins again. -/
def renew (running : List Method) : Wait → Wait
  | watching [] => new running
  | wait => wait

end Wait

end NodeProbe.Scheduler
