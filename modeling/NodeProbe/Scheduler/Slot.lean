import NodeProbe.Catalog

/-!
# Slots

The scheduler has a slot for each entry of the catalog, which counts the ticks since its call was
last made. The call is due when the count reaches the cadence. A call that is due while it is still
running is skipped, and its count stays at the cadence, so that it is due again at the next tick.
-/

namespace NodeProbe.Scheduler

/-- An entry of the catalog, and the ticks since its call was last made, at most its cadence. -/
structure Slot where
  spec : MethodSpec
  elapsed : Nat

/-- What a tick means for a call. -/
inductive Turn where
  /-- It is not due, or it is disabled. -/
  | rest
  /-- It is due but still running. -/
  | skip
  /-- It is made. -/
  | fire
  deriving DecidableEq, Repr

namespace Slot

/-- A slot whose call has not been made. -/
def new (spec : MethodSpec) : Slot :=
  ⟨spec, 0⟩

/-- The call of a slot. -/
def method (slot : Slot) : Method :=
  slot.spec.method

/-- What the next tick means for the call of a slot. -/
def turn (slot : Slot) (running : Bool) : Turn :=
  if !slot.spec.enabled || slot.elapsed + 1 < slot.spec.cadence then .rest
  else if running then .skip
  else .fire

/-- The slot after a tick. -/
def tick (slot : Slot) (running : Bool) : Slot :=
  if !slot.spec.enabled then slot
  else
    match slot.turn running with
    | .rest => { slot with elapsed := slot.elapsed + 1 }
    | .skip => { slot with elapsed := slot.spec.cadence }
    | .fire => { slot with elapsed := 0 }

end Slot

end NodeProbe.Scheduler
