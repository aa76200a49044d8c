import Mathlib.Logic.Relation
import NodeProbe.Proofs.Probe.Pace

/-!
# What a step of a probe consists of

However much follows from a step of a probe, it is a row of small changes (`Probe.Change`): the
scheduler moves on, something it asked for is done, the bus is offered a message, flights are taken
in. So what none of these changes disturbs, no step disturbs (`Changes.preserves`).
-/

namespace NodeProbe

open Scheduler

namespace Probe

/-- A change to a probe. -/
inductive Change : Probe → Probe → Prop
  | perform (p : Probe) (e : Effect) : Change p (p.perform e)
  /-- The scheduler moves on, and may arm an alarm. -/
  | plan (p : Probe) (clock : Time.Clock) (scheduler : Scheduler) :
      Change p { p with clock, scheduler }
  /-- An attempt to run the loop is noted. -/
  | attempt (p : Probe) (runs : List Bool) : Change p { p with runs }
  /-- The bus has been offered a message. -/
  | offer (p : Probe) (bus : Bus) : Change p { p with bus }
  | deliver (p : Probe) (m : Method) (message : Message) :
      Change p (p.note (some m) (.published message))
  /-- An alarm rings for the flights. -/
  | ring (p : Probe) (alarm : Time.Alarm) :
      Change p { p with flights := p.flights.map (·.ring alarm p.clock) }
  | abort (p : Probe) (m : Method) : Change p (p.note (some m) .aborted)
  /-- The flights that are over are taken in, and the others go on. -/
  | takeIn (p : Probe) : Change p { p with flights := p.flying }

/-- Changes one after the other. -/
def Changes : Probe → Probe → Prop :=
  Relation.ReflTransGen Change

namespace Changes

variable {p q r : Probe}

theorem refl (p : Probe) : Changes p p :=
  Relation.ReflTransGen.refl

theorem trans (h : Changes p q) (h' : Changes q r) : Changes p r :=
  Relation.ReflTransGen.trans h h'

theorem of (h : Change p q) : Changes p q :=
  Relation.ReflTransGen.single h

/-- What each change preserves, all of them preserve. -/
theorem preserves {P : Probe → Prop} (hchange : ∀ {p q}, Change p q → P p → P q)
    (h : Changes p q) (hp : P p) : P q := by
  induction h with
  | refl => exact hp
  | tail _ hstep ih => exact hchange hstep ih

variable (p)

theorem performed (effects : List Effect) : Changes p (effects.foldl perform p) :=
  List.foldlRecOn (motive := Changes p) effects perform (refl p) fun q hq e _ =>
    hq.trans (of (.perform q e))

/-- The scheduler moves on, and what it asks for is done. -/
theorem planned (clock : Time.Clock) (s : Scheduler) (effects : List Effect) :
    Changes p (effects.foldl perform { p with clock, scheduler := s }) :=
  (of (.plan p clock s)).trans (performed _ effects)

theorem publish (m : Method) (payload : Bytes) : Changes p (p.publish m payload) := by
  unfold Probe.publish
  cases hfault : p.publisherFault with
  | some fault => exact planned _ p.clock _ _
  | none =>
    cases (p.event m payload).publish p.base p.bus with
    | mk bus result =>
      have hoffer : Changes p { p with bus, publisherFault := none } := by
        rw [← hfault]
        exact of (.offer p bus)
      simp only
      split
      · rename_i message _
        exact (hoffer.trans (of (.deliver _ m message))).trans (planned _ p.clock _ _)
      · exact hoffer.trans (planned _ p.clock _ _)

theorem conclude (m : Method) (result : Except Fault Outcome) :
    Changes p (p.conclude m result) := by
  have hplanned := planned p p.clock (p.scheduler.fetched m result).1
    (p.scheduler.fetched m result).2.1
  simp only [Probe.conclude]
  split
  · exact hplanned.trans (publish _ m _)
  · exact hplanned

theorem land (flight : Flight) : Changes p (p.land flight) := by
  unfold Probe.land
  split
  · exact conclude p _ _
  · exact refl p

theorem concludeAll : Changes p p.concludeAll := by
  rw [concludeAll_eq]
  exact List.foldlRecOn (motive := Changes p) p.landing Probe.land (of (.takeIn p))
    fun q hq flight _ => hq.trans (land q flight)

theorem resume : Changes p p.resume :=
  (planned p p.clock p.scheduler.wake.1 p.scheduler.wake.2).trans (planned _ _ _ _)

theorem stop : Changes p p.stop :=
  planned p p.clock _ _

theorem settle : Changes p p.settle :=
  ((resume p).trans (concludeAll _)).trans (stop _)

theorem raise (reason : Text) : Changes p (p.raise reason) :=
  of (.plan p p.clock _)

theorem run : Changes p p.run := by
  unfold Probe.run
  split
  · exact of (.attempt p _)
  · rename_i clock s effects _
    exact (of (.attempt p (p.runs ++ [true]))).trans (planned _ clock s effects)

theorem rung (alarm : Time.Alarm) : Changes p (p.rung alarm) := by
  simp only [Probe.rung]
  have hrung : Changes p
      { p with
        flights := p.flights.map (·.ring alarm p.clock)
        scheduler :=
          { p.scheduler with signal := p.scheduler.signal.ring alarm p.clock.now } } :=
    (of (.ring p alarm)).trans (of (.plan _ p.clock _))
  exact List.foldlRecOn (motive := Changes p) _ _ hrung fun q hq flights _ =>
    hq.trans (of (.abort q flights.2.method))

theorem ring (alarm : Time.Alarm) : Changes p (p.ring alarm) := by
  rw [ring_eq]
  exact (rung p alarm).trans (settle _)

end Changes

/-- No change makes a probe throw something without a text. -/
theorem Speaks.change {p q : Probe} (hchange : Change p q) (h : p.Speaks) : q.Speaks := by
  cases hchange with
  | perform e => exact h.perform e
  | ring alarm => exact ⟨h.publisherFault_eq, h.transport, h.ring alarm⟩
  | takeIn =>
    refine ⟨h.publisherFault_eq, h.transport, fun flight hflight => ?_⟩
    obtain ⟨flight', hflight', rfl⟩ := List.mem_map.mp (List.mem_of_mem_filter hflight)
    exact (h.flights flight' hflight').settle p.clock
  | _ => exact ⟨h.publisherFault_eq, h.transport, h.flights⟩

end Probe

end NodeProbe
