import NodeProbe.Proofs.Fetch.Payload

/-!
# What happens to a call under way

Time goes on with or without ringing, and once a call was aborted the other side may come to
anything (`Incident`). A call is over when the alarm has rung that rings first
(`Attempt.endsAt_foldl_meet`), and then it stays as it is, whatever happens later (`Race.IsOver`).
-/

namespace NodeProbe

/-! ## What is decided -/

namespace Race

/-- The outcome is fixed, the timeout is disarmed, and at these times the call was aborted. -/
structure IsOver (outcome : Except Fault Outcome) (aborts : List Rat) (r : Race) : Prop where
  outcome : r.outcome = some outcome
  timeout : r.timeout = none
  aborts : r.aborts = aborts

namespace IsOver

variable {outcome : Except Fault Outcome} {aborts : List Rat} {r : Race}

theorem of_conclude (h : r.outcome = none) (clock : Time.Clock) (verdict : Except Fault Verdict) :
    (r.conclude clock verdict).IsOver
      (verdict.map fun v => ⟨r.method, v, Decimal.ofRat (clock.elapsedSince r.started)⟩)
      r.aborts := by
  unfold conclude
  rw [h]
  exact ⟨rfl, rfl, rfl⟩

theorem answer (h : r.IsOver outcome aborts) (clock : Time.Clock) (s : Settlement) :
    (r.answer clock s).IsOver outcome aborts := by
  have houtcome : ({ r with awaited := none } : Race).outcome = some outcome := h.outcome
  rw [Race.answer, conclude_of_outcome houtcome]
  exact ⟨h.outcome, rfl, h.aborts⟩

theorem settle (h : r.IsOver outcome aborts) (clock : Time.Clock) :
    (r.settle clock).IsOver outcome aborts := by
  unfold Race.settle
  split
  · exact h.answer clock _
  · exact h.answer clock _
  · exact h

/-- To abort a call that is over changes nothing but that. -/
theorem abort (h : r.IsOver outcome aborts) (clock : Time.Clock) :
    (r.abort clock).IsOver outcome (aborts ++ [clock.now]) := by
  have haborted : IsOver outcome (aborts ++ [clock.now])
      { r with aborts := r.aborts ++ [clock.now] } := ⟨h.outcome, h.timeout, by rw [h.aborts]⟩
  simp only [Race.abort]
  split
  · exact haborted.answer clock _
  · exact haborted

theorem ring (h : r.IsOver outcome aborts) (alarm : Time.Alarm) (clock : Time.Clock) :
    (r.ring alarm clock).IsOver outcome aborts := by
  unfold Race.ring
  rw [if_neg (by simp [h.timeout])]
  split
  · split
    · exact h.answer clock _
    · exact h
  · exact h

theorem of_answer (h : r.outcome = none) (clock : Time.Clock) (s : Settlement) :
    (r.answer clock s).IsOver
      ((Verdict.ofSettlement r.method s).map fun v =>
        ⟨r.method, v, Decimal.ofRat (clock.elapsedSince r.started)⟩) r.aborts :=
  of_conclude (r := { r with awaited := none }) h clock _

/-- The timeout rings, and the call is aborted behind that. -/
theorem of_ring_timeout {alarm : Time.Alarm} (houtcome : r.outcome = none) (haborts : r.aborts = [])
    (htimeout : r.timeout = some alarm) (clock : Time.Clock) :
    ((r.ring alarm clock).settle clock).IsOver
      (.ok ⟨r.method, .ofTimeout r.method r.limit, Decimal.ofRat (clock.elapsedSince r.started)⟩)
      [clock.now] := by
  have hconclude := of_conclude houtcome clock (.ok (.ofTimeout r.method r.limit))
  rw [haborts] at hconclude
  unfold Race.ring
  rw [if_pos htimeout]
  exact (hconclude.abort clock).settle clock

theorem of_ring_own {own : Time.Alarm} {s : Settlement} (houtcome : r.outcome = none)
    (haborts : r.aborts = []) (htimeout : r.timeout ≠ some own)
    (hawaited : r.awaited = some (.alarmed own s)) (clock : Time.Clock) :
    ((r.ring own clock).settle clock).IsOver
      ((Verdict.ofSettlement r.method s).map fun v =>
        ⟨r.method, v, Decimal.ofRat (clock.elapsedSince r.started)⟩) [] := by
  have hanswer := of_answer houtcome clock s
  rw [haborts] at hanswer
  unfold Race.ring
  rw [if_neg htimeout, hawaited]
  simp only [if_true]
  exact hanswer.settle clock

end IsOver

end Race

/-! ## What happens to a call -/

/-- What may happen to a call under way. -/
inductive Incident where
  | advance (ms : Rat)
  /-- Time goes on without ringing. -/
  | stall (ms : Rat)
  /-- The other side comes to something because the call was aborted. -/
  | reacts (s : Settlement)

/-- When an alarm rings that is due at this time: at the first advance that reaches it. -/
def Incident.ringsAt? (due : Rat) (now : Rat) : List Incident → Option Rat
  | [] => none
  | .advance ms :: rest =>
    if due ≤ Time.sum now ms then some (Time.later now due)
    else ringsAt? due (Time.sum now ms) rest
  | .stall ms :: rest => ringsAt? due (Time.sum now ms) rest
  | .reacts _ :: rest => ringsAt? due now rest

/-- When an alarm with this delay rings. -/
def Incident.ringsAfter? (delay : Option Rat) (now : Rat) (incidents : List Incident) :
    Option Rat :=
  delay.bind fun d => ringsAt? (Time.sum now d) now incidents

open Incident (ringsAt? ringsAfter?)

namespace Attempt

/-- Something happens. Nothing comes of an abort before the call is aborted. -/
def meet (a : Attempt) : Incident → Attempt
  | .advance ms => Time.Timed.advance a ms
  | .stall ms => Time.Timed.stall a ms
  | .reacts s => if a.race.aborts = [] then a else { a with race := a.race.answer a.clock s }

section Over

variable {outcome : Except Fault Outcome} {aborts : List Rat} {a : Attempt}

theorem isOver_advanceTo (h : a.race.IsOver outcome aborts) (target : Rat) (fuel : Nat) :
    (Time.Timed.advanceTo target fuel a).race.IsOver outcome aborts := by
  induction fuel generalizing a with
  | zero => exact h
  | succ fuel ih =>
    unfold Time.Timed.advanceTo
    split
    · exact ih ((h.ring _ _).settle _)
    · exact h

theorem isOver_meet (h : a.race.IsOver outcome aborts) (incident : Incident) :
    (a.meet incident).race.IsOver outcome aborts := by
  cases incident with
  | advance ms => exact isOver_advanceTo h _ _
  | stall ms => exact h
  | reacts s =>
    simp only [meet]
    split
    · exact h
    · exact h.answer a.clock s

/-- A call that is over stays as it is, whatever happens. -/
theorem isOver_foldl_meet (h : a.race.IsOver outcome aborts) (incidents : List Incident) :
    (incidents.foldl meet a).race.IsOver outcome aborts := by
  induction incidents generalizing a with
  | nil => exact h
  | cons incident rest ih => exact ih (isOver_meet h incident)

end Over

/-! ## Which alarm rings -/

/-- A call comes to an outcome at this time, if it comes to one. -/
structure EndsAt (outcome : Rat → Except Fault Outcome) (aborts : Rat → List Rat)
    (time : Option Rat) (a : Attempt) : Prop where
  outcome : a.race.outcome = time.map outcome
  aborts : a.race.aborts = (time.map aborts).getD []
  timeout : time.isSome → a.race.timeout = none

variable {outcome : Rat → Except Fault Outcome} {aborts : Rat → List Rat} {r : Race}
  {alarm : Time.Alarm}

theorem EndsAt.of_isOver {a : Attempt} {time : Rat}
    (h : a.race.IsOver (outcome time) (aborts time)) : EndsAt outcome aborts (some time) a :=
  ⟨h.outcome, h.aborts, fun _ => h.timeout⟩

theorem next?_of_earliest (hfirst : Time.Alarm.earliest r.alarms = some alarm) (clock : Time.Clock)
    (target : Rat) : Time.Timed.next? (Attempt.mk clock r) target =
      alarm.due.bind fun due => if due ≤ target then some (alarm, due) else none := by
  have hearliest : Time.Alarm.earliest (Time.Timed.alarms (Attempt.mk clock r)) = some alarm :=
    hfirst
  unfold Time.Timed.next?
  rw [hearliest]
  cases hdue : alarm.due <;> simp only [hdue] <;> rfl

theorem advance_of_not_due (hfirst : Time.Alarm.earliest r.alarms = some alarm)
    (clock : Time.Clock) (ms : Rat)
    (hdue : ∀ due, alarm.due = some due → ¬ due ≤ Time.sum clock.now ms) :
    Time.Timed.advance (Attempt.mk clock r) ms =
      ⟨{ clock with now := Time.sum clock.now ms }, r⟩ := by
  have hnext : Time.Timed.next? (Attempt.mk clock r) (Time.sum clock.now ms) = none := by
    rw [next?_of_earliest hfirst]
    cases halarm : alarm.due with
    | none => rfl
    | some due => exact if_neg (hdue due halarm)
  show Time.Timed.advanceTo (Time.sum clock.now ms) r.alarms.length (Attempt.mk clock r) = _
  cases r.alarms.length with
  | zero => rfl
  | succ fuel =>
    rw [Time.Timed.advanceTo, hnext]
    rfl

theorem advance_of_due (hfirst : Time.Alarm.earliest r.alarms = some alarm) (clock : Time.Clock)
    {ms due : Rat} (halarm : alarm.due = some due) (hdue : due ≤ Time.sum clock.now ms) :
    ∃ fuel, Time.Timed.advance (Attempt.mk clock r) ms =
      Time.Timed.advanceTo (Time.sum clock.now ms) fuel (Time.Timed.ring
        (Attempt.mk { clock with now := Time.later clock.now due } r) alarm) := by
  have hnext :
      Time.Timed.next? (Attempt.mk clock r) (Time.sum clock.now ms) = some (alarm, due) := by
    rw [next?_of_earliest hfirst, halarm]
    exact if_pos hdue
  cases halarms : r.alarms with
  | nil =>
    rw [halarms] at hfirst
    cases hfirst
  | cons first rest =>
    refine ⟨rest.length, ?_⟩
    show Time.Timed.advanceTo (Time.sum clock.now ms) r.alarms.length (Attempt.mk clock r) = _
    rw [halarms, List.length_cons, Time.Timed.advanceTo, hnext]
    rfl

/-- The alarm that rings first ends the call. -/
theorem endsAt_foldl_meet (outcome : Rat → Except Fault Outcome) (aborts : Rat → List Rat)
    (clock : Time.Clock) (hfirst : Time.Alarm.earliest r.alarms = some alarm)
    (houtcome : r.outcome = none) (haborts : r.aborts = [])
    (hring : ∀ later : Time.Clock, later.started = clock.started →
      ((r.ring alarm later).settle later).IsOver (outcome later.now) (aborts later.now))
    (incidents : List Incident) :
    EndsAt outcome aborts (alarm.due.bind fun due => ringsAt? due clock.now incidents)
      (incidents.foldl meet ⟨clock, r⟩) := by
  induction incidents generalizing clock with
  | nil =>
    have hnever : (alarm.due.bind fun due => ringsAt? due clock.now []) = none := by
      cases alarm.due <;> rfl
    rw [hnever]
    exact ⟨houtcome, haborts, fun h => (by cases h)⟩
  | cons incident rest ih =>
    cases incident with
    | advance ms =>
      by_cases hdue : ∃ due, alarm.due = some due ∧ due ≤ Time.sum clock.now ms
      · obtain ⟨due, halarm, hdue⟩ := hdue
        obtain ⟨fuel, hadvance⟩ := advance_of_due hfirst clock halarm hdue
        rw [halarm, Option.bind_some, ringsAt?, if_pos hdue, List.foldl_cons, meet, hadvance]
        have hrung := hring { clock with now := Time.later clock.now due } rfl
        exact .of_isOver (isOver_foldl_meet (isOver_advanceTo hrung _ _) rest)
      · have hnot : ∀ due, alarm.due = some due → ¬ due ≤ Time.sum clock.now ms :=
          fun due halarm hle => hdue ⟨due, halarm, hle⟩
        have hlater : (alarm.due.bind fun due => ringsAt? due clock.now (.advance ms :: rest)) =
            alarm.due.bind fun due => ringsAt? due (Time.sum clock.now ms) rest := by
          cases halarm : alarm.due with
          | none => rfl
          | some due => exact if_neg (hnot due halarm)
        rw [hlater, List.foldl_cons, meet, advance_of_not_due hfirst clock ms hnot]
        exact ih { clock with now := Time.sum clock.now ms } hring
    | stall ms => exact ih { clock with now := Time.sum clock.now ms } hring
    | reacts s =>
      rw [List.foldl_cons, meet, if_pos haborts]
      exact ih clock hring

end Attempt

end NodeProbe
