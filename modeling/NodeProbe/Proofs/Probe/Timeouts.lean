import NodeProbe.Proofs.Probe.Change

/-!
# The timeouts of calls

Every call that a probe makes runs against an alarm that is armed when the call is made, and as long
as the call has no outcome nothing disarms it (`Race.IsTimed`). So the alarm of a call under way is
due one timeout after the call was made, which the journal has noted (`Probe.Timed`), and everything
that a step of a probe consists of leaves it at that (`Timed.of_changes`).
-/

namespace NodeProbe

open Scheduler

/-! ## Races -/

namespace Race

/-- While the call has no outcome an alarm is armed that is due one timeout after its start. -/
def IsTimed (limit : Float) (r : Race) : Prop :=
  r.outcome = none → ∃ alarm, r.timeout = some alarm ∧
    alarm.due = (Time.delayOf limit).map (Time.sum r.started)

variable {limit : Float} {r : Race}

theorem isTimed_of_isSome (h : r.outcome.isSome = true) : r.IsTimed limit := by
  intro hnone
  rw [hnone] at h
  cases h

theorem launch_eq (clock : Time.Clock) (m : Method) (limit : Float) (reply : Reply) :
    (launch clock m limit reply).2.timeout = some (clock.arm (Time.delayOf limit)).2 ∧
      (launch clock m limit reply).2.started = clock.now ∧
      (launch clock m limit reply).2.method = m := by
  cases reply <;> exact ⟨rfl, rfl, rfl⟩

theorem isTimed_launch (clock : Time.Clock) (m : Method) (limit : Float) (reply : Reply) :
    (launch clock m limit reply).2.IsTimed limit := by
  obtain ⟨htimeout, hstarted, -⟩ := launch_eq clock m limit reply
  intro _
  refine ⟨_, htimeout, ?_⟩
  rw [hstarted]
  rfl

variable (r) (clock : Time.Clock)

theorem isSome_outcome_conclude (verdict : Except Fault Verdict) :
    (r.conclude clock verdict).outcome.isSome = true := by
  unfold conclude
  split
  · rename_i heq
    simp only [heq, Option.isSome_some]
  · rfl

theorem started_conclude (verdict : Except Fault Verdict) :
    (r.conclude clock verdict).started = r.started := by
  unfold conclude
  split <;> rfl

theorem isSome_outcome_abort (h : r.outcome.isSome = true) :
    (r.abort clock).outcome.isSome = true := by
  simp only [abort]
  split
  · exact isSome_outcome_conclude _ _ _
  · exact h

theorem started_abort : (r.abort clock).started = r.started := by
  simp only [abort]
  split
  · exact started_conclude _ _ _
  · rfl

theorem started_settle : (r.settle clock).started = r.started := by
  unfold settle
  split
  · exact started_conclude _ _ _
  · exact started_conclude _ _ _
  · rfl

theorem started_ring (alarm : Time.Alarm) : (r.ring alarm clock).started = r.started := by
  unfold ring
  split
  · rw [started_abort, started_conclude]
  · split
    · split
      · exact started_conclude _ _ _
      · rfl
    · rfl

variable {r}

theorem IsTimed.settle (h : r.IsTimed limit) : (r.settle clock).IsTimed limit := by
  unfold Race.settle
  split
  · exact isTimed_of_isSome (isSome_outcome_conclude _ _ _)
  · exact isTimed_of_isSome (isSome_outcome_conclude _ _ _)
  · exact h

/-- An alarm that rings ends the call or leaves it alone. -/
theorem IsTimed.ring (h : r.IsTimed limit) (alarm : Time.Alarm) :
    (r.ring alarm clock).IsTimed limit := by
  unfold Race.ring
  split
  · exact isTimed_of_isSome (isSome_outcome_abort _ _ (isSome_outcome_conclude _ _ _))
  · split
    · split
      · exact isTimed_of_isSome (isSome_outcome_conclude _ _ _)
      · exact h
    · exact h

end Race

/-! ## Flights -/

namespace Transport

/-- The timeout of the calls that are made. -/
def limit? : Transport → Option Float
  | answers limit _ => some limit
  | node limit _ _ _ => some limit
  | outcomes _ => none

/-- A call that is made races against the timeout. -/
theorem exists_call_eq {t : Transport} {limit : Float} (h : t.limit? = some limit)
    (clock : Time.Clock) (m : Method) :
    (t.call clock m).1.limit? = some limit ∧ ∃ reply,
      (t.call clock m).2.2.1 = .race (Race.launch clock m limit reply).2 := by
  cases t with
  | answers limit' lines =>
    cases h
    exact ⟨rfl, _, rfl⟩
  | node limit' client files exchange =>
    cases h
    simp only [call]
    split
    · exact ⟨rfl, _, rfl⟩
    · exact ⟨rfl, _, rfl⟩
  | outcomes lines => cases h

end Transport

/-- What the journal notes about a call that is made. -/
def Race.record (r : Race) : Record :=
  ⟨r.started, some r.method, .called⟩

theorem Race.record_settle (r : Race) (clock : Time.Clock) :
    (r.settle clock).record = r.record := by
  have hmethod : (r.settle clock).method = r.method := (Flight.race r).method_settle clock
  rw [record, started_settle, hmethod]
  rfl

theorem Race.record_ring (r : Race) (clock : Time.Clock) (alarm : Time.Alarm) :
    (r.ring alarm clock).record = r.record := by
  have hmethod : (r.ring alarm clock).method = r.method := (Flight.race r).method_ring clock alarm
  rw [record, started_ring, hmethod]
  rfl

/-- The flight is a race against the timeout, and the journal has noted its start. -/
def Flight.IsTimed (limit : Float) (journal : List Record) : Flight → Prop
  | race r => r.IsTimed limit ∧ r.record ∈ journal
  | prepared _ _ _ => False

namespace Flight.IsTimed

variable {limit : Float} {journal journal' : List Record} {flight : Flight}

theorem mono (h : flight.IsTimed limit journal) (hsubset : journal ⊆ journal') :
    flight.IsTimed limit journal' := by
  cases flight with
  | race r => exact ⟨h.1, hsubset h.2⟩
  | prepared m alarm result => exact h

variable (clock : Time.Clock)

theorem settle (h : flight.IsTimed limit journal) :
    (flight.settle clock).IsTimed limit journal := by
  cases flight with
  | race r =>
    refine ⟨h.1.settle clock, ?_⟩
    rw [Race.record_settle]
    exact h.2
  | prepared m alarm result => exact h

theorem ring (h : flight.IsTimed limit journal) (alarm : Time.Alarm) :
    (flight.ring alarm clock).IsTimed limit journal := by
  cases flight with
  | race r =>
    refine ⟨h.1.ring clock alarm, ?_⟩
    rw [Race.record_ring]
    exact h.2
  | prepared m own result => exact h

end Flight.IsTimed

/-! ## Probes -/

/-- Every call is made with this timeout, and those under way run against it. -/
structure Probe.Timed (limit : Float) (p : Probe) : Prop where
  transport : p.transport.limit? = some limit
  flights : ∀ flight ∈ p.flights, flight.IsTimed limit p.journal

namespace Probe.Timed

variable {limit : Float} {p q : Probe}

theorem note (h : p.Timed limit) (m : Option Method) (what : Happening) :
    (p.note m what).Timed limit :=
  ⟨h.transport, fun flight hflight => (h.flights flight hflight).mono (List.subset_cons_self _ _)⟩

theorem perform (h : p.Timed limit) (e : Effect) : (p.perform e).Timed limit := by
  cases e with
  | call m =>
    obtain ⟨htransport, reply, hflight⟩ := Transport.exists_call_eq h.transport p.clock m
    have hnoted := h.note (some m) .called
    refine ⟨htransport, fun flight hmem => ?_⟩
    rcases List.mem_append.mp hmem with hmem | hmem
    · exact hnoted.flights flight hmem
    · obtain ⟨-, hstarted, hmethod⟩ := Race.launch_eq p.clock m limit reply
      rw [List.mem_singleton.mp hmem]
      refine hflight ▸ ⟨Race.isTimed_launch _ _ _ _, ?_⟩
      rw [Race.record, hstarted, hmethod]
      exact List.mem_cons_self
  | record m what =>
    have hnoted := h.note (some m) (.recorded what)
    simp only [Probe.perform, Probe.record]
    split
    · exact hnoted
    · exact ⟨hnoted.transport, hnoted.flights⟩
  | print notice => exact h.note _ _

theorem change (hchange : Change p q) (h : p.Timed limit) : q.Timed limit := by
  cases hchange with
  | perform e => exact h.perform e
  | deliver m message => exact h.note _ _
  | abort m => exact h.note _ _
  | ring alarm =>
    refine ⟨h.transport, fun flight hflight => ?_⟩
    obtain ⟨flight', hflight', rfl⟩ := List.mem_map.mp hflight
    exact (h.flights flight' hflight').ring p.clock alarm
  | takeIn =>
    refine ⟨h.transport, fun flight hflight => ?_⟩
    obtain ⟨flight', hflight', rfl⟩ := List.mem_map.mp (List.mem_of_mem_filter hflight)
    exact (h.flights flight' hflight').settle p.clock
  | _ => exact ⟨h.transport, h.flights⟩

/-- Whatever a step consists of leaves the timeouts armed. -/
theorem of_changes (hchanges : Changes p q) (h : p.Timed limit) : q.Timed limit :=
  hchanges.preserves change h

theorem respond (h : p.Timed limit) (m : Method) (replies : List Reply) :
    (p.respond m replies).Timed limit := by
  obtain ⟨htransport, hflights⟩ := h
  unfold Probe.respond
  split
  · rename_i limit' lines heq
    rw [heq] at htransport
    exact ⟨htransport, hflights⟩
  · exact ⟨htransport, hflights⟩

end Probe.Timed

end NodeProbe
