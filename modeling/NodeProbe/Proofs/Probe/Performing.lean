import NodeProbe.Probe.Basic
import NodeProbe.Proofs.Publishing
import NodeProbe.Proofs.Scheduler.Calls

/-!
# What a probe does for its scheduler

Doing what the scheduler asks changes neither the scheduler nor the bus. Each call that is made is
one more flight, and whatever is asked about a call is in the journal, in order; the journal of the
whole program may hold more than that. A probe that makes its calls itself throws nothing without a
text (`Probe.Speaks`).
-/

namespace NodeProbe

open Scheduler

/-! ## Flights -/

namespace Race

variable (r : Race) (clock : Time.Clock)

@[simp] theorem method_conclude (verdict : Except Fault Verdict) :
    (r.conclude clock verdict).method = r.method := by
  unfold conclude
  split <;> rfl

@[simp] theorem method_answer (s : Settlement) : (r.answer clock s).method = r.method :=
  method_conclude _ _ _

@[simp] theorem method_abort : (r.abort clock).method = r.method := by
  simp only [abort]
  split
  · exact method_answer _ _ _
  · rfl

end Race

namespace Flight

variable (flight : Flight) (clock : Time.Clock)

@[simp] theorem method_settle : (flight.settle clock).method = flight.method := by
  cases flight with
  | race r =>
    show (r.settle clock).method = r.method
    unfold Race.settle
    split
    · exact r.method_answer clock _
    · exact r.method_answer clock _
    · rfl
  | prepared m alarm result => rfl

@[simp] theorem method_ring (alarm : Time.Alarm) :
    (flight.ring alarm clock).method = flight.method := by
  cases flight with
  | race r =>
    show (r.ring alarm clock).method = r.method
    unfold Race.ring
    split
    · rw [Race.method_abort, Race.method_conclude]
    · split
      · split
        · exact r.method_answer clock _
        · rfl
      · rfl
  | prepared m own result => rfl

end Flight

/-- A call takes off as a flight of its own. -/
theorem Transport.method_call (t : Transport) (clock : Time.Clock) (m : Method) :
    (t.call clock m).2.2.1.method = m := by
  unfold call
  split
  · rfl
  · split <;> rfl
  · split <;> rfl

/-! ## What flights throw -/

/-- If the call ends with a fault, that has a text. -/
def Race.IsReadable (r : Race) : Prop :=
  ∀ fault, r.outcome = some (.error fault) → fault.isReadable = true

/-- If the fetching throws, it throws something with a text. -/
theorem Verdict.isReadable_of_ofSettlement {m : Method} {s : Settlement} {fault : Fault}
    (h : ofSettlement m s = .error fault) : fault.isReadable = true := by
  cases s with
  | ok v => cases h
  | error fault' =>
    rw [ofSettlement] at h
    cases hmessage : fault'.message with
    | ok text =>
      rw [hmessage] at h
      cases h
    | error fault'' =>
      rw [hmessage] at h
      cases h
      exact Fault.isReadable_of_message_eq_error hmessage

theorem Race.isReadable_launch (clock : Time.Clock) (m : Method) (limit : Float) (reply : Reply) :
    (launch clock m limit reply).2.IsReadable := by
  intro fault hfault
  cases reply <;> cases hfault

namespace Race.IsReadable

variable {r : Race} (clock : Time.Clock)

theorem conclude (h : r.IsReadable) {verdict : Except Fault Verdict}
    (hverdict : ∀ fault, verdict = .error fault → fault.isReadable = true) :
    (r.conclude clock verdict).IsReadable := by
  intro fault hfault
  unfold Race.conclude at hfault
  split at hfault
  · exact h fault hfault
  · cases verdict with
    | ok v => cases hfault
    | error fault' =>
      cases hfault
      exact hverdict _ rfl

theorem answer (h : r.IsReadable) (s : Settlement) : (r.answer clock s).IsReadable :=
  conclude (r := { r with awaited := none }) clock h fun _ => Verdict.isReadable_of_ofSettlement

theorem settle (h : r.IsReadable) : (r.settle clock).IsReadable := by
  unfold Race.settle
  split
  · exact h.answer clock _
  · exact h.answer clock _
  · exact h

theorem abort (h : r.IsReadable) : (r.abort clock).IsReadable := by
  have haborted : Race.IsReadable { r with aborts := r.aborts ++ [clock.now] } := h
  simp only [Race.abort]
  split
  · exact haborted.answer clock _
  · exact haborted

theorem ring (h : r.IsReadable) (alarm : Time.Alarm) : (r.ring alarm clock).IsReadable := by
  unfold Race.ring
  split
  · exact (h.conclude clock (by simp)).abort clock
  · split
    · split
      · exact h.answer clock _
      · exact h
    · exact h

end Race.IsReadable

/-- If the call ends with a fault, that has a text. -/
def Flight.IsReadable : Flight → Prop
  | race r => r.IsReadable
  | prepared _ _ result => ∀ fault, result = .error fault → fault.isReadable = true

namespace Flight.IsReadable

variable {flight : Flight} (clock : Time.Clock)

theorem of_result (h : flight.IsReadable) {fault : Fault}
    (hresult : flight.result? = some (.error fault)) : fault.isReadable = true := by
  cases flight with
  | race r => exact h fault hresult
  | prepared m alarm result =>
    cases alarm with
    | none => exact h fault (Option.some.inj hresult)
    | some alarm => cases hresult

theorem settle (h : flight.IsReadable) : (flight.settle clock).IsReadable := by
  cases flight with
  | race r => exact Race.IsReadable.settle clock h
  | prepared m alarm result => exact h

theorem ring (h : flight.IsReadable) (alarm : Time.Alarm) :
    (flight.ring alarm clock).IsReadable := by
  cases flight with
  | race r => exact Race.IsReadable.ring clock h alarm
  | prepared m own result => exact h

end Flight.IsReadable

namespace Transport

/-- Calls are made, and it is not their outcomes that are prepared. -/
def MakesCalls : Transport → Prop
  | outcomes _ => False
  | _ => True

theorem MakesCalls.call {t : Transport} (h : t.MakesCalls) (clock : Time.Clock) (m : Method) :
    (t.call clock m).1.MakesCalls ∧ (t.call clock m).2.2.1.IsReadable := by
  cases t with
  | answers limit lines => exact ⟨trivial, Race.isReadable_launch _ _ _ _⟩
  | node limit client files exchange =>
    simp only [Transport.call]
    split
    · exact ⟨trivial, Race.isReadable_launch _ _ _ _⟩
    · exact ⟨trivial, Race.isReadable_launch _ _ _ _⟩
  | outcomes lines => exact absurd h id

end Transport

/-! ## The journal -/

/-- What an effect leaves in the journal about its call. -/
def Scheduler.Effect.trace? : Effect → Option (Method × Happening)
  | call m => some (m, .called)
  | record m what => some (m, .recorded what)
  | print notice => notice.about.map (·, .printed notice.line)

/-- A scheduler may have asked for this. -/
def Happening.isAsked : Happening → Bool
  | called | recorded _ | printed _ => true
  | _ => false

/-- What a scheduler asked for about a call, if the entry says so. -/
def Record.trace? (r : Record) : Option (Method × Happening) :=
  if r.what.isAsked then r.method.map (·, r.what) else none

namespace Probe

/-- What the scheduler has asked for about calls, the last entry in front. -/
def traces (p : Probe) : List (Method × Happening) :=
  p.journal.filterMap (·.trace?)

variable (p : Probe)

theorem traces_note (m : Option Method) {what : Happening} (hwhat : what.isAsked = true) :
    (p.note m what).traces = (m.map (·, what)).toList ++ p.traces := by
  rw [traces, note, List.filterMap_cons, Record.trace?, if_pos hwhat]
  cases m <;> rfl

theorem traces_note_of_not_isAsked (m : Option Method) {what : Happening}
    (hwhat : what.isAsked = false) : (p.note m what).traces = p.traces := by
  rw [traces, note, List.filterMap_cons, Record.trace?, hwhat]
  rfl

theorem traces_perform (e : Effect) : (p.perform e).traces = e.trace?.toList ++ p.traces := by
  cases e with
  | call m => exact p.traces_note (some m) rfl
  | record m what =>
    simp only [perform, record]
    split <;> exact p.traces_note (some m) rfl
  | print notice => exact p.traces_note notice.about rfl

theorem flights_perform (e : Effect) :
    (p.perform e).flights.map (·.method) = p.flights.map (·.method) ++ e.callee?.toList := by
  cases e with
  | call m =>
    simp only [perform, call, note, List.map_append, List.map_singleton, Transport.method_call]
    rfl
  | record m what =>
    simp only [perform, record]
    split <;> simp [note]
  | print notice => simp [perform, note]

/-! ## All that is asked -/

/-- An effect leaves the scheduler, the bus and the publisher as they are. -/
theorem exists_perform_eq (e : Effect) :
    ∃ clock transport flights registry journal requests, p.perform e =
      { p with clock, transport, flights, registry, journal, requests } := by
  cases e with
  | call m => exact ⟨_, _, _, _, _, _, rfl⟩
  | record m what =>
    simp only [perform, record]
    split
    · exact ⟨_, _, _, _, _, _, rfl⟩
    · exact ⟨_, _, _, _, _, _, rfl⟩
  | print notice => exact ⟨_, _, _, _, _, _, rfl⟩

theorem exists_foldl_perform_eq (effects : List Effect) :
    ∃ clock transport flights registry journal requests, effects.foldl perform p =
      { p with clock, transport, flights, registry, journal, requests } := by
  induction effects generalizing p with
  | nil => exact ⟨_, _, _, _, _, _, rfl⟩
  | cons e effects ih =>
    obtain ⟨_, _, _, _, _, _, hhead⟩ := p.exists_perform_eq e
    obtain ⟨_, _, _, _, _, _, htail⟩ := ih (p.perform e)
    rw [List.foldl_cons, htail, hhead]
    exact ⟨_, _, _, _, _, _, rfl⟩

variable (effects : List Effect)

@[simp] theorem scheduler_foldl_perform : (effects.foldl perform p).scheduler = p.scheduler := by
  obtain ⟨_, _, _, _, _, _, h⟩ := p.exists_foldl_perform_eq effects
  rw [h]

@[simp] theorem base_foldl_perform : (effects.foldl perform p).base = p.base := by
  obtain ⟨_, _, _, _, _, _, h⟩ := p.exists_foldl_perform_eq effects
  rw [h]

@[simp] theorem bus_foldl_perform : (effects.foldl perform p).bus = p.bus := by
  obtain ⟨_, _, _, _, _, _, h⟩ := p.exists_foldl_perform_eq effects
  rw [h]

@[simp] theorem publisherFault_foldl_perform :
    (effects.foldl perform p).publisherFault = p.publisherFault := by
  obtain ⟨_, _, _, _, _, _, h⟩ := p.exists_foldl_perform_eq effects
  rw [h]

theorem traces_foldl_perform :
    (effects.foldl perform p).traces = (effects.filterMap Effect.trace?).reverse ++ p.traces := by
  induction effects generalizing p with
  | nil => rfl
  | cons e effects ih =>
    rw [List.foldl_cons, ih, traces_perform, List.filterMap_cons]
    cases e.trace? <;> simp

theorem flights_foldl_perform :
    (effects.foldl perform p).flights.map (·.method) =
      p.flights.map (·.method) ++ effects.filterMap Effect.callee? := by
  induction effects generalizing p with
  | nil => simp
  | cons e effects ih =>
    rw [List.foldl_cons, ih, flights_perform, List.filterMap_cons]
    cases e.callee? <;> simp

/-- Nothing without a text is thrown: the publisher is whole, and calls are made. -/
structure Speaks (p : Probe) : Prop where
  publisherFault_eq : p.publisherFault = none
  transport : p.transport.MakesCalls
  flights : ∀ flight ∈ p.flights, flight.IsReadable

variable {p}

theorem Speaks.perform (h : p.Speaks) (e : Effect) : (p.perform e).Speaks := by
  cases e with
  | call m =>
    obtain ⟨htransport, hflight⟩ := h.transport.call p.clock m
    refine ⟨h.publisherFault_eq, htransport, fun flight hmem => ?_⟩
    rcases List.mem_append.mp hmem with hmem | hmem
    · exact h.flights flight hmem
    · rw [List.mem_singleton] at hmem
      exact hmem ▸ hflight
  | record m what =>
    simp only [Probe.perform, record]
    split
    · exact ⟨h.publisherFault_eq, h.transport, h.flights⟩
    · exact ⟨h.publisherFault_eq, h.transport, h.flights⟩
  | print notice => exact ⟨h.publisherFault_eq, h.transport, h.flights⟩

/-- The scheduler moves on, and what it asks for is done. -/
theorem Speaks.planned (h : p.Speaks) (clock : Time.Clock) (s : Scheduler)
    (effects : List Effect) :
    Speaks (effects.foldl Probe.perform { p with clock, scheduler := s }) :=
  List.foldlRecOn (motive := Speaks) effects Probe.perform
    ⟨h.publisherFault_eq, h.transport, h.flights⟩ fun _ hq e _ => hq.perform e

end Probe

end NodeProbe
