import NodeProbe.Proofs.Course.Tally
import NodeProbe.Proofs.Probe.Performing

/-!
# A probe runs a course

Whatever is done to a probe, in whatever order, there are moves whose course is where the probe is:
the same scheduler, the same messages, the same journal as far as calls go, and one extraction for
each flight (`Reachable.exists_course`). So what holds in every course holds of every probe. A probe
publishes a result as soon as it has it; the course does the same in two moves.
-/

namespace NodeProbe

open Scheduler

/-- What moving the clock and ringing preserve, the passing of time preserves. -/
theorem Time.Timed.advance_induction {World : Type} [Time.Timed World] {P : World → Prop}
    (hmove : ∀ w time, P w → P (moveTo w time)) (hring : ∀ w alarm, P w → P (ring w alarm))
    {w : World} (h : P w) (ms : Rat) : P (advance w ms) := by
  show P (advanceTo (Time.sum (now w) ms) (bound w (Time.sum (now w) ms)) w)
  generalize Time.sum (now w) ms = target
  generalize bound w target = fuel
  induction fuel generalizing w with
  | zero => exact hmove _ _ h
  | succ fuel ih =>
    unfold advanceTo
    split
    · exact ih (hring _ _ (hmove _ _ h))
    · exact hmove _ _ h

/-- What the scheduler has asked for about calls, the last entry in front. -/
def Course.traces (c : Course) : List (Method × Happening) :=
  c.log.flatMap fun episode => (episode.effects.filterMap Effect.trace?).reverse

/-- The course is where the probe is while these calls are waiting for their outcomes. -/
structure Probe.Follows (p : Probe) (waiting : List Method) (c : Course) : Prop where
  scheduler_eq : c.scheduler = p.scheduler
  base_eq : c.base = p.base
  delivered_eq : c.bus.delivered = p.bus.delivered
  traces_eq : c.traces = p.traces
  extractions : c.extractions.Perm (waiting.map .fetching)

namespace Probe

/-- The calls whose flights are not over. -/
def waiting (p : Probe) : List Method :=
  p.flights.map (·.method)

namespace Follows

variable {p : Probe} {calls rest : List Method} {c : Course}

theorem perm (h : p.Follows calls c) (hperm : calls.Perm rest) : p.Follows rest c :=
  { h with extractions := h.extractions.trans (hperm.map _) }

/-- The scheduler moves on, and nothing else does. -/
theorem moved (h : p.Follows calls c) {q : Probe} (hbase : q.base = p.base) (hbus : q.bus = p.bus)
    (htraces : q.traces = p.traces) : q.Follows calls { c with scheduler := q.scheduler } :=
  ⟨rfl, h.base_eq.trans hbase.symm, h.delivered_eq.trans (congrArg Bus.delivered hbus.symm),
    h.traces_eq.trans htraces.symm, h.extractions⟩

/-- A step in which no call is made and none ends. -/
theorem quietly (h : p.Follows calls { c with scheduler := p.scheduler })
    (effects : List Effect) :
    (effects.foldl perform p).Follows calls (c.quietly p.scheduler effects) where
  scheduler_eq := (p.scheduler_foldl_perform effects).symm
  base_eq := h.base_eq.trans (p.base_foldl_perform effects).symm
  delivered_eq := h.delivered_eq.trans (congrArg Bus.delivered (p.bus_foldl_perform effects).symm)
  traces_eq := by
    rw [traces_foldl_perform, ← h.traces_eq]
    rfl
  extractions := h.extractions

/-- A tick, whether it counts or not. -/
theorem ticked (h : p.Follows calls { c with scheduler := p.scheduler }) :
    (c.scheduler.tick.2.1.foldl perform p).Follows
      (calls ++ c.scheduler.tick.2.1.filterMap Effect.callee?) (c.ticked p.scheduler) := by
  cases hclosed : c.scheduler.isClosed with
  | true =>
    rw [Course.ticked_of_isClosed hclosed, tick_of_isClosed hclosed, List.filterMap_nil,
      List.append_nil]
    exact h.quietly []
  | false =>
    rw [Course.ticked_of_not_isClosed hclosed, tick_of_not_isClosed hclosed]
    refine ⟨(scheduler_foldl_perform _ _).symm, h.base_eq.trans (base_foldl_perform _ _).symm,
      h.delivered_eq.trans (congrArg Bus.delivered (bus_foldl_perform _ _).symm), ?_, ?_⟩
    · rw [traces_foldl_perform, ← h.traces_eq]
      rfl
    · rw [List.map_append, turns, tickSlots_callees]
      exact h.extractions.append_right _

end Follows

/-! ## Calls that are over -/

/-- What the bus, or the publisher, is going to answer. -/
def answer (p : Probe) (m : Method) : Except Fault (Option Fault) :=
  match p.publisherFault with
  | some fault => .error fault
  | none => .ok (p.bus.refusal (subjectOf p.base m.name))

/-- Publishing is the offer of an event to the bus, and then what the scheduler makes of it. -/
theorem exists_publish_eq (p : Probe) (m : Method) (payload : Bytes) {bus : Bus}
    (hbus : bus.delivered = p.bus.delivered) :
    ∃ q : Probe, q.base = p.base ∧ q.traces = p.traces ∧ q.flights = p.flights ∧
      q.publisherFault = p.publisherFault ∧
      q.bus.delivered = ((p.event m payload).offer p.base bus (p.answer m)).1.delivered ∧
      p.publish m payload =
        (p.scheduler.published m ((p.event m payload).offer p.base bus (p.answer m)).2).2.foldl
          perform
          { q with scheduler :=
              (p.scheduler.published m
                ((p.event m payload).offer p.base bus (p.answer m)).2).1 } := by
  cases hfault : p.publisherFault with
  | some fault =>
    have hanswer : p.answer m = .error fault := by rw [answer, hfault]
    rw [publish, hfault, hanswer]
    exact ⟨p, rfl, rfl, rfl, hfault, hbus.symm, rfl⟩
  | none =>
    have hanswer : p.answer m = .ok (p.bus.refusal (subjectOf p.base m.name)) := by
      rw [answer, hfault]
    have hrefusal : p.bus.refusal (subjectOf p.base (p.event m payload).method) =
        (bus.setRefusal (p.bus.refusal (subjectOf p.base m.name))).refusal
          (subjectOf p.base (p.event m payload).method) := rfl
    obtain ⟨hresult, hdelivered⟩ := Event.publish_congr hrefusal hbus.symm
    rw [hanswer, Event.offer, ← hresult, ← hdelivered, publish, hfault]
    cases (p.event m payload).publish p.base p.bus with
    | mk bus' result =>
      simp only
      split
      · rename_i message _
        exact ⟨({ p with bus := bus', publisherFault := none }).note m (.published message), rfl,
          traces_note_of_not_isAsked _ _ rfl, rfl, rfl, rfl, rfl⟩
      · exact ⟨{ p with bus := bus', publisherFault := none }, rfl, rfl, rfl, rfl, rfl, rfl⟩

theorem waiting_publish (p : Probe) (m : Method) (payload : Bytes) :
    (p.publish m payload).waiting = p.waiting := by
  obtain ⟨q, -, -, hflights, -, -, heq⟩ := p.exists_publish_eq m payload rfl
  rw [heq, waiting, flights_foldl_perform, callees_of_reports (reports_published _ _ _),
    List.append_nil]
  exact congrArg _ hflights

theorem waiting_conclude (p : Probe) (m : Method) (result : Except Fault Outcome) :
    (p.conclude m result).waiting = p.waiting := by
  have hreports : waiting ((p.scheduler.fetched m result).2.1.foldl perform
      { p with scheduler := (p.scheduler.fetched m result).1 }) = p.waiting := by
    rw [waiting, flights_foldl_perform, callees_of_reports (reports_fetched _ _ _),
      List.append_nil]
    rfl
  simp only [conclude]
  split
  · rw [waiting_publish, hreports]
  · exact hreports

theorem publisherFault_publish (p : Probe) (m : Method) (payload : Bytes) :
    (p.publish m payload).publisherFault = p.publisherFault := by
  obtain ⟨q, -, -, -, hfault, -, heq⟩ := p.exists_publish_eq m payload rfl
  rw [heq, publisherFault_foldl_perform]
  exact hfault

theorem publisherFault_conclude (p : Probe) (m : Method) (result : Except Fault Outcome) :
    (p.conclude m result).publisherFault = p.publisherFault := by
  simp only [conclude]
  split
  · rw [publisherFault_publish, publisherFault_foldl_perform]
  · rw [publisherFault_foldl_perform]

namespace Follows

variable {p : Probe} {rest : List Method} {c : Course} {m : Method}

theorem published {number : Nat} {payload : Bytes}
    (h : p.Follows rest { c with extractions := c.extractions.eraseIdx number }) :
    (p.publish m payload).Follows rest
      (c.published number m (p.event m payload) (p.answer m)) := by
  have hscheduler : c.scheduler = p.scheduler := h.scheduler_eq
  have hbase : c.base = p.base := h.base_eq
  obtain ⟨q, hqbase, hqtraces, -, -, hdelivered, heq⟩ :=
    p.exists_publish_eq m payload h.delivered_eq
  rw [← hbase, ← hscheduler] at heq
  rw [← hbase] at hdelivered
  rw [heq]
  refine ⟨?_, ?_, ?_, ?_, h.extractions⟩
  · rw [scheduler_foldl_perform]
    rfl
  · rw [base_foldl_perform]
    exact hbase.trans hqbase.symm
  · rw [bus_foldl_perform]
    exact hdelivered.symm
  · rw [traces_foldl_perform]
    exact congrArg _ (h.traces_eq.trans hqtraces.symm)

/-- What a call came to is taken in by two moves at most. -/
theorem conclude (h : p.Follows (m :: rest) c) (result : Except Fault Outcome) :
    ∃ moves, (p.publisherFault = none →
        (∀ fault, result = .error fault → fault.isReadable = true) →
          ∀ move ∈ moves, move.isReadable = true) ∧
      (p.conclude m result).Follows rest (c.run moves) := by
  have hscheduler := h.scheduler_eq
  have hmem : .fetching m ∈ c.extractions := h.extractions.mem_iff.mpr List.mem_cons_self
  obtain ⟨number, hget⟩ := List.getElem?_of_mem hmem
  have herase : (c.extractions.eraseIdx number).Perm (rest.map .fetching) :=
    h.extractions.eraseIdx_of_getElem?_eq (n := 0) hget
  -- The probe when it has done what the scheduler asked, and before it publishes anything.
  generalize hp : (p.scheduler.fetched m result).2.1.foldl perform
    { p with scheduler := (p.scheduler.fetched m result).1 } = q
  have hq : q.Follows rest
      { c with
        scheduler := (c.scheduler.fetched m result).1
        extractions := c.extractions.eraseIdx number
        log := .fetched m result (c.scheduler.fetched m result).2.1 :: c.log } := by
    rw [← hp, hscheduler]
    refine ⟨?_, ?_, ?_, ?_, herase⟩
    · rw [scheduler_foldl_perform]
    · rw [base_foldl_perform]
      exact h.base_eq
    · rw [bus_foldl_perform]
      exact h.delivered_eq
    · rw [traces_foldl_perform]
      exact congrArg _ h.traces_eq
  cases hpayload : (c.scheduler.fetched m result).2.2 with
  | none =>
    refine ⟨[.fetched number result 0], fun _ hresult =>
      List.forall_mem_singleton.mpr (Move.isReadable_fetched hresult _ _), ?_⟩
    have hconclude : p.conclude m result = q := by
      rw [hscheduler] at hpayload
      simp only [Probe.conclude, hpayload, hp]
    rw [hconclude, Course.run, List.foldl_cons, List.foldl_nil, Course.after, hget]
    simp only
    rwa [Course.fetched_of_payload_eq_none hpayload]
  | some payload =>
    have hanswer : p.publisherFault = none →
        (Move.published number (q.answer m)).isReadable = true := by
      intro hfault
      rw [← hp, answer, publisherFault_foldl_perform]
      simp only [hfault]
      rfl
    refine ⟨[.fetched number result q.clock.now, .published number (q.answer m)],
      fun hfault hresult => List.forall_mem_cons.mpr ⟨Move.isReadable_fetched hresult _ _,
        List.forall_mem_singleton.mpr (hanswer hfault)⟩, ?_⟩
    have hconclude : p.conclude m result = q.publish m payload := by
      rw [hscheduler] at hpayload
      simp only [Probe.conclude, hpayload, hp]
    have hwaits : (c.fetched number m result q.clock.now).extractions =
        c.extractions.set number (.publishing m (q.event m payload)) := by
      rw [Course.fetched_of_payload_eq_some hpayload]
      rfl
    have hget' : (c.fetched number m result q.clock.now).extractions[number]? =
        some (.publishing m (q.event m payload)) := by
      rw [hwaits]
      exact List.getElem?_set_self (List.getElem?_eq_some_iff.mp hget).1
    rw [hconclude, Course.run, List.foldl_cons, List.foldl_cons, List.foldl_nil, Course.after, hget]
    simp only
    rw [Course.after, hget']
    refine published ?_
    rw [hwaits, List.eraseIdx_set_eq, Course.fetched_of_payload_eq_some hpayload]
    exact hq

end Follows

/-- What the call of a flight came to is taken in, if it is over. -/
def land (p : Probe) (flight : Flight) : Probe :=
  match flight.result? with
  | some result => p.conclude flight.method result
  | none => p

theorem waiting_foldl_land (p : Probe) (flights : List Flight) :
    (flights.foldl land p).waiting = p.waiting := by
  induction flights generalizing p with
  | nil => rfl
  | cons flight flights ih =>
    rw [List.foldl_cons, ih, land]
    split
    · exact waiting_conclude _ _ _
    · rfl

/-- The flights in the order in which they are taken in. -/
def landing (p : Probe) : List Flight :=
  ((p.flights.partition (·.isRefused)).1 ++ (p.flights.partition (·.isRefused)).2).map
    (·.settle p.clock)

/-- The flights that are not over. -/
def flying (p : Probe) : List Flight :=
  (p.flights.map (·.settle p.clock)).filter (·.result?.isNone)

theorem concludeAll_eq (p : Probe) :
    p.concludeAll = p.landing.foldl land { p with flights := p.flying } := rfl

/-- Each flight either is taken in or goes on. -/
theorem waiting_perm (p : Probe) :
    p.waiting.Perm
      ((p.landing.filter (·.result?.isSome)).map (·.method) ++ p.flying.map (·.method)) := by
  have hlanding : p.landing.Perm (p.flights.map (·.settle p.clock)) := by
    rw [landing, List.partition_eq_filter_filter]
    exact (List.filter_append_perm _ _).map _
  have hwaiting : p.waiting = (p.flights.map (·.settle p.clock)).map (·.method) := by
    rw [waiting, List.map_map]
    exact List.map_congr_left fun flight _ => (flight.method_settle p.clock).symm
  rw [hwaiting, ← List.map_append]
  refine List.Perm.map _ (List.Perm.symm ?_)
  refine ((hlanding.filter _).append_right _).trans ?_
  simpa [flying] using List.filter_append_perm (fun flight : Flight => flight.result?.isSome)
    (p.flights.map (·.settle p.clock))

namespace Speaks

variable {p : Probe}

theorem landing (h : p.Speaks) : ∀ flight ∈ p.landing, flight.IsReadable := by
  intro flight hflight
  rw [Probe.landing, List.partition_eq_filter_filter] at hflight
  obtain ⟨flight', hflight', rfl⟩ := List.mem_map.mp hflight
  have hmem : flight' ∈ p.flights := by
    rcases List.mem_append.mp hflight' with hmem | hmem
    · exact List.mem_of_mem_filter hmem
    · exact List.mem_of_mem_filter hmem
  exact (h.flights flight' hmem).settle p.clock

theorem ring (h : p.Speaks) (alarm : Time.Alarm) :
    ∀ flight ∈ p.flights.map (·.ring alarm p.clock), flight.IsReadable := by
  intro flight hflight
  obtain ⟨flight', hflight', rfl⟩ := List.mem_map.mp hflight
  exact (h.flights flight' hflight').ring p.clock alarm

theorem resume (h : p.Speaks) : p.resume.Speaks :=
  (h.planned p.clock _ _).planned _ _ _

end Speaks

namespace Follows

variable {p : Probe} {rest : List Method} {c : Course}

theorem foldl_land {flights : List Flight}
    (h : p.Follows ((flights.filter (·.result?.isSome)).map (·.method) ++ rest) c) :
    ∃ moves, (p.publisherFault = none → (∀ flight ∈ flights, flight.IsReadable) →
        ∀ move ∈ moves, move.isReadable = true) ∧
      (flights.foldl land p).Follows rest (c.run moves) := by
  induction flights generalizing p c with
  | nil => exact ⟨[], fun _ _ => List.forall_mem_nil _, h⟩
  | cons flight flights ih =>
    rw [List.foldl_cons, land]
    cases hresult : flight.result? with
    | none =>
      rw [List.filter_cons_of_neg (by simp [hresult])] at h
      obtain ⟨moves, hreadable, hrest⟩ := ih h
      exact ⟨moves, fun hfault hflights => hreadable hfault (List.forall_mem_cons.mp hflights).2,
        hrest⟩
    | some result =>
      rw [List.filter_cons_of_pos (by simp [hresult]), List.map_cons, List.cons_append] at h
      obtain ⟨moves, hreadable, hconclude⟩ := h.conclude result
      obtain ⟨moves', hreadable', hrest⟩ := ih hconclude
      refine ⟨moves ++ moves', fun hfault hflights => ?_, by rwa [Course.run_append]⟩
      obtain ⟨hflight, hflights⟩ := List.forall_mem_cons.mp hflights
      refine List.forall_mem_append.mpr ⟨hreadable hfault fun fault heq => ?_,
        hreadable' ((publisherFault_conclude _ _ _).trans hfault) hflights⟩
      exact hflight.of_result (hresult.trans (congrArg some heq))

theorem concludeAll (h : p.Follows p.waiting c) :
    ∃ moves, (p.Speaks → ∀ move ∈ moves, move.isReadable = true) ∧
      p.concludeAll.Follows p.concludeAll.waiting (c.run moves) := by
  have hsplit := h.perm p.waiting_perm
  have hflying : Follows { p with flights := p.flying } _ c :=
    ⟨hsplit.scheduler_eq, hsplit.base_eq, hsplit.delivered_eq, hsplit.traces_eq,
      hsplit.extractions⟩
  rw [concludeAll_eq, waiting_foldl_land]
  obtain ⟨moves, hreadable, hlanded⟩ := hflying.foldl_land
  exact ⟨moves, fun hspeaks => hreadable hspeaks.publisherFault_eq hspeaks.landing, hlanded⟩

/-- A step that makes no call. -/
theorem remarked (h : p.Follows p.waiting { c with scheduler := p.scheduler })
    {effects : List Effect} (hremarks : ∀ e ∈ effects, e.IsRemark) :
    (effects.foldl perform p).Follows (effects.foldl perform p).waiting
      (c.quietly p.scheduler effects) := by
  have hwaiting : (effects.foldl perform p).waiting = p.waiting := by
    rw [waiting, flights_foldl_perform, callees_of_remarks hremarks, List.append_nil]
    rfl
  rw [hwaiting]
  exact h.quietly effects

/-- A tick of the loop or from outside. -/
theorem beaten (h : p.Follows p.waiting { c with scheduler := p.scheduler }) :
    (c.scheduler.tick.2.1.foldl perform p).Follows (c.scheduler.tick.2.1.foldl perform p).waiting
      (c.ticked p.scheduler) := by
  have hwaiting := flights_foldl_perform p c.scheduler.tick.2.1
  rw [waiting, hwaiting]
  exact h.ticked

theorem tick (h : p.Follows p.waiting c) : p.tick.1.Follows p.tick.1.waiting (c.after .tick) := by
  have hnext : Follows { p with scheduler := p.scheduler.tick.1 } p.waiting
      { c with scheduler := p.scheduler.tick.1 } :=
    h.moved rfl rfl rfl
  have hbeaten := beaten hnext
  rw [h.scheduler_eq] at hbeaten
  rw [Course.after, h.scheduler_eq]
  exact hbeaten

theorem stop (h : p.Follows p.waiting c) : p.stop.Follows p.stop.waiting (c.after .stop) := by
  have hnext : Follows { p with scheduler := p.scheduler.stop.1 } p.waiting
      { c with scheduler := p.scheduler.stop.1 } :=
    h.moved rfl rfl rfl
  rw [Course.after, h.scheduler_eq]
  exact remarked hnext (remarks_stop p.scheduler)

theorem run (h : p.Follows p.waiting c) :
    p.run.Follows p.run.waiting (c.after (.run p.clock)) := by
  rw [Course.after, h.scheduler_eq, Probe.run]
  cases hrun : p.scheduler.run p.clock with
  | error fault =>
    exact ⟨h.scheduler_eq, h.base_eq, h.delivered_eq, h.traces_eq, h.extractions⟩
  | ok r =>
    obtain ⟨clock, s, effects⟩ := r
    have hnext : Follows { p with clock, scheduler := s, runs := p.runs ++ [true] } p.waiting
        { c with scheduler := s } :=
      h.moved rfl rfl rfl
    exact remarked hnext (run_eq_ok hrun).2.2

/-- The loop goes on at the time at which its tick has made its calls. -/
theorem resume (h : p.Follows p.waiting c) :
    ∃ clock, p.resume.Follows p.resume.waiting (c.after (.resume clock)) := by
  have hnext : Follows { p with scheduler := p.scheduler.wake.1 } p.waiting
      { c with scheduler := p.scheduler.wake.1 } :=
    h.moved rfl rfl rfl
  generalize hq : p.scheduler.wake.2.foldl perform { p with scheduler := p.scheduler.wake.1 } = q
  have hwoken : q.Follows q.waiting
      (if c.scheduler.isRoused then c.ticked c.scheduler.wake.1
        else c.quietly c.scheduler.wake.1 c.scheduler.wake.2) := by
    rw [h.scheduler_eq, ← hq]
    cases hroused : p.scheduler.isRoused with
    | true =>
      obtain ⟨deadline, hwake⟩ := wake_of_isRoused hroused
      rw [if_pos rfl]
      have heffects : p.scheduler.wake.2 = c.scheduler.tick.2.1 := by
        rw [hwake, effects_beat, h.scheduler_eq]
      rw [heffects]
      exact beaten hnext
    | false =>
      rw [if_neg Bool.false_ne_true]
      refine remarked hnext ?_
      rcases wake_of_not_isRoused hroused with hwake | hwake
      · rw [hwake]
        exact remarks_windDown _
      · rw [hwake]
        simp
  refine ⟨q.clock, ?_⟩
  generalize hc : (if c.scheduler.isRoused then c.ticked c.scheduler.wake.1
    else c.quietly c.scheduler.wake.1 c.scheduler.wake.2) = c' at hwoken
  have hafter : c.after (.resume q.clock) =
      c'.quietly (c'.scheduler.goOn q.clock).2.1 (c'.scheduler.goOn q.clock).2.2 := by
    rw [← hc]
    rfl
  have hresume : p.resume = (q.scheduler.goOn q.clock).2.2.foldl perform
      { q with clock := (q.scheduler.goOn q.clock).1
               scheduler := (q.scheduler.goOn q.clock).2.1 } := by
    rw [← hq]
    rfl
  have hgoOn : Follows
      { q with clock := (q.scheduler.goOn q.clock).1
               scheduler := (q.scheduler.goOn q.clock).2.1 } q.waiting
      { c' with scheduler := (q.scheduler.goOn q.clock).2.1 } :=
    hwoken.moved rfl rfl rfl
  rw [hafter, hresume, hwoken.scheduler_eq]
  exact remarked hgoOn (remarks_goOn _ _)

theorem settle (h : p.Follows p.waiting c) :
    ∃ moves, (p.Speaks → ∀ move ∈ moves, move.isReadable = true) ∧
      p.settle.Follows p.settle.waiting (c.run moves) := by
  obtain ⟨clock, hresumed⟩ := h.resume
  obtain ⟨moves, hreadable, hconcluded⟩ := hresumed.concludeAll
  refine ⟨.resume clock :: (moves ++ [.stop]), fun hspeaks => ?_, ?_⟩
  · exact List.forall_mem_cons.mpr ⟨rfl, List.forall_mem_append.mpr
      ⟨hreadable hspeaks.resume, List.forall_mem_singleton.mpr rfl⟩⟩
  rw [Course.run, List.foldl_cons, ← Course.run, Course.run_append]
  exact hconcluded.stop

theorem drain (h : p.Follows p.waiting c) : p.drain.Follows p.drain.waiting (c.after .drain) := by
  have hnext : Follows p.drain p.waiting { c with scheduler := p.drain.scheduler } :=
    h.moved rfl rfl rfl
  rw [Course.after, h.scheduler_eq]
  exact hnext.quietly []

theorem raise (h : p.Follows p.waiting c) (reason : Text) :
    (p.raise reason).Follows (p.raise reason).waiting
      (c.after (.raise reason p.clock.now)) := by
  have hnext : Follows (p.raise reason) p.waiting
      { c with scheduler := (p.raise reason).scheduler } :=
    h.moved rfl rfl rfl
  rw [Course.after, h.scheduler_eq]
  exact hnext.quietly []

end Follows

theorem exists_foldl_aborted_eq (p : Probe) (aborted : List (Flight × Flight)) :
    ∃ journal, aborted.foldl (fun p (_, flight) => p.note flight.method .aborted) p =
        { p with journal } ∧
      Probe.traces { p with journal } = p.traces := by
  induction aborted generalizing p with
  | nil => exact ⟨p.journal, rfl, rfl⟩
  | cons flights aborted ih =>
    obtain ⟨journal, heq, htraces⟩ := ih (p.note flights.2.method .aborted)
    exact ⟨journal, heq, htraces⟩

namespace Follows

variable {p : Probe} {c : Course}

/-- An alarm rings for the signal and for the flights, and then everything follows that can. -/
theorem ring (h : p.Follows p.waiting c) (alarm : Time.Alarm) :
    ∃ moves, (p.Speaks → ∀ move ∈ moves, move.isReadable = true) ∧
      (p.ring alarm).Follows (p.ring alarm).waiting (c.run moves) := by
  simp only [Probe.ring]
  obtain ⟨journal, haborted, htraces⟩ := exists_foldl_aborted_eq
    { p with
      flights := p.flights.map (·.ring alarm p.clock)
      scheduler :=
        { p.scheduler with signal := p.scheduler.signal.ring alarm p.clock.now } }
    ((p.flights.zip (p.flights.map (·.ring alarm p.clock))).filter fun (old, new) =>
      old.abortCount < new.abortCount)
  have hwaiting : (p.flights.map (·.ring alarm p.clock)).map (·.method) = p.waiting := by
    rw [waiting, List.map_map]
    exact List.map_congr_left fun flight _ => flight.method_ring p.clock alarm
  rw [haborted]
  generalize hq : Probe.mk _ _ _ _ _ _ _ _ journal _ _ = q at htraces ⊢
  have hnext : q.Follows p.waiting { c with scheduler := q.scheduler } := by
    subst hq
    exact h.moved rfl rfl htraces
  have hrung : q.Follows q.waiting (c.after (.ring alarm p.clock.now)) := by
    rw [Course.after, h.scheduler_eq]
    subst hq
    rw [waiting, hwaiting]
    exact hnext.quietly []
  obtain ⟨moves, hreadable, hsettled⟩ := hrung.settle
  refine ⟨.ring alarm p.clock.now :: moves, fun hspeaks => ?_, hsettled⟩
  refine List.forall_mem_cons.mpr ⟨rfl, hreadable ?_⟩
  subst hq
  exact ⟨hspeaks.publisherFault_eq, hspeaks.transport, hspeaks.ring alarm⟩

end Follows

/-! ## All that can be done to a probe -/

/-- What can be done to a probe, and what can happen around it. -/
inductive Step : Probe → Probe → Prop
  | tick (p : Probe) : Step p p.tick.1
  | run (p : Probe) : Step p p.run
  | settle (p : Probe) : Step p p.settle
  | drain (p : Probe) : Step p p.drain
  | raise (p : Probe) (reason : Text) : Step p (p.raise reason)
  | ring (p : Probe) (alarm : Time.Alarm) : Step p (p.ring alarm)
  | moveTo (p : Probe) (time : Rat) : Step p (Time.Timed.moveTo p time)
  | respond (p : Probe) (m : Method) (replies : List Reply) : Step p (p.respond m replies)
  | setBus (p : Probe) (fault : Option Fault) : Step p (p.setBus fault)
  /-- Something happens to the program as a whole. -/
  | note (p : Probe) (what : Happening) : Step p (p.note none what)
  /-- The metrics are read or shut down. -/
  | setRegistry (p : Probe) (registry : Metrics.Registry) : Step p { p with registry }

/-- What can come of a scheduler and a world around it to which nothing has happened yet. -/
inductive Reachable (catalog : Catalog) (interval : Interval) (broken : List Part)
    (base : Option Text) : Probe → Prop
  | initial {p : Probe} (hscheduler : p.scheduler = fresh catalog interval broken)
      (hbase : p.base = base) (hflights : p.flights = []) (hbus : p.bus.delivered = [])
      (htraces : p.traces = []) : Reachable catalog interval broken base p
  | step {p p' : Probe} (h : Reachable catalog interval broken base p) (hstep : Step p p') :
      Reachable catalog interval broken base p'

/-- What happens to the program as a whole is not about a call. -/
theorem traces_note_none (p : Probe) (what : Happening) : (p.note none what).traces = p.traces := by
  cases hwhat : what.isAsked with
  | true => exact p.traces_note none hwhat
  | false => exact p.traces_note_of_not_isAsked none hwhat

/-- Whatever is done to a probe, there are moves that lead to the same. -/
theorem Follows.step {p p' : Probe} {c : Course} (h : p.Follows p.waiting c) (hstep : Step p p') :
    ∃ moves, p'.Follows p'.waiting (c.run moves) := by
  cases hstep with
  | tick => exact ⟨[.tick], h.tick⟩
  | run => exact ⟨[.run p.clock], h.run⟩
  | settle =>
    obtain ⟨moves, -, hsettled⟩ := h.settle
    exact ⟨moves, hsettled⟩
  | drain => exact ⟨[.drain], h.drain⟩
  | raise reason => exact ⟨[.raise reason p.clock.now], h.raise reason⟩
  | ring alarm =>
    obtain ⟨moves, -, hrung⟩ := h.ring alarm
    exact ⟨moves, hrung⟩
  | moveTo time => exact ⟨[], h.1, h.2, h.3, h.4, h.5⟩
  | respond m replies =>
    refine ⟨[], ?_⟩
    unfold respond
    split
    · exact ⟨h.1, h.2, h.3, h.4, h.5⟩
    · exact h
  | setBus fault => exact ⟨[], h.1, h.2, h.3, h.4, h.5⟩
  | note what => exact ⟨[], h.1, h.2, h.3, h.4.trans (p.traces_note_none what).symm, h.5⟩
  | setRegistry registry => exact ⟨[], h.1, h.2, h.3, h.4, h.5⟩

namespace Reachable

variable {catalog : Catalog} {interval : Interval} {broken : List Part} {base : Option Text}
  {p : Probe}

/-- A probe that is built around a new scheduler. -/
theorem of_new {ms : Float} {s : Scheduler} (h : Scheduler.new catalog ms broken = .ok s)
    (transport : Transport) (time : Rat) :
    ∃ interval, Reachable catalog interval broken base (Probe.new s transport base time) := by
  obtain ⟨interval, -, rfl⟩ := new_eq_ok_iff.mp h
  exact ⟨interval, .initial rfl rfl rfl rfl rfl⟩

/-- **A probe runs a course.** -/
theorem exists_course (h : Reachable catalog interval broken base p) :
    ∃ moves, p.Follows p.waiting (Course.of catalog interval broken base moves) := by
  induction h with
  | initial hscheduler hbase hflights hbus htraces =>
    refine ⟨[], hscheduler.symm, hbase.symm, hbus.symm, htraces.symm, ?_⟩
    rw [waiting, hflights]
    exact .nil
  | step _ hstep ih =>
    obtain ⟨moves, hfollows⟩ := ih
    obtain ⟨moves', hnext⟩ := hfollows.step hstep
    refine ⟨moves ++ moves', ?_⟩
    rwa [Course.of, Course.run_append]

/-- Time goes on in steps. -/
theorem advance (h : Reachable catalog interval broken base p) (ms : Rat) :
    Reachable catalog interval broken base (Time.Timed.advance p ms) :=
  Time.Timed.advance_induction (fun p time h => h.step (.moveTo p time))
    (fun p alarm h => h.step (.ring p alarm)) h ms

/-- No two flights of a probe are of the same call, and the scheduler lists them all. -/
theorem nodup_waiting (h : Reachable catalog interval broken base p) :
    p.waiting.Nodup ∧ p.scheduler.inFlight.Perm (p.waiting.map (·, .fetching)) := by
  obtain ⟨moves, hfollows⟩ := h.exists_course
  have hsound := Course.sound_of catalog interval broken base moves
  have hflight := hsound.inFlight_eq
  rw [hfollows.scheduler_eq] at hflight
  have hentries := hfollows.extractions.map Extraction.entry
  rw [List.map_map] at hentries
  refine ⟨?_, hflight ▸ hentries⟩
  have hbusy := hfollows.extractions.map Extraction.method
  rw [List.map_map] at hbusy
  exact (List.map_id p.waiting ▸ hbusy.nodup_iff).mp hsound.nodup

end Reachable

/-! ## What has been counted -/

theorem countP_traces (c : Course) (fits : Method × Happening → Bool) :
    c.traces.countP fits = c.effects.countP fun e => (e.trace?.map fits).getD false := by
  rw [Course.traces, Course.effects, List.countP_flatMap, List.countP_flatMap]
  congr 1
  refine List.map_congr_left fun episode _ => ?_
  rw [Function.comp_apply, List.countP_reverse, List.countP_filterMap]
  rfl

namespace Follows

variable {p : Probe} {calls : List Method} {c : Course}

/-- What the journal counts about a call can be counted in the course. -/
theorem countOf_eq (h : p.Follows calls c) (m : Method) {fits : Happening → Bool}
    {counts : Effect → Bool} (hfits : ∀ what, fits what = true → what.isAsked = true)
    (hcounts : ∀ e : Effect, counts e = (e.trace?.map fun x => x.1 = m && fits x.2).getD false) :
    p.countOf m fits = c.effects.countP counts := by
  have heffects : c.effects.countP counts = p.traces.countP fun x => x.1 = m && fits x.2 := by
    rw [← h.traces_eq, countP_traces]
    exact List.countP_congr fun e _ => by rw [hcounts]
  rw [heffects, traces, List.countP_filterMap, countOf, ← List.countP_eq_length_filter]
  refine List.countP_congr fun r _ => ?_
  unfold Record.trace?
  split
  · cases r.method <;> simp
  · rename_i hasked
    have hnot : fits r.what = false := by simpa using mt (hfits r.what) hasked
    simp [hnot]

theorem recordings_eq (h : p.Follows calls c) (hbroken : p.scheduler.broken = []) (m : Method)
    (part : Part) : p.recordings m part = c.effects.countP (Effect.records m part) := by
  rw [recordings, hbroken, if_neg (by simp)]
  refine h.countOf_eq m (fun what hwhat => ?_) fun e => ?_
  · cases what with
    | recorded _ => rfl
    | _ => cases hwhat
  · cases e with
    | print notice => cases habout : notice.about <;> simp [Effect.records, Effect.trace?, habout]
    | _ => simp [Effect.records, Effect.trace?]

/-- While the recorder is whole, a probe counts what the course counts. -/
theorem tally_eq (h : p.Follows calls c) (hbroken : p.scheduler.broken = []) (m : Method) :
    p.tally m =
      { calls := (c.tally m).dispatches
        durations := (c.tally m).durations
        errors := (c.tally m).errors
        publishErrors := (c.tally m).publishErrors
        skips := (c.tally m).skips
        messages := (c.tally m).messages } := by
  have hcalls : (p.tally m).calls = c.effects.countP (Effect.calls m) := by
    simp only [Probe.tally]
    refine h.countOf_eq m (fun what hwhat => ?_) fun e => ?_
    · cases what with
      | called => rfl
      | _ => cases hwhat
    · cases e with
      | print notice => cases habout : notice.about <;> simp [Effect.calls, Effect.trace?, habout]
      | _ => simp [Effect.calls, Effect.trace?]
  have hmessages : (p.tally m).messages = (c.tally m).messages := by
    simp only [Probe.tally, Course.tally, Bus.count, h.base_eq, h.delivered_eq]
  have hrecords := h.recordings_eq hbroken m
  simp only [Probe.tally, Course.tally] at hcalls hmessages ⊢
  rw [hcalls, hmessages, hrecords, hrecords, hrecords, hrecords]

end Follows

end Probe

end NodeProbe
