import NodeProbe.Proofs.Course.Shutdown
import NodeProbe.Proofs.Course.Waking
import NodeProbe.Proofs.Decimal.Nearest
import NodeProbe.Proofs.Probe.Timeouts

/-!
# How long a call can be under way

A call that is under way while no alarm is due was made less than one timeout ago, because its own
alarm would be due otherwise. So a timeout after the signal was raised no call is under way any
more, and the loop, which makes none behind the signal, has ended (`boundsAge`). All this is about
whatever can happen to a probe while its clock does not go back (`Onward`), whether alarms ring in
time or not.
-/

namespace NodeProbe

open Scheduler

theorem Time.Timed.due_le_of_next? {World : Type} [Time.Timed World] {w : World}
    {target due : Rat} {alarm : Time.Alarm} (h : next? w target = some (alarm, due)) :
    due ≤ target := by
  unfold next? at h
  split at h
  · split at h
    · split at h
      · cases h
        assumption
      · cases h
    · cases h
  · cases h

/-- A call that has just been made runs against its timeout, and has no outcome. -/
theorem Transport.result?_call {limit : Float} {journal : List Record} {t : Transport}
    {clock : Time.Clock} {m : Method} (h : (t.call clock m).2.2.1.IsTimed limit journal) :
    (t.call clock m).2.2.1.result? = none := by
  have hlaunched : ∀ limit reply, (Race.launch clock m limit reply).2.outcome = none := by
    intro limit reply
    cases reply <;> rfl
  cases t with
  | answers limit' lines => exact hlaunched _ _
  | node limit' client files exchange =>
    simp only [call]
    split
    · exact hlaunched _ _
    · exact hlaunched _ _
  | outcomes lines =>
    simp only [call] at h
    split at h
    · exact absurd h id
    · exact absurd h id
    · exact absurd h id

theorem Course.isRaised_run {c : Course} (h : c.scheduler.signal.isRaised = true)
    (moves : List Move) : (c.run moves).scheduler.signal.isRaised = true :=
  List.foldlRecOn (motive := (·.scheduler.signal.isRaised = true)) moves after h
    fun c hc move _ => by rw [isRaised_after, hc, Bool.true_or]

/-- A course that winds down asks for no call. -/
theorem Course.Winds.called_not_mem {c c' : Course} (h : Winds c c')
    {new : List (Method × Happening)} (htraces : c'.traces = new ++ c.traces) (m : Method) :
    (m, .called) ∉ new := by
  obtain ⟨entries, hlog, hlate⟩ := h.log
  have hnew : new = entries.flatMap fun episode =>
      (episode.effects.filterMap Effect.trace?).reverse := by
    rw [traces, hlog, List.flatMap_append] at htraces
    exact (List.append_cancel_right htraces).symm
  rw [hnew]
  intro hcalled
  obtain ⟨episode, hepisode, hcalled⟩ := List.mem_flatMap.mp hcalled
  obtain ⟨e, he, htrace⟩ := List.mem_filterMap.mp (List.mem_reverse.mp hcalled)
  cases e with
  | call m' =>
    cases htrace
    exact (hlate episode hepisode).not_call m he
  | record m' what => cases htrace
  | print notice =>
    obtain ⟨m', -, heq⟩ := Option.map_eq_some_iff.mp htrace
    cases heq

namespace Probe

/-! ## What happens at one time -/

/-- No time passes, and what is written into the journal has the time of the clock. -/
structure Notes (p q : Probe) : Prop where
  now_eq : q.clock.now = p.clock.now
  journal : ∃ new, q.journal = new ++ p.journal ∧ ∀ r ∈ new, r.time = q.clock.now

/-- Apart from that, calls are made. -/
structure Grows (p q : Probe) : Prop extends Notes p q where
  flights : ∀ flight ∈ q.flights, flight ∈ p.flights ∨
    ∃ (t : Transport) (clock : Time.Clock) (m : Method), flight = (t.call clock m).2.2.1

variable {p q r : Probe}

namespace Notes

theorem of_eq (hnow : q.clock.now = p.clock.now) (hjournal : q.journal = p.journal) :
    p.Notes q :=
  ⟨hnow, [], hjournal, List.forall_mem_nil _⟩

theorem trans (h : p.Notes q) (h' : q.Notes r) : p.Notes r := by
  obtain ⟨new, hjournal, hnew⟩ := h.journal
  obtain ⟨new', hjournal', hnew'⟩ := h'.journal
  refine ⟨h'.now_eq.trans h.now_eq, new' ++ new, ?_, ?_⟩
  · rw [hjournal', hjournal, List.append_assoc]
  · intro entry hentry
    rcases List.mem_append.mp hentry with hentry | hentry
    · exact hnew' entry hentry
    · exact (hnew entry hentry).trans h'.now_eq.symm

theorem note (p : Probe) (m : Option Method) (what : Happening) : p.Notes (p.note m what) :=
  ⟨rfl, [_], rfl, List.forall_mem_singleton.mpr rfl⟩

/-- An alarm rings, and the calls that it ends are aborted. -/
theorem rung (p : Probe) (alarm : Time.Alarm) : p.Notes (p.rung alarm) := by
  simp only [Probe.rung]
  exact List.foldlRecOn (motive := p.Notes) _ _ (of_eq rfl rfl) fun q hq flights _ =>
    hq.trans (note q _ _)

end Notes

namespace Grows

theorem of_eq (hnow : q.clock.now = p.clock.now) (hjournal : q.journal = p.journal)
    (hflights : q.flights = p.flights) : p.Grows q :=
  ⟨.of_eq hnow hjournal, fun _ h => .inl (hflights ▸ h)⟩

theorem trans (h : p.Grows q) (h' : q.Grows r) : p.Grows r := by
  refine ⟨h.toNotes.trans h'.toNotes, fun flight hflight => ?_⟩
  rcases h'.flights flight hflight with hflight | hmade
  · exact h.flights flight hflight
  · exact .inr hmade

theorem note (p : Probe) (m : Option Method) (what : Happening) : p.Grows (p.note m what) :=
  ⟨.note p m what, fun _ h => .inl h⟩

theorem perform (p : Probe) (e : Effect) : p.Grows (p.perform e) := by
  cases e with
  | call m =>
    have hnoted := Notes.note p (some m) .called
    refine ⟨⟨now_perform p (.call m), [_], rfl, ?_⟩, fun flight hflight => ?_⟩
    · exact List.forall_mem_singleton.mpr (now_perform p (.call m)).symm
    · rcases List.mem_append.mp hflight with hflight | hflight
      · exact .inl hflight
      · exact .inr ⟨_, _, _, List.mem_singleton.mp hflight⟩
  | record m what =>
    refine (note p (some m) (.recorded what)).trans ?_
    simp only [Probe.perform, Probe.record]
    split
    · exact of_eq rfl rfl rfl
    · exact of_eq rfl rfl rfl
  | print notice => exact note p _ _

theorem performed (p : Probe) (effects : List Effect) : p.Grows (effects.foldl Probe.perform p) :=
  List.foldlRecOn (motive := p.Grows) effects Probe.perform (of_eq rfl rfl rfl) fun q hq e _ =>
    hq.trans (perform q e)

/-- The scheduler moves on, and what it asks for is done. -/
theorem planned (h : p.Grows q) {clock : Time.Clock} (hclock : clock.now = q.clock.now)
    (s : Scheduler) (effects : List Effect) :
    p.Grows (effects.foldl Probe.perform { q with clock, scheduler := s }) := by
  have hplan : q.Grows { q with clock, scheduler := s } := of_eq hclock rfl rfl
  exact (h.trans hplan).trans (performed _ effects)

variable (p)

theorem publish (m : Method) (payload : Bytes) : p.Grows (p.publish m payload) := by
  unfold Probe.publish
  cases hfault : p.publisherFault with
  | some fault => exact planned (p := p) (q := p) (of_eq rfl rfl rfl) rfl _ _
  | none =>
    cases (p.event m payload).publish p.base p.bus with
    | mk bus result =>
      have hoffer : p.Grows { p with bus, publisherFault := none } := of_eq rfl rfl rfl
      simp only
      split
      · rename_i message _
        exact (hoffer.trans (note _ (some m) (.published message))).planned rfl _ _
      · exact hoffer.planned rfl _ _

theorem conclude (m : Method) (result : Except Fault Outcome) : p.Grows (p.conclude m result) := by
  have hplanned : p.Grows ((p.scheduler.fetched m result).2.1.foldl Probe.perform
      { p with scheduler := (p.scheduler.fetched m result).1 }) :=
    planned (of_eq rfl rfl rfl) rfl _ _
  simp only [Probe.conclude]
  split
  · exact hplanned.trans (publish _ m _)
  · exact hplanned

theorem concludeAll : Grows { p with flights := p.flying } p.concludeAll := by
  rw [concludeAll_eq]
  refine List.foldlRecOn (motive := Grows { p with flights := p.flying }) p.landing Probe.land
    (of_eq rfl rfl rfl) fun q hq flight _ => ?_
  unfold Probe.land
  split
  · exact hq.trans (conclude q _ _)
  · exact hq

theorem resume : p.Grows p.resume := by
  have hwoken : p.Grows (p.scheduler.wake.2.foldl Probe.perform
      { p with scheduler := p.scheduler.wake.1 }) :=
    planned (of_eq rfl rfl rfl) rfl _ _
  exact hwoken.planned (now_goOn _ _) _ _

theorem stop : p.Grows p.stop :=
  planned (of_eq rfl rfl rfl) rfl _ _

theorem tick : p.Grows p.tick.1 :=
  planned (of_eq rfl rfl rfl) rfl _ _

theorem run : p.Grows p.run := by
  unfold Probe.run
  split
  · exact of_eq rfl rfl rfl
  · rename_i clock s effects hrun
    have hattempt : p.Grows { p with runs := p.runs ++ [true] } := of_eq rfl rfl rfl
    refine hattempt.planned ?_ s effects
    unfold Scheduler.run at hrun
    split at hrun
    · cases hrun
      exact now_continueLoop _ _ _
    · cases hrun

end Grows

theorem Notes.settle (p : Probe) : p.Notes p.settle := by
  have hflying : p.resume.Notes { p.resume with flights := p.resume.flying } := .of_eq rfl rfl
  exact ((Grows.resume p).toNotes.trans hflying).trans
    ((Grows.concludeAll _).trans (Grows.stop _)).toNotes

theorem now_ring (p : Probe) (alarm : Time.Alarm) : (p.ring alarm).clock.now = p.clock.now := by
  rw [ring_eq, now_settle, (p.rung_eq alarm).1]

/-- Whatever a step writes into the journal has the time of the clock. -/
theorem Step.journal (h : Step p q) :
    ∃ new, q.journal = new ++ p.journal ∧ ∀ r ∈ new, r.time = q.clock.now := by
  cases h with
  | tick => exact (Grows.tick p).journal
  | run => exact (Grows.run p).journal
  | settle => exact (Notes.settle p).journal
  | ring alarm =>
    rw [ring_eq]
    exact ((Notes.rung p alarm).trans (.settle _)).journal
  | respond m replies =>
    unfold Probe.respond
    split
    · exact ⟨[], rfl, List.forall_mem_nil _⟩
    · exact ⟨[], rfl, List.forall_mem_nil _⟩
  | note what => exact (Notes.note p none what).journal
  | _ => exact ⟨[], rfl, List.forall_mem_nil _⟩

/-! ## Calls under way -/

theorem Timed.step {limit : Float} (h : p.Timed limit) (hstep : Step p q) : q.Timed limit := by
  cases hstep with
  | tick => exact of_changes (.planned p p.clock _ _) h
  | run => exact of_changes (.run p) h
  | settle => exact of_changes (.settle p) h
  | raise reason => exact of_changes (.raise p reason) h
  | ring alarm => exact of_changes (.ring p alarm) h
  | respond m replies => exact h.respond m replies
  | note what => exact h.note none what
  | _ => exact ⟨h.transport, h.flights⟩

/-- No call that is under way has come to an outcome. -/
def IsAloft (p : Probe) : Prop :=
  ∀ flight ∈ p.flights, flight.result? = none

theorem IsAloft.grows (h : p.IsAloft) (hgrows : p.Grows q) {limit : Float}
    (htimed : q.Timed limit) : q.IsAloft := by
  intro flight hflight
  rcases hgrows.flights flight hflight with hold | ⟨t, clock, m, rfl⟩
  · exact h flight hold
  · exact Transport.result?_call (htimed.flights _ hflight)

/-- When everything has followed that can, the calls that have an outcome are over. -/
theorem isAloft_settle {limit : Float} (h : p.Timed limit) : p.settle.IsAloft := by
  have hflying : IsAloft { p.resume with flights := p.resume.flying } := by
    intro flight hflight
    exact Option.isNone_iff_eq_none.mp (List.mem_filter.mp hflight).2
  exact hflying.grows ((Grows.concludeAll _).trans (Grows.stop _)) (Timed.of_changes (.settle p) h)

theorem IsAloft.step {limit : Float} (h : p.IsAloft) (htimed : p.Timed limit) (hstep : Step p q) :
    q.IsAloft := by
  have htimed' := htimed.step hstep
  cases hstep with
  | tick => exact h.grows (.tick p) htimed'
  | run => exact h.grows (.run p) htimed'
  | settle => exact isAloft_settle htimed
  | ring alarm =>
    rw [ring_eq]
    exact isAloft_settle (Timed.of_changes (.rung p alarm) htimed)
  | respond m replies =>
    unfold Probe.respond
    split
    · exact h
    · exact h
  | _ => exact h

/-! ## Behind the signal -/

namespace Reachable

variable {catalog : Catalog} {interval : Interval} {broken : List Part} {base : Option Text}

/-- Behind the raised signal nothing is called, and it stays raised. -/
theorem step_of_isRaised (h : Reachable catalog interval broken base p)
    (hraised : p.scheduler.signal.isRaised = true) (hstep : Step p q) :
    q.scheduler.signal.isRaised = true ∧ ∀ new, q.journal = new ++ p.journal →
      ∀ r ∈ new, r.method.isSome = true → r.what ≠ .called := by
  obtain ⟨moves, hfollows⟩ := h.exists_course
  generalize Course.of catalog interval broken base moves = c at hfollows
  obtain ⟨moves', hfollows'⟩ := hfollows.step hstep
  rw [← hfollows.scheduler_eq] at hraised
  have hwinds := Course.Winds.run hraised moves'
  refine ⟨?_, fun new hjournal r hr hmethod hcalled => ?_⟩
  · rw [← hfollows'.scheduler_eq]
    exact Course.isRaised_run hraised moves'
  · obtain ⟨m, hm⟩ := Option.isSome_iff_exists.mp hmethod
    have htraces : (c.run moves').traces = new.filterMap (·.trace?) ++ c.traces := by
      rw [hfollows'.traces_eq, hfollows.traces_eq, traces, hjournal, List.filterMap_append]
      rfl
    apply hwinds.called_not_mem htraces m
    refine List.mem_filterMap.mpr ⟨r, hr, ?_⟩
    rw [Record.trace?, hcalled, hm]
    rfl

/-- When everything has followed that can and no call is under way, a loop behind the raised signal
has ended. -/
theorem isOver_settle (h : Reachable catalog interval broken base p)
    (hraised : p.scheduler.signal.isRaised = true) (hinFlight : p.settle.scheduler.inFlight = []) :
    p.settle.scheduler.loop = .unstarted ∨ p.settle.scheduler.loop.isOver = true := by
  obtain ⟨moves, hfollows⟩ := h.exists_course
  obtain ⟨clock, hresumed⟩ := hfollows.resume
  obtain ⟨moves', -, hconcluded⟩ := hresumed.concludeAll
  have hprompt := Course.prompt_of catalog interval broken base moves
  rw [hfollows.scheduler_eq] at hprompt
  have hwaits : p.resume.concludeAll.scheduler.Prompt := by
    have hcourse := Course.prompt_of catalog interval broken base
      (moves ++ .resume clock :: moves')
    rw [Course.of, Course.run_append] at hcourse
    rw [← hconcluded.scheduler_eq]
    exact hcourse
  obtain ⟨clock', -, hscheduler⟩ := p.scheduler_resume
  have hconcludes := (SleepsOn.concludeAll p.resume).scheduler.working_eq
  have hstops : p.settle.scheduler = p.resume.concludeAll.scheduler.stop.1 :=
    scheduler_foldl_perform _ _
  rw [hstops] at hinFlight ⊢
  rcases hprompt.goOn_wake hraised clock' with hnone | hunstarted
  · rw [← hscheduler] at hnone
    right
    apply hwaits.isOver_stop _ (hconcludes.trans hnone)
    rw [← hinFlight]
    exact (congrArg Books.inFlight (books_stop _)).symm
  · left
    rw [← hscheduler] at hunstarted
    have hstays : p.resume.concludeAll.scheduler.stop.1.loop = p.resume.scheduler.loop := by
      apply Loop.eq_of_working?
      · exact (Scheduler.SleepsOn.stop _).working_eq.trans hconcludes
      · rw [hunstarted]
        rfl
    rw [hstays, hunstarted]

end Reachable

/-! ## Runs in which the clock does not go back -/

/-- When the signal was raised, if it has just been noticed. -/
def noticed? (p : Probe) : Option Rat :=
  if p.scheduler.signal.isRaised then some p.clock.now else none

/-- What can come of a new scheduler whose calls have this timeout while the clock does not go back,
and when the signal was raised. -/
inductive Onward (catalog : Catalog) (interval : Interval) (broken : List Part)
    (base : Option Text) (limit : Float) : Option Rat → Probe → Prop
  | initial {p : Probe} (hscheduler : p.scheduler = fresh catalog interval broken)
      (hbase : p.base = base) (hlimit : p.transport.limit? = some limit) (hflights : p.flights = [])
      (hbus : p.bus.delivered = []) (hjournal : p.journal = []) :
      Onward catalog interval broken base limit none p
  | step {raised : Option Rat} {p p' : Probe}
      (h : Onward catalog interval broken base limit raised p) (hstep : Step p p')
      (hforward : p.clock.now ≤ p'.clock.now) :
      Onward catalog interval broken base limit (raised.or p'.noticed?) p'

theorem now_advanceTo (target : Rat) (fuel : Nat) (p : Probe) :
    (Time.Timed.advanceTo target fuel p).clock.now = target := by
  induction fuel generalizing p with
  | zero => rfl
  | succ fuel ih =>
    unfold Time.Timed.advanceTo
    split
    · exact ih _
    · rfl

/-- The time to which a clock advances is a double. -/
theorem rounded_now_advance (p : Probe) (ms : Rat) :
    Decimal.rounded (Time.Timed.advance p ms).clock.now = (Time.Timed.advance p ms).clock.now := by
  have hnow : (Time.Timed.advance p ms).clock.now = Time.sum p.clock.now ms :=
    now_advanceTo _ _ p
  rw [hnow, Time.sum, Decimal.rounded_rounded]

/-- Every alarm that is due has rung, and the clock shows a double, as it does whenever it has
advanced (`rounded_now_advance`). -/
structure IsQuiet (p : Probe) : Prop where
  double : Decimal.rounded p.clock.now = p.clock.now
  rung : ∀ alarm ∈ p.alarms, alarm.isDue p.clock.now = false

instance (p : Probe) : Decidable p.IsQuiet :=
  decidable_of_iff (Decimal.rounded p.clock.now = p.clock.now ∧
      ∀ alarm ∈ p.alarms, alarm.isDue p.clock.now = false)
    ⟨fun h => ⟨h.1, h.2⟩, fun h => ⟨h.1, h.2⟩⟩

/-- The calls under way are timed, and no entry of the journal about a call is later than now or, if
the call was made, than the signal. -/
structure OnRecord (limit : Float) (raised : Option Rat) (p : Probe) : Prop where
  timed : p.Timed limit
  aloft : p.IsAloft
  past : ∀ r ∈ p.journal, r.time ≤ p.clock.now
  signaled : ∀ t, raised = some t → p.scheduler.signal.isRaised = true
  closed : ∀ t, raised = some t → ∀ r ∈ p.journal, r.method.isSome = true → r.what = .called →
    r.time ≤ t

namespace Onward

variable {catalog : Catalog} {interval : Interval} {broken : List Part} {base : Option Text}
  {limit : Float} {raised : Option Rat}

theorem reachable (h : Onward catalog interval broken base limit raised p) :
    Reachable catalog interval broken base p := by
  induction h with
  | initial hscheduler hbase _ hflights hbus hjournal =>
    refine .initial hscheduler hbase hflights hbus ?_
    rw [traces, hjournal]
    rfl
  | step _ hstep _ ih => exact ih.step hstep

theorem onRecord (h : Onward catalog interval broken base limit raised p) :
    OnRecord limit raised p := by
  induction h with
  | initial _ _ hlimit hflights _ hjournal =>
    refine ⟨⟨hlimit, ?_⟩, ?_, ?_, ?_, ?_⟩
    · rw [hflights]
      exact List.forall_mem_nil _
    · rw [IsAloft, hflights]
      exact List.forall_mem_nil _
    · rw [hjournal]
      exact List.forall_mem_nil _
    · rintro t ⟨⟩
    · rintro t ⟨⟩
  | @step raised p p' h hstep hforward ih =>
    obtain ⟨new, hjournal, hnew⟩ := hstep.journal
    have hpast : ∀ r ∈ p'.journal, r.time ≤ p'.clock.now := by
      intro r hr
      rw [hjournal] at hr
      rcases List.mem_append.mp hr with hr | hr
      · exact (hnew r hr).le
      · exact (ih.past r hr).trans hforward
    refine ⟨ih.timed.step hstep, ih.aloft.step ih.timed hstep, hpast, ?_, ?_⟩
    · intro t ht
      cases raised with
      | some t' => exact (h.reachable.step_of_isRaised (ih.signaled t' rfl) hstep).1
      | none =>
        rw [Option.none_or, noticed?] at ht
        split at ht
        · assumption
        · cases ht
    · intro t ht r hr hmethod hcalled
      cases raised with
      | some t' =>
        cases ht
        have hlate := (h.reachable.step_of_isRaised (ih.signaled t rfl) hstep).2 new hjournal
        rw [hjournal] at hr
        rcases List.mem_append.mp hr with hr | hr
        · exact absurd hcalled (hlate r hr hmethod)
        · exact ih.closed t rfl r hr hmethod hcalled
      | none =>
        rw [Option.none_or, noticed?] at ht
        split at ht
        · cases ht
          exact hpast r hr
        · cases ht

theorem advanceTo (h : Onward catalog interval broken base limit raised p) {target : Rat}
    (hle : p.clock.now ≤ target) (fuel : Nat) :
    ∃ noticed, Onward catalog interval broken base limit (raised.or noticed)
      (Time.Timed.advanceTo target fuel p) := by
  induction fuel generalizing p raised with
  | zero => exact ⟨_, h.step (.moveTo p target) hle⟩
  | succ fuel ih =>
    unfold Time.Timed.advanceTo
    split
    · rename_i alarm due hnext
      have hlater : p.clock.now ≤ Time.later p.clock.now due ∧
          Time.later p.clock.now due ≤ target := by
        unfold Time.later
        split
        · exact ⟨‹_›, Time.Timed.due_le_of_next? hnext⟩
        · exact ⟨le_rfl, hle⟩
      have hmoved := h.step (.moveTo p (Time.later p.clock.now due)) hlater.1
      have hrung := hmoved.step (.ring _ alarm) (now_ring _ alarm).ge
      rw [Option.or_assoc] at hrung
      obtain ⟨noticed, honward⟩ := ih hrung ((now_ring _ alarm).trans_le hlater.2)
      rw [Option.or_assoc] at honward
      exact ⟨_, honward⟩
    · exact ⟨_, h.step (.moveTo p target) hle⟩

/-- Time goes on, and every alarm that comes due rings. -/
theorem advance (h : Onward catalog interval broken base limit raised p)
    (hdouble : Decimal.rounded p.clock.now = p.clock.now) {ms : Rat} (hms : 0 ≤ ms) :
    ∃ noticed, Onward catalog interval broken base limit (raised.or noticed)
      (Time.Timed.advance p ms) := by
  apply h.advanceTo
  calc p.clock.now = Decimal.rounded p.clock.now := hdouble.symm
    _ ≤ Time.sum p.clock.now ms := Decimal.rounded_mono (by linarith)

end Onward

/-- Every call under way was made less than a timeout ago, as the journal tells, and a timeout after
the signal was raised a loop that was started has ended. -/
structure BoundsAge (catalog : Catalog) (interval : Interval) (broken : List Part)
    (base : Option Text) (limit : Float) (length : Rat) : Prop where
  young : ∀ {raised p}, Onward catalog interval broken base limit raised p → p.IsQuiet →
    ∀ m, (m, .fetching) ∈ p.scheduler.inFlight → ∃ r, .race r ∈ p.flights ∧ r.method = m ∧
      r.record ∈ p.journal ∧ p.clock.now - r.started < length
  ended : ∀ {t p}, Onward catalog interval broken base limit (some t) p → p.settle.IsQuiet →
    t + length ≤ p.clock.now →
      p.settle.scheduler.loop = .unstarted ∨ p.settle.scheduler.loop.isOver = true

section BoundsAge

variable {catalog : Catalog} {interval : Interval} {broken : List Part} {base : Option Text}
  {limit : Float} {length : Rat}

/-- The alarm of a call that was made a timeout ago is due. -/
theorem Onward.sub_lt {raised : Option Rat}
    (h : Onward catalog interval broken base limit raised p) (hquiet : p.IsQuiet)
    (hlimit : Decimal.rational? limit = some length) (hpos : 0 < length) {m : Method}
    (hm : (m, .fetching) ∈ p.scheduler.inFlight) :
    ∃ r, .race r ∈ p.flights ∧ r.method = m ∧ r.record ∈ p.journal ∧
      p.clock.now - r.started < length := by
  have hrecord := h.onRecord
  have hwaiting : m ∈ p.waiting := by
    have hentry := h.reachable.nodup_waiting.2.mem_iff.mp hm
    obtain ⟨m', hm', heq⟩ := List.mem_map.mp hentry
    exact (Prod.mk.inj heq).1 ▸ hm'
  obtain ⟨flight, hflight, hmethod⟩ := List.mem_map.mp hwaiting
  have htimed := hrecord.timed.flights flight hflight
  cases flight with
  | prepared m' alarm result => exact absurd htimed id
  | race r =>
    obtain ⟨alarm, htimeout, hdue⟩ := htimed.1 (hrecord.aloft _ hflight)
    refine ⟨r, hflight, hmethod, htimed.2, ?_⟩
    have halarm : alarm ∈ p.alarms := by
      refine List.mem_append_right _ (List.mem_flatMap.mpr ⟨_, hflight, ?_⟩)
      refine List.mem_append_left _ ?_
      rw [htimeout]
      exact List.mem_cons_self
    have hnot := hquiet.rung alarm halarm
    rw [Time.delayOf_eq_max hlimit, max_eq_left hpos.le, Option.map_some] at hdue
    rw [Time.Alarm.isDue, hdue] at hnot
    by_contra hold
    have hle : r.started + length ≤ p.clock.now := by linarith
    have hrounded : Time.sum r.started length ≤ p.clock.now := by
      rw [← hquiet.double]
      exact Decimal.rounded_mono hle
    exact of_decide_eq_false hnot hrounded

/-- **The age of a call under way stays below its timeout.** -/
theorem boundsAge (hlimit : Decimal.rational? limit = some length) (hpos : 0 < length) :
    BoundsAge catalog interval broken base limit length where
  young h hquiet _ hm := h.sub_lt hquiet hlimit hpos hm
  ended {t p} h hquiet hlate := by
    have hsettled := h.step (.settle p) p.now_settle.ge
    have hinFlight : p.settle.scheduler.inFlight = [] := by
      refine List.eq_nil_iff_forall_not_mem.mpr fun ⟨m, stage⟩ hentry => ?_
      have hmem := hsettled.reachable.nodup_waiting.2.mem_iff.mp hentry
      obtain ⟨m', -, heq⟩ := List.mem_map.mp hmem
      cases heq
      obtain ⟨r, -, -, hrecord, hyoung⟩ := hsettled.sub_lt hquiet hlimit hpos hentry
      have hbefore : r.started ≤ t := hsettled.onRecord.closed t rfl _ hrecord rfl rfl
      rw [now_settle] at hyoung
      linarith
    exact h.reachable.isOver_settle (h.onRecord.signaled t rfl) hinFlight

end BoundsAge

/-- A probe whose calls never answer. -/
def unanswered : Probe :=
  Probe.new (fresh Course.pair Course.second [])
    (.answers 1500 ⟨[(.peerInfo, [.silent none]), (.uptime, [.silent none])]⟩) none 0

/-- Its loop is told to stop as soon as it has made the calls of its first tick. -/
def hanging : Probe :=
  ((Time.Timed.advance unanswered.run 1000).raise Signal.defaultReason).settle

theorem onward_hanging :
    Onward Course.pair Course.second [] none 1500 (some 1000) hanging := by
  have hnew : Onward Course.pair Course.second [] none 1500 none unanswered :=
    .initial rfl rfl rfl rfl rfl rfl
  obtain ⟨noticed, hadvanced⟩ :=
    (hnew.step (.run _) (now_run _).ge).advance (by decide +kernel) (show 0 ≤ 1000 by decide)
  generalize Option.or _ noticed = raised at hadvanced
  have hlow : (Time.Timed.advance unanswered.run 1000).scheduler.signal.isRaised = false := by
    decide +kernel
  cases raised with
  | some t =>
    rw [hadvanced.onRecord.signaled t rfl] at hlow
    cases hlow
  | none =>
    have hsettled := (hadvanced.step (.raise _ Signal.defaultReason) le_rfl).step (.settle _)
      (now_settle _).ge
    have htime : (Option.or none
        ((Time.Timed.advance unanswered.run 1000).raise Signal.defaultReason).noticed?).or
          hanging.noticed? = some 1000 := by
      decide +kernel
    change Onward _ _ _ _ _ (Option.or _ hanging.noticed?) hanging at hsettled
    rwa [htime] at hsettled

/-- A millisecond before the timeout both calls are still under way, and then the loop has ended. -/
theorem boundsAge_hanging :
    BoundsAge Course.pair Course.second [] none 1500 1500 ∧
      Onward Course.pair Course.second [] none 1500 (some 1000) hanging ∧
      ((Time.Timed.advance hanging 1499).IsQuiet ∧
        (Time.Timed.advance hanging 1499).clock.now = 2499 ∧
        (Time.Timed.advance hanging 1499).scheduler.inFlight =
          [(.peerInfo, .fetching), (.uptime, .fetching)]) ∧
      (Time.Timed.advance hanging 1500).settle.IsQuiet ∧
        (Time.Timed.advance hanging 1500).clock.now = 2500 ∧
        (Time.Timed.advance hanging 1500).settle.scheduler.loop.isOver = true := by
  refine ⟨boundsAge (by decide +kernel) (by decide), onward_hanging, ?_, ?_⟩
  · decide +kernel
  · decide +kernel

end Probe

end NodeProbe
