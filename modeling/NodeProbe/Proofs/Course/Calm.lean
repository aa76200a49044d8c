import NodeProbe.Proofs.Course.Shutdown

/-!
# A loop that does not fail

The loop fails if a tick throws, and if a call that it waits for ends with a fault. A tick throws
only in a broken recorder, and a call ends with a fault only if what it threw has no text. So as
long as the recorder is whole and whatever is thrown has a text, the loop does not fail
(`Calm.after`), and when it is over it has stopped: no call is under way any more, and every result
that was to be published has been offered to the bus (`Attempted`).
-/

namespace NodeProbe

open Scheduler

/-! ## The loop -/

namespace Scheduler

/-- The loop has not failed, and is not about to fail. -/
def Loop.IsCalm : Loop → Prop
  | failed _ | draining (.failed _) => False
  | _ => True

theorem Wait.ended_ne_failed {wait : Wait} (h : ∀ fault, wait ≠ .failed fault) (m : Method)
    (fault : Fault) : wait.ended m none ≠ .failed fault := by
  cases wait with
  | watching calls =>
    simp only [ended]
    split <;> simp
  | finished => simp [ended]
  | failed fault' => exact absurd rfl (h fault')

theorem Wait.new_ne_failed (running : List Method) (fault : Fault) :
    new running ≠ .failed fault := by
  unfold new
  split <;> simp

theorem Loop.isCalm_draining_iff {wait : Wait} :
    (draining wait).IsCalm ↔ ∀ fault, wait ≠ .failed fault := by
  cases wait <;> simp [IsCalm]

/-- The recorder is whole, and the loop does not fail. -/
structure Calm (s : Scheduler) : Prop where
  broken_eq : s.broken = []
  loop : s.loop.IsCalm

theorem calm_fresh (catalog : Catalog) (interval : Interval) :
    (fresh catalog interval []).Calm :=
  ⟨rfl, trivial⟩

namespace Calm

variable {s : Scheduler}

/-- A loop that is over has stopped. -/
theorem isStopped (h : s.Calm) (hover : s.loop.isOver = true) : s.isStopped = true := by
  have hloop := h.loop
  unfold Scheduler.isStopped
  cases hs : s.loop with
  | stopped => rfl
  | failed fault =>
    rw [hs] at hloop
    exact absurd hloop id
  | _ =>
    rw [hs] at hover
    cases hover

theorem windDown (h : s.Calm) : s.windDown.1.Calm :=
  ⟨h.broken_eq, Loop.isCalm_draining_iff.mpr (Wait.new_ne_failed _)⟩

theorem continueLoop (h : s.Calm) (clock : Time.Clock) (deadline : Rat) :
    (s.continueLoop clock deadline).2.1.Calm := by
  unfold Scheduler.continueLoop
  split
  · exact h.windDown
  · exact ⟨h.broken_eq, trivial⟩

theorem run (h : s.Calm) {s' : Scheduler} {clock clock' : Time.Clock} {effects : List Effect}
    (hrun : s.run clock = .ok (clock', s', effects)) : s'.Calm := by
  obtain ⟨-, rfl, -⟩ := run_eq_ok hrun
  exact h.continueLoop clock _

theorem goOn (h : s.Calm) (clock : Time.Clock) : (s.goOn clock).2.1.Calm := by
  unfold Scheduler.goOn
  split
  · exact h.continueLoop clock _
  · exact h

theorem tick (h : s.Calm) : s.tick.1.Calm := by
  unfold Scheduler.tick
  split
  · exact h
  · exact ⟨h.broken_eq, h.loop⟩

/-- A tick of a whole recorder throws nothing. -/
theorem exists_answer_eq_ok (h : s.Calm) : ∃ fired, s.tick.2.2 = .ok fired := by
  cases hclosed : s.isClosed with
  | true => exact ⟨[], by rw [tick_of_isClosed hclosed]⟩
  | false =>
    have hfault : s.turns.fault = none :=
      tickSlots_fault_eq_none_iff.mpr (.inl (by rw [h.broken_eq]; rfl))
    refine ⟨s.turns.fired, ?_⟩
    rw [tick_of_not_isClosed hclosed, TickResult.answer, hfault]

theorem beat (h : s.Calm) (deadline : Rat) : (s.beat deadline).1.Calm := by
  have htick := h.tick
  obtain ⟨fired, hanswer⟩ := h.exists_answer_eq_ok
  unfold Scheduler.beat
  split
  · simp_all
  · simp_all only
    exact ⟨htick.broken_eq, trivial⟩

theorem wake (h : s.Calm) : s.wake.1.Calm := by
  unfold Scheduler.wake
  split
  · split
    · exact h.beat _
    · exact h.windDown
    · exact h
  · exact h

theorem stop (h : s.Calm) : s.stop.1.Calm := by
  have hcalm := h.loop
  simp only [Scheduler.stop]
  split
  · rename_i wait hloop
    rw [show s.loop = .draining wait from hloop, Loop.isCalm_draining_iff] at hcalm
    have hrenew : ∀ fault, wait.renew s.running ≠ .failed fault := by
      unfold Wait.renew
      split
      · exact Wait.new_ne_failed _
      · exact hcalm
    split
    · exact ⟨h.broken_eq, trivial⟩
    · rename_i fault heq
      exact absurd heq (hrenew fault)
    · exact ⟨h.broken_eq, Loop.isCalm_draining_iff.mpr hrenew⟩
  · exact ⟨h.broken_eq, hcalm⟩

theorem finish (h : s.Calm) (m : Method) : (s.finish m none).Calm := by
  have hcalm := h.loop
  refine ⟨h.broken_eq, ?_⟩
  unfold Scheduler.finish
  cases hloop : s.loop with
  | draining wait =>
    rw [hloop, Loop.isCalm_draining_iff] at hcalm
    exact Loop.isCalm_draining_iff.mpr (Wait.ended_ne_failed hcalm m)
  | _ =>
    rw [hloop] at hcalm
    exact hcalm

/-- What was thrown is printed. -/
theorem abandon (h : s.Calm) (m : Method) {thrown : Fault} (hthrown : thrown.isReadable = true) :
    (s.abandon m thrown).1.Calm := by
  unfold Scheduler.abandon
  split
  · exact h.finish m
  · rename_i fault hmessage
    rw [Fault.isReadable, hmessage] at hthrown
    cases hthrown

theorem fetched (h : s.Calm) (m : Method) {result : Except Fault Outcome}
    (hresult : ∀ fault, result = .error fault → fault.isReadable = true) :
    (s.fetched m result).1.Calm := by
  unfold Scheduler.fetched
  split
  · exact h.abandon m (hresult _ rfl)
  · split
    · exact h.finish m
    · split
      · exact h.finish m
      · exact ⟨h.broken_eq, h.loop⟩

theorem published (h : s.Calm) (m : Method) {answer : Except Fault (Option PublishFault)}
    (hanswer : ∀ fault, answer = .error fault → fault.isReadable = true) :
    (s.published m answer).1.Calm := by
  unfold Scheduler.published
  split
  · exact h.abandon m (hanswer _ rfl)
  · exact h.finish m
  · exact h.finish m

end Calm

end Scheduler

/-- A result of the call is offered to the bus. -/
def Episode.offers (m : Method) : Episode → Bool
  | published m' _ _ => m' = m
  | _ => false

/-- In the episode no call is made and none ends; only lines are printed. -/
def Episode.IsQuiet (episode : Episode) : Prop :=
  ∃ effects, episode = .other effects ∧ ∀ e ∈ effects, e.IsRemark

namespace Course

variable {c c' : Course}

/-- **The loop does not fail** as long as whatever is thrown has a text. -/
theorem calm_after (h : c.scheduler.Calm) {move : Move} (hmove : move.isReadable = true) :
    (c.after move).scheduler.Calm := by
  cases move with
  | tick =>
    simp only [after, scheduler_ticked]
    exact h.tick
  | run clock =>
    simp only [after]
    split
    · exact h.run ‹_›
    · exact h
  | resume clock =>
    simp only [after, resume]
    refine Calm.goOn ?_ clock
    split
    · rw [scheduler_ticked]
      exact h.wake
    · exact h.wake
  | stop => exact h.stop
  | drain => exact ⟨h.broken_eq, h.loop⟩
  | raise reason time => exact ⟨h.broken_eq, h.loop⟩
  | ring alarm time => exact ⟨h.broken_eq, h.loop⟩
  | fetched number result time =>
    simp only [after]
    split
    · refine h.fetched _ fun fault hfault => ?_
      subst hfault
      exact hmove
    · exact h
  | published number answer =>
    simp only [after]
    split
    · refine h.published _ fun fault hfault => ?_
      refine Event.isReadable_of_offer (fun fault' hfault' => ?_) hfault
      subst hfault'
      exact hmove
    · exact h

/-! ## Results that are to be published -/

/-- Every result that was to be published has been offered to the bus or waits for it. -/
def Attempted (c : Course) : Prop :=
  ∀ m, c.log.countP (Episode.succeeds m) = c.log.countP (Episode.offers m) +
    c.extractions.countP (·.entry = (m, .publishing))

/-- A call succeeds exactly if its result is to be published. -/
theorem succeeds_fetched_iff (m m' : Method) (result : Except Fault Outcome)
    (effects : List Effect) (hbroken : c.scheduler.broken = []) :
    (Episode.fetched m result effects).succeeds m' = true ↔
      m = m' ∧ ((c.scheduler.fetched m result).2.2).isSome = true := by
  simp only [Option.isSome_iff_exists, payload_fetched_eq_some_iff, Publishes, hbroken]
  cases result with
  | error fault => simp [Episode.succeeds]
  | ok outcome => cases hverdict : outcome.verdict <;> simp [Episode.succeeds, hverdict,
      Verdict.isSuccess]

theorem Attempted.fetched (h : c.Attempted) (hbroken : c.scheduler.broken = []) {number : Nat}
    {m : Method} (result : Except Fault Outcome) (time : Rat)
    (hget : c.extractions[number]? = some (.fetching m)) :
    (c.fetched number m result time).Attempted := by
  intro m'
  have hearlier := h m'
  have hsucceeds := succeeds_fetched_iff m m' result (c.scheduler.fetched m result).2.1 hbroken
  cases hpayload : (c.scheduler.fetched m result).2.2 with
  | none =>
    have herase := countP_eraseIdx_add (p := fun x => decide (x.entry = (m', .publishing))) hget
    simp only [hpayload, Option.isSome_none, Bool.false_eq_true, and_false, iff_false] at hsucceeds
    rw [fetched_of_payload_eq_none hpayload]
    simp only [List.countP_cons, hsucceeds, Episode.offers] at herase ⊢
    simp only [Extraction.entry_fetching, Prod.mk.injEq, reduceCtorEq, and_false, decide_false,
      Bool.false_eq_true, if_false, Nat.add_zero] at herase ⊢
    omega
  | some payload =>
    have hset := countP_set_add (p := fun x => decide (x.entry = (m', .publishing))) hget
      (.publishing m (event m payload time))
    simp only [hpayload, Option.isSome_some, and_true] at hsucceeds
    rw [fetched_of_payload_eq_some hpayload]
    simp only [List.countP_cons, hsucceeds, Episode.offers] at hset ⊢
    simp only [Extraction.entry_fetching, Extraction.entry_publishing, Prod.mk.injEq, reduceCtorEq,
      and_false, and_true, decide_false, decide_eq_true_eq, Bool.false_eq_true, if_false,
      Nat.add_zero] at hset ⊢
    omega

theorem Attempted.step (h : c.Attempted) (hbroken : c.scheduler.broken = [])
    (hstep : Step c c') : c'.Attempted := by
  cases hstep with
  | quiet _ _ =>
    intro m
    simpa [quietly, Episode.succeeds, Episode.offers] using h m
  | beat hopen _ =>
    intro m
    rw [ticked_of_not_isClosed hopen]
    have hnone : (c.scheduler.turns.fired.map Extraction.fetching).countP
        (·.entry = (m, .publishing)) = 0 := by
      simp [List.countP_map, Function.comp_def]
    simpa [Episode.succeeds, Episode.offers, hnone] using h m
  | fetched result time hget => exact h.fetched hbroken result time hget
  | @published number m event answer hget =>
    intro m'
    have hearlier := h m'
    have herase := countP_eraseIdx_add (p := fun x => decide (x.entry = (m', .publishing))) hget
    simp only [Course.published, List.countP_cons, Episode.succeeds, Episode.offers] at herase ⊢
    simp only [Extraction.entry_publishing, Prod.mk.injEq, and_true, decide_eq_true_eq,
      Bool.false_eq_true, if_false, Nat.add_zero] at herase ⊢
    omega

/-! ## At rest -/

/-- What a course that is about to be closed has to keep. -/
structure Tame (c : Course) : Prop where
  orderly : c.scheduler.Orderly
  sound : c.Sound
  calm : c.scheduler.Calm
  attempted : c.Attempted

theorem tame_start (catalog : Catalog) (interval : Interval) (base : Option Text) :
    (start (fresh catalog interval []) base).Tame :=
  ⟨orderly_fresh catalog interval [], sound_start catalog interval [] base,
    calm_fresh catalog interval, fun _ => rfl⟩

theorem Tame.after (h : c.Tame) {move : Move} (hmove : move.isReadable = true) :
    (c.after move).Tame := by
  have hcalm := calm_after h.calm hmove
  refine ⟨orderly_after h.orderly move, after_induction Sound.step h.sound move, hcalm, ?_⟩
  refine (after_induction (P := fun c => c.scheduler.broken = [] ∧ c.Attempted) ?_
    ⟨h.calm.broken_eq, h.attempted⟩ move).2
  exact fun ⟨hbroken, hattempted⟩ hstep =>
    ⟨hstep.broken_eq.trans hbroken, hattempted.step hbroken hstep⟩

theorem Tame.run (h : c.Tame) {moves : List Move}
    (hmoves : ∀ move ∈ moves, move.isReadable = true) : (c.run moves).Tame :=
  List.foldlRecOn (motive := Tame) moves Course.after h fun _ h move hmove =>
    h.after (hmoves move hmove)

/-- Nothing is under way, and nothing will be. -/
structure Rests (c : Course) : Prop where
  isRaised : c.scheduler.signal.isRaised = true
  inFlight_eq : c.scheduler.inFlight = []
  extractions_eq : c.extractions = []

/-- **A course whose loop is over rests.** -/
theorem Tame.rests (h : c.Tame) (hover : c.scheduler.loop.isOver = true) : c.Rests := by
  have hstatus := (status_eq_stopped_iff c.scheduler).mpr (h.calm.isStopped hover)
  obtain ⟨hraised, hnone⟩ := h.orderly.of_status_eq_stopped hstatus
  refine ⟨hraised, hnone, ?_⟩
  have hmap := h.sound.inFlight_eq
  rw [hnone] at hmap
  exact List.map_eq_nil_iff.mp hmap.symm

namespace Rests

/-- Whatever happens to a course at rest, it rests. -/
theorem after (h : c.Rests) (move : Move) : (c.after move).Rests := by
  have hwinds := Winds.after h.isRaised move
  have hrunning : c.scheduler.running = [] := congrArg (List.map Prod.fst) h.inFlight_eq
  have hbusy : c.busy = [] := congrArg (List.map Extraction.method) h.extractions_eq
  refine ⟨?_, List.map_eq_nil_iff.mp (List.sublist_nil.mp (hrunning ▸ hwinds.running)),
    List.map_eq_nil_iff.mp (List.sublist_nil.mp (hbusy ▸ hwinds.busy))⟩
  rw [isRaised_after, h.isRaised, Bool.true_or]

/-- Whatever happens to a course at rest, nothing but lines is asked for any more. -/
theorem log (h : c.Rests) (move : Move) :
    ∃ entries, (c.after move).log = entries ++ c.log ∧ ∀ episode ∈ entries, episode.IsQuiet := by
  obtain ⟨entries, hlog, hlate⟩ := (Winds.after h.isRaised move).log
  refine ⟨entries, hlog, fun episode hepisode => ?_⟩
  have hepisode := hlate episode hepisode
  rw [busy, h.extractions_eq] at hepisode
  cases episode with
  | beat b => exact absurd hepisode id
  | fetched m result effects => exact absurd hepisode.1 List.not_mem_nil
  | published m result effects => exact absurd hepisode.1 List.not_mem_nil
  | other effects => exact ⟨effects, rfl, hepisode⟩

end Rests

end Course

end NodeProbe
