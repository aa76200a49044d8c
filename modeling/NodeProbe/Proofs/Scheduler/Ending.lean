import NodeProbe.Proofs.Scheduler.Calls

/-!
# How the loop ends

The loop waits for the calls under way only behind a raised signal. From then on no call is made, so
its wait watches all calls that are under way, and when it has stopped there are none
(`Orderly.suits`). This rests on the sleeps: one that ended before its time ended because the signal
was raised (`Signal.IsHonest`).
-/

namespace NodeProbe

/-! ## Sleeps -/

namespace Signal

/-- A sleep that ended before its time ended because the signal was raised. -/
def IsHonest (s : Signal) : Prop :=
  ∀ time, .ended false time ∈ s.sleeps → s.isRaised = true

/-- A sleep that ends because its time has passed is no other. -/
theorem mem_of_mem_finish {sleeps : List Sleep} {number : Nat} {time time' : Rat}
    (h : Sleep.ended false time' ∈ finish sleeps number true time) :
    .ended false time' ∈ sleeps := by
  induction sleeps generalizing number with
  | nil => simp [finish] at h
  | cons sleep rest ih =>
    cases number with
    | zero =>
      simp only [finish, List.modify_zero_cons, List.mem_cons] at h
      rcases h with h | h
      · cases sleep with
        | pending => cases h
        | ended => exact h ▸ List.mem_cons_self
      · exact List.mem_cons_of_mem _ h
    | succ number =>
      simp only [finish, List.modify_succ_cons, List.mem_cons] at h
      rcases h with h | h
      · exact h ▸ List.mem_cons_self
      · exact List.mem_cons_of_mem _ (ih h)

namespace IsHonest

variable {s : Signal}

theorem initial : Signal.initial.IsHonest := by
  intro time h
  simp [Signal.initial] at h

theorem forget (h : s.IsHonest) : s.forget.IsHonest := by
  intro time hmem
  rw [isRaised_forget]
  unfold Signal.forget at hmem
  split at hmem
  · simp at hmem
  · exact h time hmem

theorem sleep (h : s.IsHonest) (clock : Time.Clock) (delay : Option Rat) :
    (s.sleep clock delay).2.IsHonest := by
  intro time hmem
  rw [isRaised_sleep]
  unfold Signal.sleep at hmem
  split at hmem
  · assumption
  · rcases List.mem_append.mp hmem with hmem | hmem
    · exact h time hmem
    · simp at hmem

theorem ring (h : s.IsHonest) (alarm : Time.Alarm) (time : Rat) : (s.ring alarm time).IsHonest := by
  intro time' hmem
  rw [isRaised_ring]
  unfold Signal.ring at hmem
  split at hmem
  · exact h time' (mem_of_mem_finish hmem)
  · exact h time' hmem

end IsHonest

theorem isHonest_of_isRaised {s : Signal} (h : s.isRaised = true) : s.IsHonest :=
  fun _ _ => h

end Signal

namespace Scheduler

/-! ## Waits -/

namespace Wait

/-- A wait leaves out none of these calls. -/
def Covers (running : List Method) : Wait → Prop
  | watching calls => running ⊆ calls
  | finished => running = []
  | failed _ => True

variable {running : List Method} {wait : Wait}

theorem covers_new : (new running).Covers running := by
  unfold new
  split
  · rwa [Covers, ← List.isEmpty_iff]
  · exact List.Subset.refl _

theorem Covers.renew (h : wait.Covers running) : (wait.renew running).Covers running := by
  unfold Wait.renew
  split
  · exact covers_new
  · exact h

theorem Covers.ended (h : wait.Covers running) (m : Method) (fault : Option Fault) :
    (wait.ended m fault).Covers (running.filter (· ≠ m)) := by
  cases wait with
  | watching calls =>
    simp only [Wait.ended]
    split
    · cases fault with
      | some fault => trivial
      | none =>
        intro m' hm'
        obtain ⟨hm', hne⟩ := List.mem_filter.mp hm'
        exact List.mem_filter.mpr ⟨h hm', hne⟩
    · exact List.Subset.trans (List.filter_subset_self _) h
  | finished =>
    rw [Covers] at h
    rw [h]
    rfl
  | failed fault => trivial

end Wait

/-! ## The loop -/

/-- The loop may be in this place while the signal is raised or not and these calls are under
way. -/
def Loop.Suits (raised : Bool) (running : List Method) : Loop → Prop
  | .draining wait => raised = true ∧ wait.Covers running
  | .stopped => raised = true ∧ running = []
  | _ => True

theorem Loop.Suits.of_raised {loop : Loop} {raised : Bool} {running : List Method}
    (h : loop.Suits raised running) : loop.Suits true running := by
  cases loop with
  | draining wait => exact ⟨rfl, h.2⟩
  | stopped => exact ⟨rfl, h.2⟩
  | _ => trivial

/-- A loop that winds down does so behind a raised signal, and leaves out no call. -/
structure Orderly (s : Scheduler) : Prop where
  honest : s.signal.IsHonest
  suits : s.loop.Suits s.signal.isRaised s.running

theorem orderly_fresh (catalog : Catalog) (interval : Interval) (broken : List Part) :
    (fresh catalog interval broken).Orderly :=
  ⟨.initial, trivial⟩

namespace Orderly

variable {s : Scheduler}

/-- As long as the signal is not raised each tick counts. -/
theorem isClosed_eq (h : s.Orderly) : s.isClosed = s.signal.isRaised := by
  have hsuits := h.suits
  unfold isClosed isStopped
  cases hloop : s.loop with
  | stopped =>
    rw [hloop] at hsuits
    simp [hsuits.1]
  | _ => simp

theorem raise (h : s.Orderly) (reason : Text) (time : Rat) :
    Orderly { s with signal := s.signal.raise reason time } := by
  have hraised := s.signal.isRaised_raise reason time
  refine ⟨Signal.isHonest_of_isRaised hraised, ?_⟩
  rw [hraised]
  exact h.suits.of_raised

theorem ring (h : s.Orderly) (alarm : Time.Alarm) (time : Rat) :
    Orderly { s with signal := s.signal.ring alarm time } := by
  refine ⟨h.honest.ring alarm time, ?_⟩
  rw [Signal.isRaised_ring]
  exact h.suits

theorem drain (h : s.Orderly) : s.drain.Orderly :=
  ⟨h.honest, h.suits⟩

theorem windDown (h : s.Orderly) (hraised : s.signal.isRaised = true) : s.windDown.1.Orderly :=
  ⟨h.honest, hraised, Wait.covers_new⟩

theorem continueLoop (h : s.Orderly) (clock : Time.Clock) (deadline : Rat) :
    (s.continueLoop clock deadline).2.1.Orderly := by
  unfold Scheduler.continueLoop
  split
  · exact h.windDown ‹_›
  · exact ⟨h.honest.forget.sleep clock _, trivial⟩

theorem goOn (h : s.Orderly) (clock : Time.Clock) : (s.goOn clock).2.1.Orderly := by
  unfold Scheduler.goOn
  split
  · exact h.continueLoop clock _
  · exact h

theorem run (h : s.Orderly) {s' : Scheduler} {clock clock' : Time.Clock} {effects : List Effect}
    (hrun : s.run clock = .ok (clock', s', effects)) : s'.Orderly := by
  obtain ⟨-, rfl, -⟩ := run_eq_ok hrun
  exact h.continueLoop clock _

/-- A loop that waits for the calls under way does not tick. -/
theorem tick (h : s.Orderly) : s.tick.1.Orderly := by
  cases hclosed : s.isClosed with
  | true => rwa [tick_of_isClosed hclosed]
  | false =>
    have hsuits := h.suits
    rw [← h.isClosed_eq, hclosed] at hsuits
    rw [tick_of_not_isClosed hclosed]
    refine ⟨h.honest, ?_⟩
    show s.loop.Suits _ _
    cases hloop : s.loop with
    | draining wait =>
      rw [hloop] at hsuits
      cases hsuits.1
    | stopped =>
      rw [hloop] at hsuits
      cases hsuits.1
    | _ => trivial

theorem beat (h : s.Orderly) (deadline : Rat) : (s.beat deadline).1.Orderly := by
  have htick := h.tick
  unfold Scheduler.beat
  split
  · simp_all only
    exact ⟨htick.honest, trivial⟩
  · simp_all only
    exact ⟨htick.honest, trivial⟩

theorem wake (h : s.Orderly) : s.wake.1.Orderly := by
  unfold Scheduler.wake
  split
  · split
    · exact h.beat _
    · exact h.windDown (h.honest _ (List.mem_of_getElem? ‹_›))
    · exact h
  · exact h

theorem stop (h : s.Orderly) : s.stop.1.Orderly := by
  have hsuits := h.suits
  simp only [Scheduler.stop]
  split
  · rename_i wait hloop
    rw [show s.loop = .draining wait from hloop] at hsuits
    have hcovers := hsuits.2.renew
    split
    · rename_i hrenew
      refine ⟨h.honest, hsuits.1, ?_⟩
      rw [show wait.renew s.running = _ from hrenew] at hcovers
      exact hcovers
    · exact ⟨h.honest, trivial⟩
    · exact ⟨h.honest, hsuits.1, hcovers⟩
  · exact ⟨h.honest, hsuits⟩

theorem finish (h : s.Orderly) (m : Method) (fault : Option Fault) :
    (s.finish m fault).Orderly := by
  have hsuits := h.suits
  have hrunning : (s.finish m fault).running = s.running.filter (· ≠ m) := by
    rw [running, running, List.filter_map]
    rfl
  refine ⟨h.honest, ?_⟩
  rw [hrunning, signal_finish]
  unfold Scheduler.finish
  cases hloop : s.loop with
  | draining wait =>
    rw [hloop] at hsuits
    exact ⟨hsuits.1, hsuits.2.ended m fault⟩
  | stopped =>
    rw [hloop] at hsuits
    exact ⟨hsuits.1, by rw [hsuits.2]; rfl⟩
  | _ => trivial

theorem abandon (h : s.Orderly) (m : Method) (thrown : Fault) : (s.abandon m thrown).1.Orderly := by
  unfold Scheduler.abandon
  split
  · exact h.finish m _
  · exact h.finish m _

theorem fetched (h : s.Orderly) (m : Method) (result : Except Fault Outcome) :
    (s.fetched m result).1.Orderly := by
  unfold Scheduler.fetched
  split
  · exact h.abandon m _
  · split
    · exact h.finish m _
    · split
      · exact h.finish m _
      · refine ⟨h.honest, ?_⟩
        rw [running]
        show s.loop.Suits _ ((promote m s.inFlight).map (·.1))
        rw [map_fst_promote]
        exact h.suits

theorem published (h : s.Orderly) (m : Method) (answer : Except Fault (Option PublishFault)) :
    (s.published m answer).1.Orderly := by
  unfold Scheduler.published
  split
  · exact h.abandon m _
  · exact h.finish m _
  · exact h.finish m _

end Orderly

/-- **A loop has stopped behind a raised signal, and no call is under way any more.** -/
theorem Orderly.of_status_eq_stopped {s : Scheduler} (h : s.Orderly)
    (hstatus : s.status = .stopped) : s.signal.isRaised = true ∧ s.inFlight = [] := by
  have hstopped : s.isStopped = true := by
    unfold status at hstatus
    split at hstatus
    · assumption
    · split at hstatus
      · cases hstatus
      · split at hstatus <;> cases hstatus
  have hsuits := h.suits
  unfold isStopped at hstopped
  split at hstopped
  · rename_i hloop
    rw [hloop] at hsuits
    exact ⟨hsuits.1, List.map_eq_nil_iff.mp hsuits.2⟩
  · cases hstopped

end Scheduler

end NodeProbe
