import NodeProbe.Proofs.Course.Basic
import NodeProbe.Proofs.Probe.Rounds

/-!
# What ends the waiting of the loop

The loop never waits for something that does not come. While it is asleep, its sleep has ended or
listens to the signal (`Signal.Hears`), so a raised signal wakes it; while it waits for calls, they
are under way (`Loop.Watches`), so the wait is over when no call is. Both hold in every course
(`Course.prompt_of`).
-/

namespace NodeProbe

open Scheduler

/-! ## Sleeps -/

/-- A sleep has ended, or it is pending and the signal is going to end it. -/
inductive Signal.Hears (s : Signal) (number : Nat) : Prop
  | ended {elapsed : Bool} {time : Rat}
      (hsleep : s.sleeps[number]? = some (.ended elapsed time))
  | listening (hsleep : s.sleeps[number]? = some .pending) (hlistens : number ∈ s.listeners)
      (hraised : s.isRaised = false)

namespace Signal

variable {s : Signal} {number : Nat}

theorem finish_getElem?_of_ne {other : Nat} (hne : other ≠ number) (sleeps : List Sleep)
    (elapsed : Bool) (time : Rat) :
    (finish sleeps other elapsed time)[number]? = sleeps[number]? := by
  simp [finish, hne]

theorem finish_getElem?_of_ended {sleeps : List Sleep} {elapsed : Bool} {time : Rat}
    (h : sleeps[number]? = some (.ended elapsed time)) (other : Nat) (elapsed' : Bool)
    (time' : Rat) :
    (finish sleeps other elapsed' time')[number]? = some (.ended elapsed time) := by
  by_cases hother : other = number
  · subst hother
    simp [finish, h]
  · rw [finish_getElem?_of_ne hother]
    exact h

/-- Whoever listens to the signal hears it. -/
theorem exists_ended_foldl_notify (time : Rat) {listeners : List Nat}
    (h : (∃ elapsed time, s.sleeps[number]? = some (.ended elapsed time)) ∨
      s.sleeps[number]? = some .pending ∧ number ∈ listeners) :
    ∃ elapsed time', (listeners.foldl (fun s number => s.notify time number) s).sleeps[number]? =
      some (.ended elapsed time') := by
  induction listeners generalizing s with
  | nil =>
    rcases h with hended | ⟨-, hmem⟩
    · exact hended
    · cases hmem
  | cons other listeners ih =>
    rw [List.foldl_cons]
    apply ih
    rcases h with ⟨elapsed, time', hsleep⟩ | ⟨hsleep, hmem⟩
    · exact .inl ⟨elapsed, time', finish_getElem?_of_ended hsleep other false time⟩
    · by_cases hother : other = number
      · subst hother
        exact .inl ⟨false, time, finish_getElem? hsleep false time⟩
      · refine .inr ⟨(finish_getElem?_of_ne hother _ _ _).trans hsleep, ?_⟩
        exact (List.mem_cons.mp hmem).resolve_left (Ne.symm hother)

namespace Hears

theorem raise (h : s.Hears number) (reason : Text) (time : Rat) :
    (s.raise reason time).Hears number := by
  unfold Signal.raise
  by_cases hraised : s.isRaised = true
  · rwa [if_pos hraised]
  · rw [if_neg hraised]
    have hended : ∃ elapsed time',
        (s.listeners.foldl (fun s number => s.notify time number) s).sleeps[number]? =
          some (.ended elapsed time') := by
      apply exists_ended_foldl_notify
      cases h with
      | ended hsleep => exact .inl ⟨_, _, hsleep⟩
      | listening hsleep hlistens _ => exact .inr ⟨hsleep, hlistens⟩
    obtain ⟨elapsed, time', hsleep⟩ := hended
    exact .ended hsleep

theorem ring (h : s.Hears number) (alarm : Time.Alarm) (time : Rat) :
    (s.ring alarm time).Hears number := by
  unfold Signal.ring
  split
  · rename_i other _ _
    cases h with
    | ended hsleep => exact .ended (finish_getElem?_of_ended hsleep _ _ _)
    | listening hsleep hlistens hraised =>
      by_cases hother : other = number
      · subst hother
        exact .ended (finish_getElem? hsleep true time)
      · refine .listening ((finish_getElem?_of_ne hother _ _ _).trans hsleep) ?_ hraised
        exact List.mem_filter.mpr ⟨hlistens, decide_eq_true (Ne.symm hother)⟩
  · exact h

end Hears

/-- A sleep that begins before the signal is raised listens to it. -/
theorem hears_sleep (hraised : s.isRaised = false) (clock : Time.Clock) (delay : Option Rat) :
    (s.sleep clock delay).2.Hears s.sleeps.length := by
  rw [sleep, if_neg (Bool.eq_false_iff.mp hraised)]
  exact .listening List.getElem?_concat_length (List.mem_append_right _ List.mem_cons_self) hraised

end Signal

namespace Scheduler

/-! ## Waits -/

/-- A wait watches no call that is not under way. -/
def Wait.Watches (running : List Method) : Wait → Prop
  | watching calls => calls ⊆ running
  | _ => True

namespace Wait

variable {running running' : List Method} {wait : Wait}

theorem watches_new : (new running).Watches running := by
  unfold new
  split
  · trivial
  · exact List.Subset.refl _

theorem Watches.mono (h : wait.Watches running) (hsubset : running ⊆ running') :
    wait.Watches running' := by
  cases wait with
  | watching calls => exact List.Subset.trans h hsubset
  | _ => trivial

theorem Watches.renew (h : wait.Watches running) : (wait.renew running).Watches running := by
  unfold Wait.renew
  split
  · exact watches_new
  · exact h

theorem Watches.ended (h : wait.Watches running) (m : Method) (fault : Option Fault) :
    (wait.ended m fault).Watches (running.filter (· ≠ m)) := by
  cases wait with
  | watching calls =>
    simp only [Wait.ended]
    split
    · cases fault with
      | some fault => trivial
      | none => exact List.filter_subset _ h
    · rename_i hm
      intro m' hm'
      refine List.mem_filter.mpr ⟨h hm', decide_eq_true ?_⟩
      rintro rfl
      exact hm (List.contains_iff_mem.mpr hm')
  | finished => trivial
  | failed fault => trivial

end Wait

/-! ## The loop -/

/-- A loop that waits for calls waits for calls that are under way. -/
def Loop.Watches (running : List Method) : Loop → Prop
  | draining wait => wait.Watches running
  | _ => True

/-- The loop waits for nothing that does not come. -/
structure Prompt (s : Scheduler) : Prop where
  hears : ∀ number deadline, s.loop = .asleep number deadline → s.signal.Hears number
  watches : s.loop.Watches s.running

theorem prompt_fresh (catalog : Catalog) (interval : Interval) (broken : List Part) :
    (fresh catalog interval broken).Prompt := by
  refine ⟨fun number deadline h => ?_, trivial⟩
  cases h

namespace Prompt

variable {s s' : Scheduler}

theorem of_sleepsOn (h : s.Prompt) (hsleeps : SleepsOn s s')
    (hwatches : s'.loop.Watches s'.running) : s'.Prompt := by
  refine ⟨fun number deadline hloop => ?_, hwatches⟩
  have hsame : s.loop = s'.loop := by
    apply Loop.eq_of_working? hsleeps.working_eq.symm
    rw [hloop]
    rfl
  rw [hsleeps.signal_eq]
  exact h.hears number deadline (hsame.trans hloop)

theorem raise (h : s.Prompt) (reason : Text) (time : Rat) :
    Prompt { s with signal := s.signal.raise reason time } :=
  ⟨fun number deadline hloop => (h.hears number deadline hloop).raise reason time, h.watches⟩

theorem ring (h : s.Prompt) (alarm : Time.Alarm) (time : Rat) :
    Prompt { s with signal := s.signal.ring alarm time } :=
  ⟨fun number deadline hloop => (h.hears number deadline hloop).ring alarm time, h.watches⟩

theorem drain (h : s.Prompt) : s.drain.Prompt :=
  ⟨h.hears, h.watches⟩

theorem windDown (s : Scheduler) : s.windDown.1.Prompt := by
  refine ⟨fun number deadline h => ?_, Wait.watches_new⟩
  cases h

theorem continueLoop (s : Scheduler) (clock : Time.Clock) (deadline : Rat) :
    (s.continueLoop clock deadline).2.1.Prompt := by
  unfold Scheduler.continueLoop
  split
  · exact windDown s
  · rename_i hraised
    refine ⟨fun number deadline' hloop => ?_, trivial⟩
    have hforgotten : s.signal.forget.isRaised = false := by
      rw [Signal.isRaised_forget]
      exact Bool.eq_false_iff.mpr hraised
    cases hloop
    exact Signal.hears_sleep hforgotten clock _

theorem goOn (h : s.Prompt) (clock : Time.Clock) : (s.goOn clock).2.1.Prompt := by
  unfold Scheduler.goOn
  split
  · exact continueLoop s clock _
  · exact h

theorem run {clock clock' : Time.Clock} {effects : List Effect}
    (hrun : s.run clock = .ok (clock', s', effects)) : s'.Prompt := by
  obtain ⟨-, rfl, -⟩ := run_eq_ok hrun
  exact continueLoop s clock _

/-- A tick only adds to the calls under way. -/
theorem tick (h : s.Prompt) : s.tick.1.Prompt := by
  cases hclosed : s.isClosed with
  | true => rwa [tick_of_isClosed hclosed]
  | false =>
    refine h.of_sleepsOn (.tick s) ?_
    have hwatches := h.watches
    rw [loop_tick, tick_of_not_isClosed hclosed]
    cases hloop : s.loop with
    | draining wait =>
      rw [hloop] at hwatches
      apply Wait.Watches.mono hwatches
      rw [running, running, List.map_append]
      exact List.subset_append_left _ _
    | _ => trivial

theorem wake (h : s.Prompt) : s.wake.1.Prompt := by
  rcases wake_cases s with
    ⟨number, d, time, -, -, hwake | ⟨fault, hwake⟩⟩ | ⟨number, d, -, hwake⟩ | hwake
  · rw [hwake]
    refine ⟨fun number deadline hloop => ?_, trivial⟩
    cases hloop
  · rw [hwake]
    refine ⟨fun number deadline hloop => ?_, trivial⟩
    cases hloop
  · rw [hwake]
    exact windDown s
  · rwa [hwake]

theorem stop (h : s.Prompt) : s.stop.1.Prompt := by
  refine h.of_sleepsOn (.stop s) ?_
  have hwatches := h.watches
  simp only [Scheduler.stop]
  split
  · rename_i wait hloop
    rw [show s.loop = .draining wait from hloop] at hwatches
    split
    · trivial
    · trivial
    · exact hwatches.renew
  · exact hwatches

theorem finish (h : s.Prompt) (m : Method) (fault : Option Fault) : (s.finish m fault).Prompt := by
  refine h.of_sleepsOn (.finish s m fault) ?_
  have hwatches := h.watches
  have hrunning : (s.finish m fault).running = s.running.filter (· ≠ m) := by
    rw [running, running, List.filter_map]
    rfl
  rw [hrunning]
  unfold Scheduler.finish
  cases hloop : s.loop with
  | draining wait =>
    rw [hloop] at hwatches
    exact Wait.Watches.ended hwatches m fault
  | _ => trivial

theorem abandon (h : s.Prompt) (m : Method) (thrown : Fault) : (s.abandon m thrown).1.Prompt := by
  unfold Scheduler.abandon
  split
  · exact h.finish m _
  · exact h.finish m _

theorem fetched (h : s.Prompt) (m : Method) (result : Except Fault Outcome) :
    (s.fetched m result).1.Prompt := by
  unfold Scheduler.fetched
  split
  · exact h.abandon m _
  · split
    · exact h.finish m _
    · split
      · exact h.finish m _
      · refine ⟨h.hears, ?_⟩
        rw [running]
        show s.loop.Watches ((promote m s.inFlight).map (·.1))
        rw [map_fst_promote]
        exact h.watches

theorem published (h : s.Prompt) (m : Method) (answer : Except Fault (Option PublishFault)) :
    (s.published m answer).1.Prompt := by
  unfold Scheduler.published
  split
  · exact h.abandon m _
  · exact h.finish m _
  · exact h.finish m _

/-- Behind a raised signal the loop neither sleeps on nor goes to sleep again. -/
theorem goOn_wake (h : s.Prompt) (hraised : s.signal.isRaised = true) (clock : Time.Clock) :
    (s.wake.1.goOn clock).2.1.loop.working? = none ∨
      (s.wake.1.goOn clock).2.1.loop = .unstarted := by
  have hsignal : s.wake.1.signal.isRaised = true := by rw [signal_wake, hraised]
  have hawake : ∀ number deadline, s.wake.1.loop ≠ .asleep number deadline := by
    intro number deadline
    unfold Scheduler.wake
    split
    · rename_i number' deadline' hloop
      cases h.hears number' deadline' hloop with
      | @ended elapsed time hsleep =>
        rw [hsleep]
        cases elapsed with
        | true =>
          simp only [beat]
          split <;> simp
        | false => simp [Scheduler.windDown]
      | listening _ _ hnot =>
        rw [hraised] at hnot
        cases hnot
    · rename_i hloop
      exact hloop number deadline
  have hwinds : ∀ deadline,
      (s.wake.1.continueLoop clock deadline).2.1 = s.wake.1.windDown.1 := by
    intro deadline
    unfold Scheduler.continueLoop
    rw [if_pos hsignal]
  unfold Scheduler.goOn
  split
  · exact .inl (congrArg (·.loop.working?) (hwinds _))
  · rename_i hticked
    cases hloop : s.wake.1.loop with
    | asleep number deadline => exact absurd hloop (hawake number deadline)
    | ticked deadline => exact absurd hloop (hticked deadline)
    | unstarted => exact .inr rfl
    | _ => exact .inl rfl

/-- When no call is under way the loop does not wait for calls any longer. -/
theorem isOver_stop (h : s.Prompt) (hinFlight : s.inFlight = []) (hloop : s.loop.working? = none) :
    s.stop.1.loop.isOver = true := by
  have hrunning : s.running = [] := by rw [running, hinFlight, List.map_nil]
  have hwatches := h.watches
  cases hs : s.loop with
  | draining wait =>
    rw [hs, hrunning] at hwatches
    have hended : wait.renew s.running = .finished ∨
        ∃ fault, wait.renew s.running = .failed fault := by
      rw [hrunning]
      cases wait with
      | watching calls =>
        rw [List.subset_nil.mp hwatches]
        exact .inl rfl
      | finished => exact .inl rfl
      | failed fault => exact .inr ⟨fault, rfl⟩
    simp only [Scheduler.stop, hs]
    split
    · rfl
    · rfl
    · rename_i hfinished hfailed
      rcases hended with hrenew | ⟨fault, hrenew⟩
      · exact absurd hrenew hfinished
      · exact absurd hrenew (hfailed fault)
  | stopped =>
    simp only [Scheduler.stop, hs]
    rfl
  | failed fault =>
    simp only [Scheduler.stop, hs]
    rfl
  | _ =>
    rw [hs] at hloop
    cases hloop

end Prompt

end Scheduler

/-! ## Courses -/

namespace Course

theorem prompt_after {c : Course} (h : c.scheduler.Prompt) (move : Move) :
    (c.after move).scheduler.Prompt := by
  cases move with
  | tick =>
    simp only [after, scheduler_ticked]
    exact h.tick
  | run clock =>
    simp only [after]
    split
    · exact Prompt.run ‹_›
    · exact h
  | resume clock =>
    simp only [after, resume]
    refine Prompt.goOn ?_ clock
    split
    · rw [scheduler_ticked]
      exact h.wake
    · exact h.wake
  | stop => exact h.stop
  | drain => exact h.drain
  | raise reason time => exact h.raise reason time
  | ring alarm time => exact h.ring alarm time
  | fetched number result time =>
    simp only [after]
    split
    · exact h.fetched _ result
    · exact h
  | published number answer =>
    simp only [after]
    split
    · exact h.published _ _
    · exact h

theorem prompt_of (catalog : Catalog) (interval : Interval) (broken : List Part)
    (base : Option Text) (moves : List Move) :
    (of catalog interval broken base moves).scheduler.Prompt :=
  List.foldlRecOn (motive := (·.scheduler.Prompt)) moves after
    (prompt_fresh catalog interval broken) fun _ h move _ => prompt_after h move

end Course

end NodeProbe
