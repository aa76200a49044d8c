import NodeProbe.Proofs.Scheduler.Ending

/-!
# The stages of the loop

The loop goes through its stages in one order: it is started, sleeps and ticks, waits for the calls
under way, and stops or fails. No step of a scheduler takes it back (the lemmas `stage_*`), and the
status of a scheduler follows from its stage and from its signal.
-/

namespace NodeProbe.Scheduler

/-- The stages of the loop in the order in which it can go through them. -/
def Loop.stage : Loop → Nat
  | unstarted => 0
  | asleep _ _ | ticked _ => 1
  | draining _ => 2
  | failed _ => 3
  | stopped => 4

/-- The loop is over. -/
def Loop.isOver : Loop → Bool
  | stopped | failed _ => true
  | _ => false

variable (s : Scheduler)

/-! ## The status -/

theorem isStopped_iff : s.isStopped = true ↔ 4 ≤ s.loop.stage := by
  unfold isStopped
  cases s.loop <;> simp [Loop.stage]

theorem status_eq_stopped_iff : s.status = .stopped ↔ s.isStopped = true := by
  unfold status
  cases s.isStopped with
  | true => simp
  | false =>
    rw [if_neg Bool.false_ne_true]
    split
    · simp
    · split <;> simp

variable {s} in
theorem status_of_isRaised (hstopped : s.isStopped = false) (hraised : s.signal.isRaised = true) :
    s.status = .draining := by
  rw [status, hstopped, hraised]
  rfl

variable {s} in
theorem status_of_not_isRaised (hstopped : s.isStopped = false)
    (hraised : s.signal.isRaised = false) : s.status = .idle ∨ s.status = .dispatching := by
  rw [status, hstopped, hraised]
  cases s.inFlight.isEmpty with
  | true => exact .inl rfl
  | false => exact .inr rfl

/-! ## Calls -/

@[simp] theorem stage_finish (m : Method) (fault : Option Fault) :
    (s.finish m fault).loop.stage = s.loop.stage := by
  unfold finish
  cases s.loop <;> rfl

@[simp] theorem stage_abandon (m : Method) (thrown : Fault) :
    (s.abandon m thrown).1.loop.stage = s.loop.stage := by
  unfold abandon
  split <;> exact stage_finish s m _

@[simp] theorem stage_fetched (m : Method) (result : Except Fault Outcome) :
    (s.fetched m result).1.loop.stage = s.loop.stage := by
  unfold fetched
  split
  · exact stage_abandon s m _
  · split
    · exact stage_finish s m _
    · split
      · exact stage_finish s m _
      · rfl

@[simp] theorem stage_published (m : Method) (answer : Except Fault (Option PublishFault)) :
    (s.published m answer).1.loop.stage = s.loop.stage := by
  unfold published
  split
  · exact stage_abandon s m _
  · exact stage_finish s m _
  · exact stage_finish s m _

/-! ## The loop -/

@[simp] theorem loop_tick : s.tick.1.loop = s.loop := by
  unfold tick
  split <;> rfl

theorem stage_beat_pos (deadline : Rat) : 1 ≤ (s.beat deadline).1.loop.stage := by
  unfold beat
  split
  · exact Nat.le_of_ble_eq_true rfl
  · exact Nat.le_refl 1

theorem stage_wake : s.loop.stage ≤ s.wake.1.loop.stage := by
  unfold wake
  cases hloop : s.loop with
  | asleep sleep deadline =>
    simp only
    split
    · exact stage_beat_pos s deadline
    · exact Nat.le_of_ble_eq_true rfl
    · exact Nat.le_of_eq (congrArg Loop.stage hloop.symm)
  | _ => exact Nat.le_of_eq (congrArg Loop.stage hloop.symm)

theorem stage_continueLoop_pos (clock : Time.Clock) (deadline : Rat) :
    1 ≤ (s.continueLoop clock deadline).2.1.loop.stage := by
  unfold continueLoop
  split
  · exact Nat.le_of_ble_eq_true rfl
  · exact Nat.le_refl 1

theorem stage_goOn (clock : Time.Clock) : s.loop.stage ≤ (s.goOn clock).2.1.loop.stage := by
  unfold goOn
  cases hloop : s.loop with
  | ticked deadline => exact stage_continueLoop_pos s clock _
  | _ => exact Nat.le_of_eq (congrArg Loop.stage hloop.symm)

theorem stage_stop : s.loop.stage ≤ s.stop.1.loop.stage := by
  simp only [stop]
  split
  · rename_i wait hloop
    rw [show s.loop = .draining wait from hloop]
    split <;> exact Nat.le_of_ble_eq_true rfl
  · exact Nat.le_refl _

/-- The loop can be started exactly as long as nobody has started it. -/
theorem run_eq_error_iff (clock : Time.Clock) :
    s.run clock = .error .alreadyRun ↔ s.loop.stage ≠ 0 := by
  unfold run
  cases s.loop <;> simp [Loop.stage]

variable {s} in
theorem goOn_of_not_ticked (h : ∀ d, s.loop ≠ .ticked d) (clock : Time.Clock) :
    s.goOn clock = (clock, s, []) := by
  unfold goOn
  split
  · rename_i d hloop
    exact absurd hloop (h d)
  · rfl

section

variable {s} (hover : s.loop.isOver = true)
include hover

/-- A loop that is over does not go on. -/
theorem wake_of_isOver : s.wake = (s, []) := by
  unfold wake
  cases hloop : s.loop with
  | asleep sleep deadline =>
    rw [hloop] at hover
    cases hover
  | _ => rfl

theorem goOn_of_isOver (clock : Time.Clock) : s.goOn clock = (clock, s, []) := by
  refine goOn_of_not_ticked (fun d hloop => ?_) clock
  rw [hloop] at hover
  cases hover

theorem stop_of_isOver :
    s.stop = ({ s with drains := s.drains.map (Wait.renew s.running) }, []) := by
  simp only [stop]
  cases hloop : s.loop with
  | draining wait =>
    rw [hloop] at hover
    cases hover
  | _ => rfl

end

@[simp] theorem signal_wake : s.wake.1.signal = s.signal := by
  unfold wake
  split
  · split
    · exact signal_beat s _
    · rfl
    · rfl
  · rfl

end NodeProbe.Scheduler
