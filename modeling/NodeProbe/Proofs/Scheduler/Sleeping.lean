import NodeProbe.Proofs.Scheduler.Deadline
import NodeProbe.Proofs.Scheduler.Stages

/-!
# The sleep of the loop

The loop has one sleep at a time. While it is pending, one alarm stands for it, which is due at the
deadline; when it is over, either the deadline has passed or the signal has been raised
(`Signal.Waits`). Nothing but the alarm, the signal and the loop itself touches it (`SleepsOn`).
-/

namespace NodeProbe

/-- The loop that began this sleep waits for the deadline, or has waited for it. -/
inductive Signal.Waits (s : Signal) (number : Nat) (deadline now : Rat) : Prop
  | pending {alarm : Time.Alarm} (hsleep : s.sleeps[number]? = some .pending)
      (htimers : s.timers = [(number, alarm)]) (hlisteners : s.listeners = [number])
      (hdue : alarm.due = some deadline)
  | elapsed {time : Rat} (hsleep : s.sleeps[number]? = some (.ended true time))
      (htimers : s.timers = []) (hlisteners : s.listeners = []) (hpassed : deadline ≤ now)
  | woken {time : Rat} (hsleep : s.sleeps[number]? = some (.ended false time))
      (htimers : s.timers = []) (hraised : s.isRaised = true)

/-- Nobody sleeps. -/
def Signal.IsIdle (s : Signal) : Prop :=
  s.timers = [] ∧ s.listeners = []

namespace Signal

variable {s : Signal} {number : Nat} {deadline now : Rat}

theorem finish_getElem? {sleeps : List Sleep} (h : sleeps[number]? = some .pending)
    (elapsed : Bool) (time : Rat) :
    (finish sleeps number elapsed time)[number]? = some (.ended elapsed time) := by
  simp [finish, h]

namespace IsIdle

theorem ring (h : s.IsIdle) (alarm : Time.Alarm) (time : Rat) : s.ring alarm time = s := by
  simp [Signal.ring, h.1]

theorem raise (h : s.IsIdle) (reason : Text) (time : Rat) : (s.raise reason time).IsIdle := by
  obtain ⟨htimers, hlisteners⟩ := h
  unfold Signal.raise
  split
  · exact ⟨htimers, hlisteners⟩
  · refine ⟨?_, rfl⟩
    rw [hlisteners]
    exact htimers

end IsIdle

namespace Waits

theorem later (h : s.Waits number deadline now) {now' : Rat} (hnow : now ≤ now') :
    s.Waits number deadline now' := by
  cases h with
  | pending hsleep htimers hlisteners hdue => exact .pending hsleep htimers hlisteners hdue
  | elapsed hsleep htimers hlisteners hpassed =>
    exact .elapsed hsleep htimers hlisteners (hpassed.trans hnow)
  | woken hsleep htimers hraised => exact .woken hsleep htimers hraised

/-- A sleep that ended because its time had passed ended behind the deadline. -/
theorem of_elapsed (h : s.Waits number deadline now) {time : Rat}
    (hsleep : s.sleeps[number]? = some (.ended true time)) : s.IsIdle ∧ deadline ≤ now := by
  cases h with
  | pending hsleep' => cases hsleep.symm.trans hsleep'
  | elapsed _ htimers hlisteners hpassed => exact ⟨⟨htimers, hlisteners⟩, hpassed⟩
  | woken hsleep' => cases hsleep.symm.trans hsleep'

theorem raise (h : s.Waits number deadline now) (reason : Text) (time : Rat) :
    (s.raise reason time).Waits number deadline now := by
  unfold Signal.raise
  cases hraised : s.isRaised with
  | true => exact h
  | false =>
    rw [if_neg Bool.false_ne_true]
    cases h with
    | pending hsleep htimers hlisteners hdue =>
      rw [hlisteners]
      refine .woken (finish_getElem? hsleep false time) ?_ rfl
      simp [notify, htimers]
    | elapsed hsleep htimers hlisteners hpassed =>
      rw [hlisteners]
      exact .elapsed hsleep htimers rfl hpassed
    | woken _ _ h => rw [hraised] at h; cases h

/-- An alarm does not ring before it is due. -/
theorem ring (h : s.Waits number deadline now) {alarm : Time.Alarm}
    (hdue : alarm.isDue now = true) :
    (s.ring alarm now).Waits number deadline now := by
  cases h with
  | @pending own hsleep htimers hlisteners hown =>
    unfold Signal.ring
    by_cases heq : own = alarm
    · subst heq
      have hpassed : deadline ≤ now := by simpa [Time.Alarm.isDue, hown] using hdue
      rw [htimers]
      simp only [List.find?_cons_of_pos, decide_true]
      refine .elapsed (finish_getElem? hsleep true now) ?_ ?_ hpassed
      · simp
      · simp [hlisteners]
    · rw [htimers, List.find?_cons_of_neg (by simpa using heq), List.find?_nil]
      exact .pending hsleep htimers hlisteners hown
  | elapsed hsleep htimers hlisteners hpassed =>
    rw [IsIdle.ring ⟨htimers, hlisteners⟩]
    exact .elapsed hsleep htimers hlisteners hpassed
  | woken hsleep htimers hraised =>
    have hsame : s.ring alarm now = s := by simp [Signal.ring, htimers]
    rw [hsame]
    exact .woken hsleep htimers hraised

end Waits

end Signal

namespace Scheduler

/-! ## What leaves the sleep alone -/

/-- The loop while it works. -/
def Loop.working? : Loop → Option Loop
  | draining _ | stopped | failed _ => none
  | loop => some loop

/-- The loop sleeps on while the scheduler goes from the first state to the second one. -/
structure SleepsOn (s s' : Scheduler) : Prop where
  interval_eq : s'.interval = s.interval
  signal_eq : s'.signal = s.signal
  working_eq : s'.loop.working? = s.loop.working?

variable (s : Scheduler)

namespace SleepsOn

theorem refl : SleepsOn s s :=
  ⟨rfl, rfl, rfl⟩

variable {s} {s' s'' : Scheduler}

theorem trans (h : SleepsOn s s') (h' : SleepsOn s' s'') : SleepsOn s s'' :=
  ⟨h'.interval_eq.trans h.interval_eq, h'.signal_eq.trans h.signal_eq,
    h'.working_eq.trans h.working_eq⟩

variable (s)

theorem tick : SleepsOn s s.tick.1 := by
  refine ⟨?_, signal_tick s, congrArg _ (loop_tick s)⟩
  unfold Scheduler.tick
  split <;> rfl

theorem drain : SleepsOn s s.drain :=
  ⟨rfl, rfl, rfl⟩

theorem finish (m : Method) (fault : Option Fault) : SleepsOn s (s.finish m fault) := by
  refine ⟨rfl, rfl, ?_⟩
  unfold Scheduler.finish
  cases s.loop <;> rfl

theorem abandon (m : Method) (thrown : Fault) : SleepsOn s (s.abandon m thrown).1 := by
  unfold Scheduler.abandon
  split <;> exact finish s m _

theorem fetched (m : Method) (result : Except Fault Outcome) :
    SleepsOn s (s.fetched m result).1 := by
  unfold Scheduler.fetched
  split
  · exact abandon s m _
  · split
    · exact finish s m _
    · split
      · exact finish s m _
      · exact ⟨rfl, rfl, rfl⟩

theorem published (m : Method) (answer : Except Fault (Option PublishFault)) :
    SleepsOn s (s.published m answer).1 := by
  unfold Scheduler.published
  split
  · exact abandon s m _
  · exact finish s m _
  · exact finish s m _

theorem stop : SleepsOn s s.stop.1 := by
  unfold Scheduler.stop
  simp only
  split
  · rename_i wait hloop
    split
    · exact ⟨rfl, rfl, by rw [show s.loop = .draining wait from hloop]; rfl⟩
    · exact ⟨rfl, rfl, by rw [show s.loop = .draining wait from hloop]; rfl⟩
    · exact ⟨rfl, rfl, by rw [show s.loop = .draining wait from hloop]; rfl⟩
  · exact ⟨rfl, rfl, rfl⟩

end SleepsOn

/-! ## Going to sleep -/

variable {s}

/-- The loop goes to sleep until a deadline that has not passed. -/
theorem waits_sleepUntil (hidle : s.signal.IsIdle) (hraised : s.signal.isRaised = false)
    {clock : Time.Clock} {now deadline : Int} (hnow : clock.now = now) (hlater : now < deadline)
    (hlow : -2 ^ 53 ≤ now) (hhigh : deadline ≤ 2 ^ 53) (hspan : deadline - now ≤ 2 ^ 53) :
    (s.sleepUntil clock deadline).1.now = now ∧
      ∃ number, (s.sleepUntil clock deadline).2.loop = .asleep number deadline ∧
        (s.sleepUntil clock deadline).2.signal.Waits number deadline now := by
  obtain ⟨htimers, hlisteners⟩ := hidle
  have hremaining : clock.remaining deadline = (deadline - now : Int) := by
    rw [Time.Clock.remaining, hnow, if_neg (by rw [Int.cast_le]; omega)]
    exact Time.difference_intCast (by rw [abs_of_pos (by omega)]; exact hspan)
  have hdue : Time.sum now ((deadline - now : Int) : ℚ) = deadline := by
    rw [Time.sum_intCast (by rw [abs_le]; omega)]
    congr 1
    omega
  have hforget : s.signal.forget = { s.signal with sleeps := [] } := by
    rw [Signal.forget, if_pos (by rw [htimers]; rfl)]
  have hforgotten : s.signal.forget.isRaised = false := by rw [Signal.isRaised_forget, hraised]
  have hsleep : s.signal.forget.sleep clock (some (clock.remaining deadline)) =
      ({ clock with armed := clock.armed + 1 },
        { s.signal with
          sleeps := [.pending]
          timers := [(0, ⟨some deadline, clock.armed⟩)]
          listeners := [0] }) := by
    rw [Signal.sleep, hforgotten, if_neg Bool.false_ne_true, hremaining, hforget]
    simp only [Time.Clock.arm, hnow, Option.map_some, hdue, htimers, hlisteners, List.nil_append,
      List.length_nil]
  have hnumber : s.signal.forget.sleeps.length = 0 := by rw [hforget]; rfl
  unfold sleepUntil
  simp only [hsleep, hnumber]
  exact ⟨hnow, 0, rfl, .pending rfl rfl rfl rfl⟩

end Scheduler

end NodeProbe
