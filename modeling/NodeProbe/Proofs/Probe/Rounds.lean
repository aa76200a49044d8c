import NodeProbe.Proofs.Probe.Pace

/-!
# The rounds of the loop

The rounds of a loop lead from one deadline to the next one (`Rounds`). Every act keeps the loop
waiting for the deadline to which its rounds have led (`Sound.after`), as long as doubles count the
times exactly.
-/

namespace NodeProbe

open Scheduler

/-! ## Steps of the loop -/

namespace Scheduler

variable {s : Scheduler}

theorem Loop.eq_of_working? {loop loop' : Loop} (h : loop'.working? = loop.working?)
    (hsome : loop.working?.isSome) : loop' = loop := by
  cases loop <;> cases loop' <;> simp_all [Loop.working?]

/-- What waking does: nothing, or the tick of a loop whose sleep has ended, or its end. -/
theorem wake_cases (s : Scheduler) :
    (∃ number d time, s.loop = .asleep number d ∧
      s.signal.sleeps[number]? = some (.ended true time) ∧
      (s.wake = ({ s.tick.1 with loop := .ticked d }, s.tick.2.1) ∨
        ∃ fault, s.wake = ({ s.tick.1 with loop := .failed fault }, s.tick.2.1))) ∨
      (∃ number d, s.loop = .asleep number d ∧ s.wake = s.windDown) ∨ s.wake = (s, []) := by
  unfold wake
  cases hloop : s.loop with
  | asleep number d =>
    simp only
    split
    · rename_i time hsleep
      refine .inl ⟨number, d, time, rfl, hsleep, ?_⟩
      unfold beat
      split
      · rename_i s' effects fault htick
        rw [htick]
        exact .inr ⟨fault, rfl⟩
      · rename_i s' effects fired htick
        rw [htick]
        exact .inl rfl
    · exact .inr (.inl ⟨number, d, rfl, rfl⟩)
    · exact .inr (.inr rfl)
  | _ => exact .inr (.inr rfl)

/-- What is printed about dropped deadlines is their number. -/
theorem lagged_mem_goOn_iff {d : Rat} (hloop : s.loop = .ticked d) (clock : Time.Clock)
    (missed : Int) : .print (.lagged missed) ∈ (s.goOn clock).2.2 ↔
      0 < missed ∧ missed = (nextDeadline s.interval d clock.now).2 := by
  have hrest : .print (.lagged missed) ∉
      (s.continueLoop clock (nextDeadline s.interval d clock.now).1).2.2 := by
    unfold continueLoop windDown
    split
    · simp only
      split <;> simp
    · simp
  simp only [goOn, hloop, List.mem_append, hrest, or_false]
  unfold lagWarning
  split
  · rename_i hpos
    simp only [List.mem_singleton, Effect.print.injEq, Notice.lagged.injEq]
    constructor
    · rintro rfl
      exact ⟨hpos, rfl⟩
    · exact And.right
  · rename_i hnone
    simp only [List.not_mem_nil, false_iff, not_and]
    rintro hpos rfl
    exact hnone hpos

end Scheduler

namespace Probe

variable (p : Probe)

theorem resume_of_not_ticked (h : ∀ d, p.scheduler.wake.1.loop ≠ .ticked d) :
    p.round? = none ∧ p.resume.scheduler = p.scheduler.wake.1 := by
  obtain ⟨clock, -, hresume⟩ := p.scheduler_resume
  rw [hresume, goOn_of_not_ticked h]
  refine ⟨?_, rfl⟩
  unfold round?
  split
  · rename_i d hd
    exact absurd hd (h d)
  · rfl

/-- The loop goes through a round, or does not go on, or is left. -/
theorem resume_cases (hticked : ∀ d, p.scheduler.loop ≠ .ticked d) :
    (∃ number d time, p.scheduler.loop = .asleep number d ∧
      p.scheduler.signal.sleeps[number]? = some (.ended true time) ∧
      p.scheduler.wake.1 = { p.scheduler.tick.1 with loop := .ticked d }) ∨
    p.round? = none ∧ (p.SleepsOn p.resume ∨
      p.scheduler.loop ≠ .unstarted ∧ p.resume.scheduler.loop.working? = none ∧
        p.resume.scheduler.interval = p.scheduler.interval) := by
  rcases wake_cases p.scheduler with
    ⟨number, d, time, hloop, hsleep, hwake | ⟨fault, hwake⟩⟩ | ⟨number, d, hloop, hwake⟩ | hwake
  · exact .inl ⟨number, d, time, hloop, hsleep, congrArg Prod.fst hwake⟩
  · obtain ⟨hround, hresume⟩ := p.resume_of_not_ticked (by simp [hwake])
    rw [hresume, hwake]
    exact .inr ⟨hround, .inr ⟨by simp [hloop], rfl,
      (Scheduler.SleepsOn.tick p.scheduler).interval_eq⟩⟩
  · obtain ⟨hround, hresume⟩ := p.resume_of_not_ticked (by simp [hwake, windDown])
    rw [hresume, hwake]
    exact .inr ⟨hround, .inr ⟨by simp [hloop], rfl, rfl⟩⟩
  · obtain ⟨hround, hresume⟩ := p.resume_of_not_ticked (by rwa [hwake])
    refine .inr ⟨hround, .inl ⟨p.now_resume, ?_⟩⟩
    rw [hresume, hwake]
    exact .refl _

theorem resume_of_ticked {d next : Rat} {missed : Int}
    (hwake : p.scheduler.wake.1 = { p.scheduler.tick.1 with loop := .ticked d })
    (hnext : nextDeadline p.scheduler.interval d p.clock.now = (next, missed)) :
    p.round? = some ⟨d, p.clock.now, next, missed, (p.scheduler.wake.1.goOn p.clock).2.2⟩ ∧
      ∃ clock : Time.Clock, clock.now = p.clock.now ∧ p.resume.scheduler =
        (Scheduler.continueLoop { p.scheduler.tick.1 with loop := .ticked d } clock next).2.1 := by
  obtain ⟨clock, hclock, hresume⟩ := p.scheduler_resume
  have hloop : p.scheduler.wake.1.loop = .ticked d := by rw [hwake]
  have htick := (Scheduler.SleepsOn.tick p.scheduler).interval_eq
  refine ⟨?_, clock, hclock, ?_⟩
  · unfold round?
    rw [hloop]
    simp only [hnext]
  · rw [hresume, hwake]
    simp only [goOn, htick, hclock, hnext]

/-- A loop that has been started is not started again. -/
theorem run_of_started (h : p.scheduler.loop ≠ .unstarted) :
    p.run = { p with runs := p.runs ++ [false] } := by
  unfold run Scheduler.run
  split
  · rfl
  · rename_i clock s effects hok
    split at hok
    · rename_i hunstarted
      exact absurd hunstarted h
    · cases hok

end Probe

/-! ## Rounds -/

/-- The rounds follow each other, the last one in front, and lead to the deadline with a number. -/
inductive Rounds (start length : Int) : Nat → List Round → Prop
  | nil : Rounds start length 1 []
  | cons {n k : Nat} {now : Int} {r : Round} {earlier : List Round}
      (h : Rounds start length n earlier)
      (hdeadline : r.deadline = deadlineAt start length n) (htime : r.time = now)
      (hmissed : r.missed = k) (hnext : r.next = deadlineAt start length (n + k + 1))
      (hbelow : deadlineAt start length (n + k) ≤ now)
      (habove : now < deadlineAt start length (n + k + 1))
      (hprinted : ∀ missed, .print (.lagged missed) ∈ r.printed ↔
        0 < missed ∧ missed = r.missed) :
      Rounds start length (n + k + 1) (r :: earlier)

namespace Pace

variable {length : Int} {w : Pace}

/-- The loop has been started at a time and waits for the deadline to which its rounds lead. -/
def Runs (length : Int) (w : Pace) (s : Rat) : Prop :=
  ∃ (start : Int) (n : Nat), s = start ∧ s ≤ w.probe.clock.now ∧ Rounds start length n w.rounds ∧
    w.probe.scheduler.loop ≠ .unstarted ∧
    ∀ number d, w.probe.scheduler.loop = .asleep number d →
      d = deadlineAt start length n ∧ w.probe.scheduler.signal.Waits number d w.probe.clock.now

/-- The invariant: before the loop is started nobody sleeps, and then it keeps to its deadlines. -/
structure Sound (length : Int) (w : Pace) : Prop where
  now_eq : ∃ now : Int, w.probe.clock.now = now
  length_eq : w.probe.scheduler.interval.length = length
  not_ticked : ∀ d, w.probe.scheduler.loop ≠ .ticked d
  fresh : w.started = none →
    w.probe.scheduler.loop = .unstarted ∧ w.probe.scheduler.signal.IsIdle ∧ w.rounds = []
  runs : ∀ s, w.started = some s → w.Runs length s

namespace Sound

/-- A loop that sleeps has been started, and waits for the deadline to which its rounds lead. -/
theorem of_asleep (h : w.Sound length) {number : Nat} {d : Rat}
    (hloop : w.probe.scheduler.loop = .asleep number d) :
    ∃ (start : Int) (n : Nat), w.started = some (start : Rat) ∧
      (start : Rat) ≤ w.probe.clock.now ∧ Rounds start length n w.rounds ∧
      d = deadlineAt start length n ∧
      w.probe.scheduler.signal.Waits number d w.probe.clock.now := by
  cases hstarted : w.started with
  | none => cases hloop.symm.trans (h.fresh hstarted).1
  | some s =>
    obtain ⟨start, n, rfl, hpast, hrounds, -, hwaits⟩ := h.runs s hstarted
    exact ⟨start, n, rfl, hpast, hrounds, hwaits number d hloop⟩

/-- What leaves the loop alone keeps the invariant. -/
theorem sleepsOn (h : w.Sound length) {q : Probe} (hq : w.probe.SleepsOn q) :
    Sound length ⟨q, w.started, w.rounds⟩ := by
  obtain ⟨hnow, hinterval, hsignal, hworking⟩ := hq
  have hback : ∀ loop : Loop, loop.working?.isSome → q.scheduler.loop = loop →
      w.probe.scheduler.loop = loop := by
    rintro loop hsome rfl
    exact Loop.eq_of_working? hworking.symm hsome
  refine ⟨?_, ?_, fun d hd => h.not_ticked d (hback _ rfl hd), ?_, ?_⟩
  · rw [hnow]
    exact h.now_eq
  · rw [hinterval]
    exact h.length_eq
  · intro hnone
    obtain ⟨hloop, hidle, hrounds⟩ := h.fresh hnone
    refine ⟨?_, hsignal ▸ hidle, hrounds⟩
    rw [← hloop]
    exact Loop.eq_of_working? hworking (by rw [hloop]; rfl)
  · intro s hs
    obtain ⟨start, n, hstart, hpast, hrounds, hstarted, hwaits⟩ := h.runs s hs
    refine ⟨start, n, hstart, ?_, hrounds, fun hd => hstarted (hback _ rfl hd), ?_⟩
    · rw [hnow]
      exact hpast
    · intro number d hloop
      rw [hnow, hsignal]
      exact hwaits number d (hback _ rfl hloop)

/-- Time has passed. -/
theorem moveTo (h : w.Sound length) {time : Int} (htime : w.probe.clock.now ≤ time) :
    Sound length ⟨Time.Timed.moveTo w.probe (time : Rat), w.started, w.rounds⟩ := by
  refine ⟨⟨time, rfl⟩, h.length_eq, h.not_ticked, h.fresh, fun s hs => ?_⟩
  obtain ⟨start, n, hstart, hpast, hrounds, hstarted, hwaits⟩ := h.runs s hs
  refine ⟨start, n, hstart, hpast.trans htime, hrounds, hstarted, fun number d hloop => ?_⟩
  obtain ⟨hd, hwaits⟩ := hwaits number d hloop
  exact ⟨hd, hwaits.later htime⟩

/-- The signal has changed, and whoever slept until a deadline still does or has slept. -/
theorem signaled (h : w.Sound length) {q : Probe} {signal : Signal}
    (hclock : q.clock = w.probe.clock)
    (hscheduler : q.scheduler = { w.probe.scheduler with signal })
    (hidle : w.probe.scheduler.signal.IsIdle → signal.IsIdle)
    (hwaits : ∀ number d, w.probe.scheduler.signal.Waits number d w.probe.clock.now →
      signal.Waits number d w.probe.clock.now) :
    Sound length ⟨q, w.started, w.rounds⟩ := by
  have hloop : q.scheduler.loop = w.probe.scheduler.loop := by rw [hscheduler]
  have hsignal : q.scheduler.signal = signal := by rw [hscheduler]
  refine ⟨?_, ?_, ?_, ?_, ?_⟩
  · rw [hclock]
    exact h.now_eq
  · rw [hscheduler]
    exact h.length_eq
  · rw [hloop]
    exact h.not_ticked
  · intro hnone
    obtain ⟨hfresh, hquiet, hrounds⟩ := h.fresh hnone
    exact ⟨hloop.trans hfresh, hsignal ▸ hidle hquiet, hrounds⟩
  · intro s hs
    obtain ⟨start, n, hstart, hpast, hrounds, hstarted, hall⟩ := h.runs s hs
    refine ⟨start, n, hstart, hclock ▸ hpast, hrounds, hloop ▸ hstarted, fun number d hd => ?_⟩
    obtain ⟨heq, hwaiting⟩ := hall number d (hloop ▸ hd)
    rw [hclock, hsignal]
    exact ⟨heq, hwaits number d hwaiting⟩

/-- The loop has gone on to the deadline to which its rounds lead, or has been left. -/
theorem of_continued {q : Probe} {start now : Int} {n : Nat} {rounds : List Round}
    (hnow : q.clock.now = now) (hlength : q.scheduler.interval.length = length)
    (hpast : start ≤ now) (hrounds : Rounds start length n rounds)
    (hloop : q.scheduler.loop.working? = none ∨
      ∃ number, q.scheduler.loop = .asleep number (deadlineAt start length n) ∧
        q.scheduler.signal.Waits number (deadlineAt start length n) now) :
    Sound length ⟨q, some (start : Rat), rounds⟩ := by
  have hcases : (∀ d, q.scheduler.loop ≠ .ticked d) ∧ q.scheduler.loop ≠ .unstarted := by
    rcases hloop with hleft | ⟨number, hasleep, -⟩
    · cases hq : q.scheduler.loop <;> simp_all [Loop.working?]
    · simp [hasleep]
  refine ⟨⟨now, hnow⟩, hlength, hcases.1, nofun, ?_⟩
  rintro s ⟨⟩
  refine ⟨start, n, rfl, ?_, hrounds, hcases.2, fun number d hd => ?_⟩
  · rw [hnow]
    exact_mod_cast hpast
  · rcases hloop with hleft | ⟨number', hasleep, hwaits⟩
    · rw [show q.scheduler.loop = .asleep number d from hd] at hleft
      cases hleft
    · cases hasleep.symm.trans hd
      rw [hnow]
      exact ⟨rfl, hwaits⟩

end Sound

/-- With nobody asleep the loop goes to sleep until the next deadline, or is left. -/
theorem continueLoop_cases {s : Scheduler} (hidle : s.signal.IsIdle) {clock : Time.Clock}
    {start now : Int} {n : Nat} (hnow : clock.now = now) (hpos : 0 < length)
    (hlater : now < deadlineAt start length n) (hnext : deadlineAt start length n ≤ now + length)
    (hlow : -2 ^ 53 ≤ now) (hhigh : now + length ≤ 2 ^ 53) (hspan : length ≤ 2 ^ 53) :
    (s.continueLoop clock (deadlineAt start length n)).2.1.interval = s.interval ∧
      ((s.continueLoop clock (deadlineAt start length n)).2.1.loop.working? = none ∨
        ∃ number,
          (s.continueLoop clock (deadlineAt start length n)).2.1.loop =
              .asleep number (deadlineAt start length n) ∧
            (s.continueLoop clock (deadlineAt start length n)).2.1.signal.Waits number
              (deadlineAt start length n) now) := by
  unfold continueLoop
  split
  · exact ⟨rfl, .inl rfl⟩
  · rename_i hraised
    obtain ⟨-, number, hloop, hwaits⟩ := waits_sleepUntil hidle (Bool.eq_false_iff.mpr hraised) hnow
      hlater hlow (by omega) (by omega)
    exact ⟨rfl, .inr ⟨number, hloop, hwaits⟩⟩

theorem after_settle (w : Pace) : w.after .settle =
    ⟨w.probe.settle, w.started, w.probe.round?.toList ++ w.rounds⟩ := by
  unfold after
  cases w.started <;> rfl

theorem after_of_isAside (w : Pace) {act : Act} (h : act.isAside = true) :
    w.after act = ⟨act.on w.probe, w.started, w.rounds⟩ := by
  unfold after
  cases hstarted : w.started <;> cases act <;> simp_all [Act.isAside]

namespace Sound

/-- The first attempt to run the loop starts it, and later ones change nothing. -/
theorem run (h : w.Sound length) (hpos : 0 < length) (hrange : (w.after .run).InRange length) :
    (w.after .run).Sound length := by
  cases hstarted : w.started with
  | some s =>
    obtain ⟨start, n, -, -, -, hloop, -⟩ := h.runs s hstarted
    have hsame : w.after .run = ⟨w.probe.run, w.started, w.rounds⟩ := by
      simp only [Pace.after, hstarted, Act.on]
    rw [hsame, w.probe.run_of_started hloop]
    exact h.sleepsOn ⟨rfl, .refl _⟩
  | none =>
    obtain ⟨hloop, hidle, hrounds⟩ := h.fresh hstarted
    obtain ⟨now, hnow⟩ := h.now_eq
    have hafter : w.after .run = ⟨w.probe.run, some (now : Rat), []⟩ := by
      simp only [Pace.after, hstarted, hloop, hrounds, hnow, Act.on]
    have hnow' : w.probe.run.clock.now = now := w.probe.now_run.trans hnow
    obtain ⟨hlow, hhigh, hspan⟩ :
        -2 ^ 53 ≤ now ∧ now + length ≤ 2 ^ 53 ∧ now - now + length ≤ 2 ^ 53 := by
      have := hrange now (by rw [hafter])
      rw [hafter, hnow'] at this
      exact_mod_cast this
    have hone : deadlineAt now length 1 = now + length := by
      rw [deadlineAt, Nat.cast_one, one_mul]
    have hfirst : Time.sum w.probe.clock.now w.probe.scheduler.interval.length =
        deadlineAt now length 1 := by
      rw [hnow, h.length_eq, Time.sum_intCast (by rw [abs_le]; omega), hone]
    have hscheduler : w.probe.run.scheduler =
        (w.probe.scheduler.continueLoop w.probe.clock (deadlineAt now length 1)).2.1 := by
      rw [← hfirst]
      simp only [Probe.run, Scheduler.run, hloop, Probe.scheduler_foldl_perform]
    obtain ⟨hinterval, hcontinued⟩ := continueLoop_cases (s := w.probe.scheduler) (n := 1)
      hidle hnow hpos (show now < deadlineAt now length 1 by omega) hone.le hlow hhigh (by omega)
    rw [hafter]
    refine of_continued hnow' ?_ le_rfl .nil ?_
    · rw [hscheduler, hinterval]
      exact h.length_eq
    · rw [hscheduler]
      exact hcontinued

/-- A loop that has been started is left. -/
theorem left (h : w.Sound length) (hstarted : w.probe.scheduler.loop ≠ .unstarted) {q : Probe}
    (hnow : q.clock.now = w.probe.clock.now)
    (hinterval : q.scheduler.interval = w.probe.scheduler.interval)
    (hleft : q.scheduler.loop.working? = none) : Sound length ⟨q, w.started, w.rounds⟩ := by
  obtain ⟨now, hw⟩ := h.now_eq
  cases hs : w.started with
  | none => exact absurd (h.fresh hs).1 hstarted
  | some s =>
    obtain ⟨start, n, rfl, hpast, hrounds, -, -⟩ := h.runs s hs
    have hpast' : start ≤ now := by
      rw [hw] at hpast
      exact_mod_cast hpast
    refine of_continued (hnow.trans hw) ?_ hpast' hrounds (.inl hleft)
    rw [hinterval]
    exact h.length_eq

/-- The loop ticks and goes on from the deadline that has passed to the next one. -/
theorem resume_of_ticked (h : w.Sound length) (hpos : 0 < length) (hrange : w.InRange length)
    {number : Nat} {d time : Rat} (hloop : w.probe.scheduler.loop = .asleep number d)
    (hsleep : w.probe.scheduler.signal.sleeps[number]? = some (.ended true time))
    (hwake : w.probe.scheduler.wake.1 = { w.probe.scheduler.tick.1 with loop := .ticked d }) :
    Sound length ⟨w.probe.resume, w.started, w.probe.round?.toList ++ w.rounds⟩ := by
  obtain ⟨now, hnow⟩ := h.now_eq
  obtain ⟨start, n, hstarted, hpast, hrounds, rfl, hwaiting⟩ := h.of_asleep hloop
  obtain ⟨hidle, hpassed⟩ := hwaiting.of_elapsed hsleep
  have hranges := hrange start hstarted
  rw [hnow] at hpast hpassed hranges
  obtain ⟨hlow, hhigh, hspan⟩ :
      -2 ^ 53 ≤ start ∧ now + length ≤ 2 ^ 53 ∧ now - start + length ≤ 2 ^ 53 := by
    exact_mod_cast hranges
  have hpast' : start ≤ now := by exact_mod_cast hpast
  have hpassed' : deadlineAt start length n ≤ now := by exact_mod_cast hpassed
  obtain ⟨k, hnext, hbelow, habove⟩ :=
    exists_nextDeadline_eq h.length_eq hpos hpassed' hlow hhigh hspan
  rw [← hnow] at hnext
  obtain ⟨hround, clock, hclock, hresumed⟩ := w.probe.resume_of_ticked hwake hnext
  have hidle' : w.probe.scheduler.tick.1.signal.IsIdle := by
    rw [signal_tick]
    exact hidle
  have hstep := deadlineAt_add start length (n + k) 1
  obtain ⟨hinterval, hcontinued⟩ := continueLoop_cases
    (s := { w.probe.scheduler.tick.1 with loop := .ticked (deadlineAt start length n) })
    hidle' (hclock.trans hnow) hpos habove (by omega) (by omega) hhigh (by omega)
  have htick := (SleepsOn.tick w.probe.scheduler).interval_eq
  have hprinted : ∀ missed : Int, .print (.lagged missed) ∈
      (w.probe.scheduler.wake.1.goOn w.probe.clock).2.2 ↔ 0 < missed ∧ missed = (k : Int) := by
    intro missed
    rw [hwake, lagged_mem_goOn_iff rfl]
    simp only [htick, hnext]
  rw [hround, hstarted]
  refine of_continued (w.probe.now_resume.trans hnow) ?_ hpast'
    (.cons hrounds rfl hnow rfl rfl hbelow habove hprinted) ?_
  · rw [hresumed, hinterval]
    exact (congrArg (·.length) htick).trans h.length_eq
  · rw [hresumed]
    exact hcontinued

/-- The loop goes on, by a round if it can. -/
theorem resume (h : w.Sound length) (hpos : 0 < length) (hrange : w.InRange length) :
    Sound length ⟨w.probe.resume, w.started, w.probe.round?.toList ++ w.rounds⟩ := by
  rcases w.probe.resume_cases h.not_ticked with
    ⟨number, d, time, hloop, hsleep, hwake⟩ | ⟨hround, hsleeps | ⟨hstarted, hleft, hinterval⟩⟩
  · exact h.resume_of_ticked hpos hrange hloop hsleep hwake
  · rw [hround]
    exact h.sleepsOn hsleeps
  · rw [hround]
    exact h.left hstarted w.probe.now_resume hinterval hleft

/-- Every act keeps the invariant. -/
theorem after (h : w.Sound length) (hpos : 0 < length) (act : Act)
    (hrange : (w.after act).InRange length) (hrange' : w.InRange length) :
    (w.after act).Sound length := by
  cases act with
  | run => exact h.run hpos hrange
  | settle =>
    have hresumed := h.resume hpos hrange'
    rw [after_settle]
    exact hresumed.sleepsOn ((Probe.SleepsOn.concludeAll _).trans (.stop _))
  | tick =>
    rw [w.after_of_isAside rfl]
    exact h.sleepsOn (.tick _)
  | drain =>
    rw [w.after_of_isAside rfl]
    exact h.sleepsOn ⟨rfl, .drain _⟩
  | raise reason =>
    rw [w.after_of_isAside rfl]
    exact h.signaled rfl rfl (·.raise reason _) fun _ _ hwaits => hwaits.raise reason _
  | ring alarm =>
    rw [w.after_of_isAside rfl]
    simp only [Act.on]
    split
    · rename_i hdue
      obtain ⟨hclock, hscheduler⟩ := w.probe.rung_eq alarm
      refine h.signaled hclock hscheduler (fun hidle => ?_) fun _ _ hwaits => hwaits.ring hdue
      rw [hidle.ring]
      exact hidle
    · exact h
  | moveTo time =>
    rw [w.after_of_isAside rfl]
    simp only [Act.on]
    split
    · exact h.moveTo ‹_›
    · exact h
  | respond m replies =>
    rw [w.after_of_isAside rfl]
    simp only [Act.on, Probe.respond]
    split
    · exact h.sleepsOn ⟨rfl, .refl _⟩
    · exact h
  | setBus fault =>
    rw [w.after_of_isAside rfl]
    exact h.sleepsOn ⟨rfl, .refl _⟩

end Sound

/-! ## Whole runs -/

theorem started_after {s : Rat} (h : w.started = some s) (act : Act) :
    (w.after act).started = some s := by
  simp only [after, h]

/-- The clock does not go back, so what is in range has always been. -/
theorem InRange.of_after {act : Act} (h : (w.after act).InRange length) : w.InRange length := by
  intro start hstarted
  obtain ⟨hlow, hhigh, hspan⟩ := h start (started_after hstarted act)
  have hnow : w.probe.clock.now ≤ (w.after act).probe.clock.now := act.now_le w.probe
  refine ⟨hlow, ?_, ?_⟩
  · linarith
  · linarith

theorem InRange.of_run {acts : List Act} (h : (w.run acts).InRange length) : w.InRange length := by
  induction acts generalizing w with
  | nil => exact h
  | cons act acts ih => exact .of_after (ih h)

theorem Sound.run_acts (h : w.Sound length) (hpos : 0 < length) {acts : List Act}
    (hrange : (w.run acts).InRange length) : (w.run acts).Sound length := by
  induction acts generalizing w with
  | nil => exact h
  | cons act acts ih =>
    have hafter : (w.after act).InRange length := .of_run hrange
    exact ih (h.after hpos act hafter (.of_after hafter)) hrange

end Pace

end NodeProbe
