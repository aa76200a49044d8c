import NodeProbe.Proofs.Probe.Rounds

/-!
# The loop does not drift

However long the loop was held up, and whenever, its deadlines are whole intervals after its start,
it ticks behind its deadline and not before, and the deadlines that it drops are counted
(`keepsTime_of`). When nothing holds it up it ticks at its deadlines (`OnTime`).
-/

namespace NodeProbe

open Scheduler

/-! ## Rounds -/

/-- The deadline to which rounds lead, the last one in front. -/
def nextAfter (start length : Int) : List Round → Rat
  | [] => (start + length : Int)
  | r :: _ => r.next

/-- The time lies in the interval with a number. -/
def Within (start length : Int) (n : Nat) (time : Rat) : Prop :=
  deadlineAt start length n ≤ time ∧ time < deadlineAt start length (n + 1)

/-- A round as it should be. -/
structure Round.IsRight (start length : Int) (r : Round) : Prop where
  deadline : IsDeadline start length r.deadline
  notEarly : r.deadline ≤ r.time
  /-- It leads to the first deadline that has not passed. -/
  next : IsLeast {d | IsDeadline start length d ∧ r.time < d} r.next
  sleep : 0 < r.next - r.time ∧ r.next - r.time ≤ length
  /-- What it counts as missed are the deadlines that have passed and are dropped. -/
  dropped : r.missed =
    ({d | IsDeadline start length d ∧ r.deadline < d ∧ d ≤ r.time}.ncard : Int)
  logged : ∀ missed, .print (.lagged missed) ∈ r.printed ↔ 0 < missed ∧ missed = r.missed

namespace Rounds

variable {start length : Int} {n : Nat} {rounds : List Round}

theorem nextAfter_eq (h : Rounds start length n rounds) :
    nextAfter start length rounds = deadlineAt start length n := by
  cases h with
  | nil => simp [nextAfter, deadlineAt]
  | cons _ _ _ _ hnext _ _ _ => exact hnext

theorem number_eq (h : Rounds start length n rounds) :
    (n : Int) = 1 + rounds.length + (rounds.map (·.missed)).sum := by
  induction h with
  | nil => rfl
  | cons _ _ _ hmissed _ _ _ _ ih =>
    rw [List.length_cons, List.map_cons, List.sum_cons, hmissed]
    push_cast
    omega

theorem isRight (hpos : 0 < length) (h : Rounds start length n rounds) :
    ∀ r ∈ rounds, r.IsRight start length := by
  induction h with
  | nil => exact List.forall_mem_nil _
  | @cons n k now r earlier _ hdeadline htime hmissed hnext hbelow habove hprinted ih =>
    refine List.forall_mem_cons.mpr ⟨?_, ih⟩
    have hmono := (strictMono_deadlineAt start hpos).monotone (Nat.le_add_right n k)
    have hstep := deadlineAt_add start length (n + k) 1
    refine ⟨?_, ?_, ?_, ?_, ?_, hprinted⟩
    · rw [hdeadline]
      exact isDeadline_deadlineAt _ _ _
    · rw [hdeadline, htime]
      exact_mod_cast hmono.trans hbelow
    · rw [htime, hnext]
      exact isLeast_deadlineAt hpos hbelow habove
    · have hsleep : 0 < deadlineAt start length (n + k + 1) - now ∧
          deadlineAt start length (n + k + 1) - now ≤ length := by omega
      rw [htime, hnext]
      exact_mod_cast hsleep
    · rw [hmissed, hdeadline, htime, ncard_passed hpos hbelow habove]

theorem time_lt (hpos : 0 < length) (h : Rounds start length n rounds) :
    ∀ r ∈ rounds, r.time < deadlineAt start length n := by
  induction h with
  | nil => exact List.forall_mem_nil _
  | @cons n k now r earlier _ _ htime _ _ _ habove _ ih =>
    refine List.forall_mem_cons.mpr ⟨?_, fun r hr => (ih r hr).trans ?_⟩
    · rw [htime]
      exact_mod_cast habove
    · exact_mod_cast strictMono_deadlineAt start hpos (show n < n + k + 1 by omega)

/-- Between the ticks of two rounds there is a deadline. -/
theorem apart (hpos : 0 < length) (h : Rounds start length n rounds) :
    rounds.Pairwise fun later earlier =>
      ∀ n, ¬ (Within start length n earlier.time ∧ Within start length n later.time) := by
  induction h with
  | nil => exact .nil
  | @cons n k now r earlier h _ htime _ _ hbelow _ _ ih =>
    refine .cons (fun r' hr' j => ?_) ih
    rintro ⟨⟨hlow, -⟩, -, hhigh⟩
    have hmono := strictMono_deadlineAt start hpos
    have hjn : j < n := hmono.lt_iff_lt.mp (by exact_mod_cast hlow.trans_lt (time_lt hpos h r' hr'))
    have hle : deadlineAt start length (j + 1) ≤ now :=
      (hmono.monotone (show j + 1 ≤ n + k by omega)).trans hbelow
    rw [htime] at hhigh
    exact absurd hhigh (not_lt.mpr (by exact_mod_cast hle))

/-- Rounds that tick at their deadlines tick at one deadline after the other. -/
theorem time_eq (hpos : 0 < length) (h : Rounds start length n rounds)
    (htimes : ∀ r ∈ rounds, r.time = r.deadline) :
    n = rounds.length + 1 ∧
      ∀ i r, rounds.reverse[i]? = some r →
        r.time = (deadlineAt start length (i + 1) : Rat) := by
  induction h with
  | nil => exact ⟨rfl, by simp⟩
  | @cons n k now r earlier _ hdeadline htime _ _ hbelow _ _ ih =>
    obtain ⟨hhere, hearlier⟩ := List.forall_mem_cons.mp htimes
    obtain ⟨hn, htimes⟩ := ih hearlier
    have hmono := strictMono_deadlineAt start hpos
    have hk : k = 0 := by
      rw [htime, hdeadline, Int.cast_inj] at hhere
      rw [hhere, hmono.le_iff_le] at hbelow
      omega
    subst hk hn
    refine ⟨rfl, fun i r' hr' => ?_⟩
    rw [List.reverse_cons] at hr'
    rcases Nat.lt_or_ge i earlier.reverse.length with hi | hi
    · rw [List.getElem?_append_left hi] at hr'
      exact htimes i r' hr'
    · rw [List.getElem?_append_right hi] at hr'
      obtain ⟨hlast, rfl⟩ := List.getElem?_eq_some_iff.mp hr'
      have hi' : i = earlier.length := by
        simp only [List.length_reverse, List.length_singleton] at hi hlast
        omega
      simp only [List.getElem_singleton]
      rw [hhere, hdeadline, hi']

end Rounds

/-! ## Without stalls -/

namespace Pace

variable {length : Int} {w : Pace}

/-- Nothing has held the loop up: it has ticked at its deadlines, and unless the signal has ended
its sleep, its deadline has not passed. -/
structure OnTime (w : Pace) : Prop where
  rounds : ∀ r ∈ w.rounds, r.time = r.deadline
  asleep : ∀ number d, w.probe.scheduler.loop = .asleep number d →
    (∀ time, w.probe.scheduler.signal.sleeps[number]? ≠ some (.ended false time)) →
      w.probe.clock.now ≤ d

namespace OnTime

/-- What leaves the loop alone does not hold it up. -/
theorem sleepsOn (h : w.OnTime) {q : Probe} (hq : w.probe.SleepsOn q) :
    OnTime ⟨q, w.started, w.rounds⟩ := by
  obtain ⟨hnow, -, hsignal, hworking⟩ := hq
  refine ⟨h.rounds, fun number d hloop hwoken => ?_⟩
  have hsame := Loop.eq_of_working? hworking.symm
    (by rw [show q.scheduler.loop = _ from hloop]; rfl)
  simp only [hnow, hsignal] at hwoken ⊢
  exact h.asleep number d (hsame.trans hloop) hwoken

/-- Neither does a signal that has changed. -/
theorem signaled (h : w.OnTime) (hsound : w.Sound length) {q : Probe} {signal : Signal}
    (hclock : q.clock = w.probe.clock)
    (hscheduler : q.scheduler = { w.probe.scheduler with signal })
    (hwoken : ∀ (number : Nat) (time : Rat), w.probe.scheduler.signal.timers = [] →
      w.probe.scheduler.signal.isRaised = true →
      w.probe.scheduler.signal.sleeps[number]? = some (.ended false time) →
        signal.sleeps[number]? = some (.ended false time)) :
    OnTime ⟨q, w.started, w.rounds⟩ := by
  refine ⟨h.rounds, fun number d hloop hnot => ?_⟩
  have hloop' : w.probe.scheduler.loop = .asleep number d := by
    simpa only [hscheduler] using hloop
  obtain ⟨_, _, -, -, -, -, hwaits⟩ := hsound.of_asleep hloop'
  simp only [hclock, hscheduler] at hnot ⊢
  refine h.asleep number d hloop' fun time hsleep => ?_
  cases hwaits with
  | pending hsleep' => cases hsleep.symm.trans hsleep'
  | elapsed hsleep' => cases hsleep.symm.trans hsleep'
  | woken _ htimers hraised => exact hnot time (hwoken number time htimers hraised hsleep)

/-- Time does not pass over the deadline while the loop sleeps. -/
theorem moveTo (h : w.OnTime) (hsound : w.Sound length) {time : Int}
    (hprompt : (Act.moveTo time).IsPrompt w.probe) :
    OnTime ⟨Time.Timed.moveTo w.probe (time : Rat), w.started, w.rounds⟩ := by
  obtain ⟨hroused, halarms⟩ := hprompt
  refine ⟨h.rounds, fun number d hloop hwoken => ?_⟩
  have hloop' : w.probe.scheduler.loop = .asleep number d := hloop
  obtain ⟨_, _, -, -, -, -, hwaits⟩ := hsound.of_asleep hloop'
  cases hwaits with
  | @pending alarm hsleep htimers hlisteners hdue =>
    refine halarms alarm (List.mem_append_left _ ?_) d hdue
    simp [Signal.alarms, htimers]
  | elapsed hsleep =>
    rw [isRoused, hloop'] at hroused
    simp [hsleep] at hroused
  | woken hsleep => exact absurd hsleep (hwoken _)

/-- The loop goes on before its deadline has passed. -/
theorem resume (h : w.OnTime) (hsound : w.Sound length) (hpos : 0 < length)
    (hrange : w.InRange length) :
    OnTime ⟨w.probe.resume, w.started, w.probe.round?.toList ++ w.rounds⟩ := by
  have hnext := hsound.resume hpos hrange
  rcases w.probe.resume_cases hsound.not_ticked with
    ⟨number, d, time, hloop, hsleep, hwake⟩ | ⟨hround, hsleeps | ⟨-, hleft, -⟩⟩
  · obtain ⟨hround, -⟩ := w.probe.resume_of_ticked hwake rfl
    have hdeadline : w.probe.clock.now ≤ d :=
      h.asleep number d hloop fun time' hsleep' => by cases hsleep.symm.trans hsleep'
    rw [hround] at hnext ⊢
    refine ⟨List.forall_mem_cons.mpr ⟨?_, h.rounds⟩, fun number' d' hloop' _ => ?_⟩
    · obtain ⟨_, _, -, -, -, -, hwaits⟩ := hsound.of_asleep hloop
      exact le_antisymm hdeadline (hwaits.of_elapsed hsleep).2
    · obtain ⟨_, _, -, -, hrounds, rfl, -⟩ := hnext.of_asleep hloop'
      exact w.probe.now_resume.le.trans (hrounds.time_lt hpos _ List.mem_cons_self).le
  · rw [hround]
    exact h.sleepsOn hsleeps
  · rw [hround]
    refine ⟨h.rounds, fun number d hloop => ?_⟩
    rw [show w.probe.resume.scheduler.loop = _ from hloop] at hleft
    cases hleft

/-- The loop is started with its first deadline one interval away. -/
theorem run (h : w.OnTime) (hsound : w.Sound length) (hpos : 0 < length)
    (hrange : (w.after .run).InRange length) : (w.after .run).OnTime := by
  have hnext := hsound.run hpos hrange
  have hrounds : (w.after .run).rounds = w.rounds := rfl
  refine ⟨h.rounds, fun number d hloop hwoken => ?_⟩
  cases hstarted : w.started with
  | none =>
    obtain ⟨start, n, hstart, -, hall, rfl, -⟩ := hnext.of_asleep hloop
    obtain ⟨hunstarted, -, hnone⟩ := hsound.fresh hstarted
    have hafter : (w.after .run).started = some w.probe.clock.now := by
      simp only [Pace.after, hstarted, hunstarted]
    rw [hafter, Option.some.injEq] at hstart
    rw [hrounds, hnone] at hall
    cases hall
    have hnow : (w.after .run).probe.clock.now = start := w.probe.now_run.trans hstart
    have hone : start ≤ deadlineAt start length 1 := by
      rw [deadlineAt, Nat.cast_one, one_mul]
      omega
    rw [hnow]
    exact_mod_cast hone
  | some s =>
    obtain ⟨_, _, -, -, -, hloop', -⟩ := hsound.runs s hstarted
    have hsame : (w.after .run).probe = { w.probe with runs := w.probe.runs ++ [false] } :=
      w.probe.run_of_started hloop'
    rw [hsame] at hloop hwoken ⊢
    exact h.asleep number d hloop hwoken

/-- Every prompt act keeps the loop on time. -/
theorem after (h : w.OnTime) (hsound : w.Sound length) (hpos : 0 < length) {act : Act}
    (hprompt : act.IsPrompt w.probe) (hrange : (w.after act).InRange length)
    (hrange' : w.InRange length) : (w.after act).OnTime := by
  cases act with
  | run => exact h.run hsound hpos hrange
  | settle =>
    rw [after_settle]
    exact (h.resume hsound hpos hrange').sleepsOn
      ((Probe.SleepsOn.concludeAll _).trans (.stop _))
  | tick =>
    rw [w.after_of_isAside rfl]
    exact h.sleepsOn (.tick _)
  | drain =>
    rw [w.after_of_isAside rfl]
    exact h.sleepsOn ⟨rfl, .drain _⟩
  | raise reason =>
    rw [w.after_of_isAside rfl]
    refine h.signaled hsound rfl rfl fun number time htimers hraised hsleep => ?_
    rw [Signal.raise, if_pos hraised]
    exact hsleep
  | ring alarm =>
    rw [w.after_of_isAside rfl]
    simp only [Act.on]
    split
    · obtain ⟨hclock, hscheduler⟩ := w.probe.rung_eq alarm
      refine h.signaled hsound hclock hscheduler fun number time htimers hraised hsleep => ?_
      simp only [Signal.ring, htimers, List.find?_nil]
      exact hsleep
    · exact h
  | moveTo time =>
    rw [w.after_of_isAside rfl]
    simp only [Act.on]
    split
    · exact h.moveTo hsound hprompt
    · exact h
  | respond m replies =>
    rw [w.after_of_isAside rfl]
    simp only [Act.on, Probe.respond]
    split
    · exact h.sleepsOn ⟨rfl, .refl _⟩
    · exact h
  | setBus fault =>
    rw [w.after_of_isAside rfl]
    exact h.sleepsOn ⟨rfl, .refl _⟩

theorem run_acts (h : w.OnTime) (hsound : w.Sound length) (hpos : 0 < length) {acts : List Act}
    (hprompt : w.IsPrompt acts) (hrange : (w.run acts).InRange length) : (w.run acts).OnTime := by
  induction acts generalizing w with
  | nil => exact h
  | cons act acts ih =>
    have hafter : (w.after act).InRange length := .of_run hrange
    have hbefore : w.InRange length := .of_after hafter
    exact ih (h.after hsound hpos hprompt.1 hafter hbefore)
      (hsound.after hpos act hafter hbefore) hprompt.2 hrange

end OnTime

end Pace

/-! ## The pace -/

/-- The loop of a probe to which this has happened keeps its time, counted from its start. -/
structure KeepsTime (start length : Int) (p : Probe) (acts : List Act) : Prop where
  /-- It sleeps until the deadline to which its rounds lead; its alarm is due at this time. -/
  waits : ∀ number d, (Pace.of p acts).probe.scheduler.loop = .asleep number d →
    IsDeadline start length d ∧ d = nextAfter start length (Pace.of p acts).rounds ∧
      ∀ timer ∈ (Pace.of p acts).probe.scheduler.signal.timers, timer.2.due = some d
  right : ∀ r ∈ (Pace.of p acts).rounds, r.IsRight start length
  /-- No two ticks fall in one interval. -/
  apart : (Pace.of p acts).rounds.Pairwise fun later earlier =>
    ∀ n, ¬ (Within start length n earlier.time ∧ Within start length n later.time)
  /-- Each deadline belongs to a round, was missed, or is the next one. -/
  counted : nextAfter start length (Pace.of p acts).rounds - start =
    (1 + (Pace.of p acts).rounds.length + ((Pace.of p acts).rounds.map (·.missed)).sum : Int) *
      length
  /-- Without stalls it ticks at one deadline after the other. -/
  prompt : (Pace.of p []).IsPrompt acts →
    ∀ (i : Nat) r, (Pace.of p acts).rounds.reverse[i]? = some r →
      r.time = (start + (i + 1) * length : Int)

/-- **The loop does not drift.** As long as the start, the clock and the deadline behind it are
whole numbers that doubles count exactly, the loop keeps its time, whatever happens and in whatever
order. -/
theorem keepsTime_of {catalog : Catalog} {interval : Interval} {broken : List Part} {p : Probe}
    {start length time : Int} {acts : List Act}
    (hscheduler : p.scheduler = fresh catalog interval broken)
    (hlength : interval.length = length) (htime : p.clock.now = time)
    (hstarted : (Pace.of p acts).started = some (start : Rat))
    (hrange : (Pace.of p acts).InRange length) : KeepsTime start length p acts := by
  have hpos : 0 < length := by
    have := interval.positive
    rw [hlength] at this
    exact_mod_cast this
  have hinitial : Pace.Sound length (Pace.of p []) := by
    refine ⟨⟨time, htime⟩, ?_, ?_, fun _ => ?_, nofun⟩
    · exact (congrArg (·.interval.length) hscheduler).trans hlength
    · intro d hd
      cases (congrArg Scheduler.loop hscheduler).symm.trans hd
    · exact ⟨congrArg Scheduler.loop hscheduler,
        ⟨congrArg (·.signal.timers) hscheduler, congrArg (·.signal.listeners) hscheduler⟩, rfl⟩
  have hpunctual : Pace.OnTime (Pace.of p []) := by
    refine ⟨List.forall_mem_nil _, fun number d hd => ?_⟩
    cases (congrArg Scheduler.loop hscheduler).symm.trans hd
  have hsound : Pace.Sound length (Pace.of p acts) := hinitial.run_acts hpos hrange
  obtain ⟨start', n, heq, -, hrounds, -, hwaits⟩ := hsound.runs _ hstarted
  obtain rfl : start = start' := by exact_mod_cast heq
  refine ⟨fun number d hloop => ?_, hrounds.isRight hpos, hrounds.apart hpos, ?_, fun hprompt => ?_⟩
  · obtain ⟨rfl, hwaiting⟩ := hwaits number d hloop
    refine ⟨isDeadline_deadlineAt _ _ _, hrounds.nextAfter_eq.symm, fun timer htimer => ?_⟩
    cases hwaiting with
    | pending _ htimers _ hdue =>
      rw [htimers, List.mem_singleton] at htimer
      rw [htimer]
      exact hdue
    | elapsed _ htimers => simp [htimers] at htimer
    | woken _ htimers => simp [htimers] at htimer
  · rw [hrounds.nextAfter_eq, ← hrounds.number_eq, deadlineAt]
    push_cast
    ring
  · have hontime := hpunctual.run_acts hinitial hpos hprompt hrange
    obtain ⟨-, htimes⟩ := hrounds.time_eq hpos hontime.rounds
    intro i r hr
    rw [htimes i r hr, deadlineAt]
    push_cast
    rfl

/-- A probe of the pair that ticks once a second, started at a time. -/
def clockwork (time : Int) : Probe :=
  Probe.new (fresh Course.pair Course.second []) (.outcomes ⟨[]⟩) none time

/-- The loop ticks at its first deadline, and then it is held up for two and a half seconds. -/
def heldUp : List Act :=
  [.run, .moveTo 1000, .ring ⟨some 1000, 0⟩, .settle, .moveTo 4500, .ring ⟨some 2000, 1⟩, .settle]

theorem keepsTime_heldUp :
    KeepsTime 0 1000 (clockwork 0) heldUp ∧
      (Pace.of (clockwork 0) heldUp).rounds.map (fun r => (r.time, r.next, r.missed)) =
        [(4500, 5000, 2), (1000, 2000, 0)] := by
  have hstarted : (Pace.of (clockwork 0) heldUp).started = some ((0 : Int) : Rat) := by
    decide +kernel
  have hnow : (Pace.of (clockwork 0) heldUp).probe.clock.now = 4500 := by decide +kernel
  have hrange : (Pace.of (clockwork 0) heldUp).InRange 1000 := by
    intro start hstart
    cases hstarted.symm.trans hstart
    rw [hnow]
    norm_num
  have hlength : Course.second.length = ((1000 : Int) : Rat) := rfl
  have htime : (clockwork 0).clock.now = ((0 : Int) : Rat) := rfl
  exact ⟨keepsTime_of (p := clockwork 0) rfl hlength htime hstarted hrange, by decide +kernel⟩

/-- The loop is held up for so long that the time since its start is no double. -/
def farHeldUp : List Act :=
  [.run, .moveTo 1360000000001999, .ring ⟨some (-8639999999999000), 0⟩, .settle]

/-- The loop drops a deadline that has not passed, and sleeps longer than its interval. -/
theorem not_keepsTime_farHeldUp :
    (Pace.of (clockwork (-8640000000000000)) farHeldUp).started =
        some ((-8640000000000000 : Int) : Rat) ∧
      (Pace.of (clockwork (-8640000000000000)) farHeldUp).probe.clock.now = 1360000000001999 ∧
      ¬ KeepsTime (-8640000000000000) 1000 (clockwork (-8640000000000000)) farHeldUp := by
  refine ⟨by decide +kernel, by decide +kernel, fun h => ?_⟩
  have hrounds : (Pace.of (clockwork (-8640000000000000)) farHeldUp).rounds.map
      (fun r => (r.time, r.next, r.missed)) =
        [(1360000000001999, 1360000000003000, 10000000000001)] := by
    decide +kernel
  obtain ⟨r, hr, heq⟩ := List.mem_map.mp (hrounds ▸ List.mem_singleton_self _)
  obtain ⟨-, hsleep⟩ := (h.right r hr).sleep
  simp only [Prod.mk.injEq] at heq
  obtain ⟨htime, hnext, -⟩ := heq
  rw [htime, hnext] at hsleep
  norm_num at hsleep

end NodeProbe
