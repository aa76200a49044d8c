import NodeProbe.Extractor
import NodeProbe.Proofs.Config.Reading
import NodeProbe.Proofs.Probe.Punctual
import NodeProbe.Proofs.Probe.Timeouts

/-!
# The range of the timers

A timer keeps a delay of at most `longestDelay`; it takes a longer one for no delay at all. The
settings decide two delays: the timeout of the calls, and the interval, which the loop never sleeps
longer than. What is read from the environment is a whole number above zero, but it has no upper
bound, so the timers keep their delays exactly if both settings are small enough
(`Environment.keepsRange_iff`). An interval too long for a double stops the program before it sets a
timer.
-/

namespace NodeProbe

open Scheduler

/-- The longest delay that a timer keeps, in milliseconds. -/
def longestDelay : Nat :=
  2 ^ 31 - 1

/-- A timer keeps the delay: it is a whole number above zero and not too long. -/
def IsTimely (delay : Rat) : Prop :=
  ∃ n : Nat, delay = n ∧ 0 < n ∧ n ≤ longestDelay

/-! ## The interval -/

section Interval

variable {s : Settings} {n : Nat} {length : Rat}

/-- The interval is counted in milliseconds, or it is too long for a double. -/
theorem rational?_intervalMs (hn : 0 < n) (h : Decimal.rational? s.intervalSeconds = some (n : ℚ)) :
    Decimal.rational? s.intervalMs = some (Decimal.rounded (n * 1000 : Nat)) ∨
      Decimal.rational? s.intervalMs = none ∧ Decimal.greatest < (n * 1000 : Nat) := by
  have hn' : (0 : ℚ) < n := by exact_mod_cast hn
  have hproduct := Decimal.rational?_mul_thousand h hn'
  push_cast
  exact hproduct

theorem eq_rounded_of_intervalMs (hn : 0 < n)
    (h : Decimal.rational? s.intervalSeconds = some (n : ℚ))
    (hlength : Decimal.rational? s.intervalMs = some length) :
    length = Decimal.rounded (n * 1000 : Nat) := by
  rcases rational?_intervalMs hn h with heq | ⟨heq, -⟩
  · exact Option.some.inj (hlength.symm.trans heq)
  · cases hlength.symm.trans heq

theorem rational?_intervalMs_of_le (hn : 0 < n)
    (h : Decimal.rational? s.intervalSeconds = some (n : ℚ)) (hsmall : n * 1000 ≤ 2 ^ 53) :
    Decimal.rational? s.intervalMs = some ((n * 1000 : Nat) : ℚ) := by
  rcases rational?_intervalMs hn h with heq | ⟨-, hlarge⟩
  · rw [heq, Decimal.rounded_natCast hsmall]
  · have hpacked : Decimal.IsPacked 1075 (2 ^ 52) := ⟨by omega, .inr le_rfl, by omega⟩
    have hbound := hpacked.value_le_greatest
    have hvalue : Decimal.packedValue 1075 (2 ^ 52) = 2 ^ 53 := by
      rw [Decimal.packedValue, Decimal.leastExponent]
      norm_num
    have hsmall' : ((n * 1000 : Nat) : ℚ) ≤ 2 ^ 53 := by exact_mod_cast hsmall
    linarith

/-- Rounding does not make the interval shorter than a timer's range. -/
theorem mul_thousand_le_of_intervalMs_le (hn : 0 < n)
    (h : Decimal.rational? s.intervalSeconds = some (n : ℚ))
    (hlength : Decimal.rational? s.intervalMs = some length) (hle : length ≤ longestDelay) :
    n * 1000 ≤ longestDelay := by
  by_contra hlarge
  have hsucc : longestDelay + 1 ≤ n * 1000 := not_le.mp hlarge
  have hmono : Decimal.rounded ((longestDelay + 1 : Nat) : ℚ) ≤ length := by
    rw [eq_rounded_of_intervalMs hn h hlength]
    apply Decimal.rounded_mono
    exact_mod_cast hsucc
  rw [Decimal.rounded_natCast (by unfold longestDelay; omega)] at hmono
  push_cast at hmono
  linarith

theorem intervalMs_pos (hn : 0 < n) (h : Decimal.rational? s.intervalSeconds = some (n : ℚ))
    (hlength : Decimal.rational? s.intervalMs = some length) : 0 < length := by
  have hone : Decimal.rounded ((1 : Nat) : ℚ) ≤ length := by
    rw [eq_rounded_of_intervalMs hn h hlength]
    apply Decimal.rounded_mono
    exact_mod_cast (show 1 ≤ n * 1000 by omega)
  rw [Decimal.rounded_natCast (by omega), Nat.cast_one] at hone
  linarith

theorem Scheduler.Interval.of?_eq_some_iff {ms : Float} {interval : Interval} :
    Interval.of? ms = some interval ↔
      interval.ms = ms ∧ Decimal.rational? ms = some interval.length := by
  unfold Interval.of?
  cases hlength : Decimal.rational? ms with
  | none => simp
  | some length =>
    obtain ⟨ms', length', hpos⟩ := interval
    simp only
    split
    · simp [eq_comm]
    · rename_i hnot
      simp only [reduceCtorEq, Option.some_inj, false_iff, not_and]
      rintro - rfl
      exact hnot hpos

end Interval

/-! ## The program -/

/-- The probe that the program builds from its settings. -/
theorem Buildup.of_eq_ok {around : Surroundings} {s : Settings} {first : Nat} {p : Probe}
    (h : (Buildup.of around s first).result = .ok p) :
    ∃ interval, Interval.of? s.intervalMs = some interval ∧
      p.scheduler = fresh (.ofDisabled s.disabled) interval [] ∧ p.clock.now = around.epoch ∧
      p.transport = around.transport s ∧ p.flights = [] := by
  simp only [Buildup.of] at h
  split at h
  · cases h
  split at h
  · cases h
  · rename_i hnew
    cases h
    obtain ⟨interval, hinterval, rfl⟩ := new_eq_ok_iff.mp hnew
    exact ⟨interval, hinterval, rfl, rfl, rfl, rfl⟩

/-- Surroundings in which nothing fails, from the time zero on. -/
def Surroundings.still : Surroundings where
  identity := .standard
  broker := .scripted none none
  node := .prepared ⟨[]⟩
  occupied := none
  anyPort := "9464"
  epoch := 0

theorem Buildup.exists_of_still {s : Settings} {interval : Interval}
    (h : Interval.of? s.intervalMs = some interval) :
    ∃ p, (Buildup.of .still s 1).result = .ok p := by
  have hnew : Scheduler.new (.ofDisabled s.disabled) s.intervalMs [] =
      .ok (fresh (.ofDisabled s.disabled) interval []) :=
    new_eq_ok_iff.mpr ⟨interval, h, rfl⟩
  simp only [Buildup.of, Surroundings.still, Broker.scripted, hnew]
  exact ⟨_, rfl⟩

theorem Scheduler.interval_continueLoop (s : Scheduler) (clock : Time.Clock) (deadline : Rat) :
    (s.continueLoop clock deadline).2.1.interval = s.interval := by
  unfold continueLoop
  split <;> rfl

theorem Probe.interval_run (p : Probe) : p.run.scheduler.interval = p.scheduler.interval := by
  unfold run
  split
  · rfl
  · rename_i hrun
    obtain ⟨-, rfl, -⟩ := run_eq_ok hrun
    rw [scheduler_foldl_perform]
    exact interval_continueLoop _ _ _

theorem Race.limit_launch (clock : Time.Clock) (m : Method) (limit : Float) (reply : Reply) :
    (launch clock m limit reply).2.limit = limit := by
  cases reply <;> rfl

/-- Every act leaves the timeouts of the calls as they are. -/
theorem Probe.Timed.on {limit : Float} {p : Probe} (h : p.Timed limit) (act : Act) :
    (act.on p).Timed limit := by
  cases act with
  | tick => exact of_changes (.planned p p.clock _ _) h
  | run => exact of_changes (.run p) h
  | settle => exact of_changes (.settle p) h
  | drain => exact ⟨h.transport, h.flights⟩
  | raise reason => exact of_changes (.raise p reason) h
  | ring alarm =>
    simp only [Act.on]
    split
    · exact of_changes (.rung p alarm) h
    · exact h
  | moveTo time =>
    simp only [Act.on]
    split
    · exact ⟨h.transport, h.flights⟩
    · exact h
  | respond m replies => exact h.respond m replies
  | setBus fault => exact ⟨h.transport, h.flights⟩

namespace Pace

theorem timed_run {limit : Float} {w : Pace} (h : w.probe.Timed limit) (acts : List Act) :
    (w.run acts).probe.Timed limit := by
  induction acts generalizing w with
  | nil => exact h
  | cons act acts ih => exact ih (h.on act)

/-- The delays for which the loop has gone to sleep: when it was started until its first deadline,
and behind each round until the next one. -/
def naps (w : Pace) : List Rat :=
  w.rounds.map (fun r => (Time.Clock.startedAt r.time).remaining r.next) ++
    w.started.toList.map fun start =>
      (Time.Clock.startedAt start).remaining (Time.sum start w.probe.scheduler.interval.length)

end Pace

/-! ## The range -/

/-- Whatever surrounds a program with these settings and whatever happens to it, the timers that it
sets keep their delays. -/
structure Settings.KeepsRange (s : Settings) : Prop where
  /-- The timer of every call that may be made next. -/
  calls : ∀ around first p acts, (Buildup.of around s first).result = .ok p → ∀ m,
    ∃ limit reply delay,
      ((Pace.of p acts).probe.transport.call (Pace.of p acts).probe.clock m).2.2.1 =
          .race (Race.launch (Pace.of p acts).probe.clock m limit reply).2 ∧
        Decimal.rational? limit = some delay ∧ IsTimely delay
  /-- The timer of every sleep of the loop, which is not longer than the interval, as far as doubles
  count the milliseconds exactly. -/
  sleeps : ∀ around first p acts (time : Int), (Buildup.of around s first).result = .ok p →
    around.epoch = time → (Pace.of p acts).InRange longestDelay →
      ∀ delay ∈ (Pace.of p acts).naps, IsTimely delay ∧ delay ≤ p.scheduler.interval.length

/-- The settings are small enough for the timers, or the program ends before it sets one. -/
def Settings.FitsTimers (s : Settings) : Prop :=
  Decimal.rational? s.intervalMs = none ∨
    ∃ timeout seconds : Nat, Decimal.rational? s.timeoutMs = some (timeout : ℚ) ∧
      Decimal.rational? s.intervalSeconds = some (seconds : ℚ) ∧
      timeout ≤ longestDelay ∧ seconds * 1000 ≤ longestDelay

theorem isTimely_intCast {x : Int} (hpos : 0 < x) (hle : x ≤ longestDelay) :
    IsTimely (x : ℚ) := by
  obtain ⟨n, rfl⟩ := Int.eq_ofNat_of_zero_le hpos.le
  exact ⟨n, rfl, by omega, by omega⟩

theorem Time.Clock.remaining_intCast {t d : Int} (hlt : t < d) (hspan : d - t ≤ 2 ^ 53) :
    (startedAt (t : ℚ)).remaining d = (d - t : Int) := by
  have hnot : ¬ (d : ℚ) ≤ t := not_le.mpr (by exact_mod_cast hlt)
  unfold remaining startedAt
  rw [if_neg hnot, Time.difference_intCast (by rw [abs_of_pos (by omega)]; exact hspan)]

/-- The times of rounds are whole numbers. -/
theorem Rounds.exists_intCast {start length : Int} {n : Nat} {rounds : List Round}
    (h : Rounds start length n rounds) :
    ∀ r ∈ rounds, ∃ t d : Int, r.time = t ∧ r.next = d := by
  induction h with
  | nil => exact List.forall_mem_nil _
  | cons _ _ htime _ hnext _ _ _ ih => exact List.forall_mem_cons.mpr ⟨⟨_, _, htime, hnext⟩, ih⟩

/-- A loop with a short interval sleeps for whole milliseconds, and not longer than its interval. -/
theorem Pace.isTimely_naps {length : Int} {w : Pace} (hsound : w.Sound length) (hpos : 0 < length)
    (hlength : length ≤ longestDelay) (hrange : w.InRange longestDelay) :
    ∀ delay ∈ w.naps, IsTimely delay ∧ delay ≤ length := by
  have hlongest : longestDelay ≤ 2 ^ 53 := by
    unfold longestDelay
    omega
  intro delay hdelay
  rcases List.mem_append.mp hdelay with hround | hstart
  · obtain ⟨r, hr, rfl⟩ := List.mem_map.mp hround
    cases hstarted : w.started with
    | none =>
      obtain ⟨-, -, hnone⟩ := hsound.fresh hstarted
      rw [hnone] at hr
      cases hr
    | some s =>
      obtain ⟨start, n, -, -, hrounds, -, -⟩ := hsound.runs s hstarted
      obtain ⟨t, d, ht, hd⟩ := hrounds.exists_intCast r hr
      obtain ⟨hlow, hhigh⟩ := (hrounds.isRight hpos r hr).sleep
      rw [ht, hd] at hlow hhigh ⊢
      have hlow' : 0 < d - t := by exact_mod_cast hlow
      have hhigh' : d - t ≤ length := by exact_mod_cast hhigh
      rw [Time.Clock.remaining_intCast (by omega) (by omega)]
      exact ⟨isTimely_intCast hlow' (by omega), by exact_mod_cast hhigh'⟩
  · obtain ⟨s, hs, rfl⟩ := List.mem_map.mp hstart
    have hstarted : w.started = some s := Option.mem_toList.mp hs
    obtain ⟨start, n, rfl, hnow, -, -, -⟩ := hsound.runs s hstarted
    obtain ⟨hlow, hhigh, -⟩ := hrange _ hstarted
    have hlow' : -2 ^ 53 ≤ start := by exact_mod_cast hlow
    have hhigh' : start + longestDelay ≤ 2 ^ 53 := by
      have hstartHigh : (start : ℚ) + longestDelay ≤ 2 ^ 53 := by
        push_cast at hhigh
        linarith
      exact_mod_cast hstartHigh
    have hsum : |start + length| ≤ 2 ^ 53 := by
      rw [abs_le]
      omega
    rw [hsound.length_eq, Time.sum_intCast hsum,
      Time.Clock.remaining_intCast (by omega) (by omega), add_sub_cancel_left]
    exact ⟨isTimely_intCast hpos hlength, le_rfl⟩

theorem Pace.sound_of {catalog : Catalog} {interval : Interval} {p : Probe} {length time : Int}
    {acts : List Act} (hscheduler : p.scheduler = fresh catalog interval [])
    (hlength : interval.length = length) (htime : p.clock.now = time) (hpos : 0 < length)
    (hrange : (Pace.of p acts).InRange length) : Sound length (Pace.of p acts) := by
  have hinitial : Sound length (Pace.of p []) := by
    refine ⟨⟨time, htime⟩, (congrArg (·.interval.length) hscheduler).trans hlength, ?_,
      fun _ => ?_, nofun⟩
    · intro d hd
      cases (congrArg Scheduler.loop hscheduler).symm.trans hd
    · exact ⟨congrArg Scheduler.loop hscheduler,
        ⟨congrArg (·.signal.timers) hscheduler, congrArg (·.signal.listeners) hscheduler⟩, rfl⟩
  exact hinitial.run_acts hpos hrange

namespace Settings

variable {s : Settings}

theorem keepsRange_of_fitsTimers (htimeout : positiveProblem? s.timeoutMs = none)
    (hseconds : positiveProblem? s.intervalSeconds = none) (h : s.FitsTimers) : s.KeepsRange := by
  rcases h with hnone | ⟨timeout, seconds, htimeout', hseconds', hsmall, hsmall'⟩
  · -- No probe is built, so there is no timer.
    have hrefused {around first p} (hp : (Buildup.of around s first).result = .ok p) : False := by
      obtain ⟨interval, hinterval, -⟩ := Buildup.of_eq_ok hp
      obtain ⟨-, hlength⟩ := Interval.of?_eq_some_iff.mp hinterval
      rw [hnone] at hlength
      cases hlength
    exact ⟨fun _ _ _ _ hp => (hrefused hp).elim, fun _ _ _ _ _ hp => (hrefused hp).elim⟩
  obtain ⟨n, hn, hvalue⟩ := exists_natCast_of_positiveProblem? htimeout
  obtain ⟨n', hn', hvalue'⟩ := exists_natCast_of_positiveProblem? hseconds
  obtain rfl : timeout = n := by exact_mod_cast Option.some.inj (htimeout'.symm.trans hvalue)
  obtain rfl : seconds = n' := by exact_mod_cast Option.some.inj (hseconds'.symm.trans hvalue')
  constructor
  · intro around first p acts hp m
    obtain ⟨interval, -, -, -, htransport, hflights⟩ := Buildup.of_eq_ok hp
    have hlimit : p.transport.limit? = some s.timeoutMs := by
      rw [htransport, Surroundings.transport]
      cases around.node <;> rfl
    have htimed : p.Timed s.timeoutMs := ⟨hlimit, by rw [hflights]; exact List.forall_mem_nil _⟩
    have hlast := Pace.timed_run (w := ⟨p, none, []⟩) htimed acts
    obtain ⟨-, reply, hcall⟩ :=
      Transport.exists_call_eq hlast.transport (Pace.of p acts).probe.clock m
    exact ⟨s.timeoutMs, reply, timeout, hcall, hvalue, timeout, rfl, hn, hsmall⟩
  · intro around first p acts time hp htime hrange
    obtain ⟨interval, hinterval, hscheduler, hnow, -, -⟩ := Buildup.of_eq_ok hp
    obtain ⟨-, hlength⟩ := Interval.of?_eq_some_iff.mp hinterval
    have hexact := rational?_intervalMs_of_le hn' hvalue'
      (hsmall'.trans (by unfold longestDelay; omega))
    have hlength' : interval.length = ((seconds * 1000 : Nat) : Int) :=
      Option.some.inj (hlength.symm.trans hexact)
    have hpos : (0 : Int) < (seconds * 1000 : Nat) := by omega
    have hshort : ((seconds * 1000 : Nat) : Int) ≤ longestDelay := by exact_mod_cast hsmall'
    have hrange' : (Pace.of p acts).InRange (seconds * 1000 : Nat) := by
      intro start hstarted
      obtain ⟨hlow, hhigh, hspan⟩ := hrange start hstarted
      have hshort' : (((seconds * 1000 : Nat) : Int) : ℚ) ≤ ((longestDelay : Nat) : Int) := by
        exact_mod_cast hshort
      exact ⟨hlow, by linarith, by linarith⟩
    have hsound := Pace.sound_of hscheduler hlength' (hnow.trans htime) hpos hrange'
    have hinterval' : p.scheduler.interval.length = ((seconds * 1000 : Nat) : Int) :=
      (congrArg (·.interval.length) hscheduler).trans hlength'
    rw [hinterval']
    exact Pace.isTimely_naps hsound hpos hshort hrange

/-- The first sleep of the loop is as long as the interval. -/
theorem length_le_of_keepsRange {interval : Interval} (h : s.KeepsRange)
    (hinterval : Interval.of? s.intervalMs = some interval)
    (hdouble : Decimal.rounded interval.length = interval.length) :
    interval.length ≤ longestDelay := by
  obtain ⟨p, hp⟩ := Buildup.exists_of_still hinterval
  obtain ⟨interval', hinterval', hscheduler, hnow, -, -⟩ := Buildup.of_eq_ok hp
  obtain rfl : interval = interval' := Option.some.inj (hinterval.symm.trans hinterval')
  have hloop : p.scheduler.loop = .unstarted := congrArg Scheduler.loop hscheduler
  have hstarted : (Pace.of p [.run]).started = some 0 := by
    show (Pace.after ⟨p, none, []⟩ .run).started = some 0
    simp only [Pace.after, hloop, hnow]
    rfl
  have hclock : (Pace.of p [.run]).probe.clock.now = 0 := p.now_run.trans hnow
  have hrange : (Pace.of p [.run]).InRange longestDelay := by
    intro start hstart
    cases hstarted.symm.trans hstart
    rw [hclock]
    unfold longestDelay
    norm_num
  have hlength : (Pace.of p [.run]).probe.scheduler.interval.length = interval.length :=
    congrArg (·.length) (p.interval_run.trans (congrArg Scheduler.interval hscheduler))
  have hfirst : interval.length ∈ (Pace.of p [.run]).naps := by
    unfold Pace.naps
    rw [hstarted, hlength]
    apply List.mem_append_right
    have hsum : Time.sum 0 interval.length = interval.length := by
      rw [Time.sum, zero_add, hdouble]
    have hremaining : (Time.Clock.startedAt 0).remaining interval.length = interval.length := by
      have hnot : ¬ interval.length ≤ 0 := not_le.mpr interval.positive
      unfold Time.Clock.remaining Time.Clock.startedAt
      rw [if_neg hnot, Time.difference, sub_zero, hdouble]
    simp only [Option.toList_some, List.map_singleton, List.mem_singleton, hsum, hremaining]
  obtain ⟨⟨n, hn, -, hle⟩, -⟩ := h.sleeps .still 1 p [.run] 0 hp rfl hrange _ hfirst
  rw [hn]
  exact_mod_cast hle

theorem fitsTimers_of_keepsRange (htimeout : positiveProblem? s.timeoutMs = none)
    (hseconds : positiveProblem? s.intervalSeconds = none) (h : s.KeepsRange) : s.FitsTimers := by
  cases hlength : Decimal.rational? s.intervalMs with
  | none => exact .inl hlength
  | some length =>
    obtain ⟨timeout, -, hvalue⟩ := exists_natCast_of_positiveProblem? htimeout
    obtain ⟨seconds, hpos, hvalue'⟩ := exists_natCast_of_positiveProblem? hseconds
    have hinterval : Interval.of? s.intervalMs =
        some ⟨s.intervalMs, length, intervalMs_pos hpos hvalue' hlength⟩ :=
      Interval.of?_eq_some_iff.mpr ⟨rfl, hlength⟩
    right
    refine ⟨timeout, seconds, hvalue, hvalue', ?_, ?_⟩
    · obtain ⟨p, hp⟩ := Buildup.exists_of_still hinterval
      obtain ⟨-, -, -, -, htransport, -⟩ := Buildup.of_eq_ok hp
      obtain ⟨limit, reply, delay, hcall, hdelay, n, rfl, -, hle⟩ :=
        h.calls .still 1 p [] hp .uptime
      have hlimit : limit = s.timeoutMs := by
        have hown := congrArg Transport.limit? htransport
        obtain ⟨-, reply', hcall'⟩ := Transport.exists_call_eq hown p.clock .uptime
        have hrace := Flight.race.inj (hcall.symm.trans hcall')
        have hfield := congrArg Race.limit hrace
        rwa [Race.limit_launch, Race.limit_launch] at hfield
      rw [hlimit, hvalue, Option.some_inj] at hdelay
      have heq : timeout = n := by exact_mod_cast hdelay
      rwa [heq]
    · apply mul_thousand_le_of_intervalMs_le hpos hvalue' hlength
      apply length_le_of_keepsRange h hinterval
      show Decimal.rounded length = length
      rw [eq_rounded_of_intervalMs hpos hvalue' hlength, Decimal.rounded_rounded]

end Settings

namespace Environment

/-- Whatever settings are read from the environment, the timers keep their delays. -/
def KeepsRange (env : Environment) : Prop :=
  ∀ s, Settings.ofEnvironment env = .ok s → s.KeepsRange

/-- The settings that are read are small enough for the timers. -/
def FitsTimers (env : Environment) : Prop :=
  ∀ s, Settings.ofEnvironment env = .ok s → s.FitsTimers

/-- **The timers keep their delays exactly if the settings are small enough.** -/
theorem keepsRange_iff (env : Environment) : env.KeepsRange ↔ env.FitsTimers := by
  constructor
  · intro h s hs
    obtain ⟨htimeout, hseconds⟩ := positiveProblem?_of_ofEnvironment hs
    exact Settings.fitsTimers_of_keepsRange htimeout hseconds (h s hs)
  · intro h s hs
    obtain ⟨htimeout, hseconds⟩ := positiveProblem?_of_ofEnvironment hs
    exact Settings.keepsRange_of_fitsTimers htimeout hseconds (h s hs)

/-- The timeout is one millisecond too long. -/
def patient : Environment :=
  ⟨[("RPC_COOKIE_FILE", "/var/lib/node/.cookie"), ("RPC_TIMEOUT_MS", "2147483648")]⟩

theorem not_keepsRange_patient : ¬ patient.KeepsRange := by
  intro h
  cases hs : Settings.ofEnvironment patient with
  | error fault =>
    have hread : (Settings.ofEnvironment patient).isOk = true := by decide +kernel
    rw [hs] at hread
    cases hread
  | ok s =>
    have htimeout : (Settings.ofEnvironment patient).toOption.bind
        (fun s => Decimal.rational? s.timeoutMs) = some 2147483648 := by decide +kernel
    have hinterval : (Settings.ofEnvironment patient).toOption.bind
        (fun s => Decimal.rational? s.intervalMs) = some 10000 := by decide +kernel
    rw [hs] at htimeout hinterval
    obtain ⟨hpositive, hpositive'⟩ := positiveProblem?_of_ofEnvironment hs
    rcases Settings.fitsTimers_of_keepsRange hpositive hpositive' (h s hs) with
      hnone | ⟨timeout, seconds, hvalue, -, hle, -⟩
    · cases hnone.symm.trans hinterval
    · have heq : (timeout : ℚ) = (2147483648 : Nat) :=
        Option.some.inj (hvalue.symm.trans htimeout)
      have hlarge : timeout = 2147483648 := by exact_mod_cast heq
      rw [hlarge] at hle
      exact absurd hle (by decide)

end Environment

end NodeProbe
