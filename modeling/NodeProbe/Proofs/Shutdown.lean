import Mathlib.Data.List.TakeWhile
import NodeProbe.Proofs.Keyed
import NodeProbe.Shutdown

/-!
# Sleeps, their alarms and their listeners

While a sleep is pending it has one alarm and one listener, and nothing else has any
(`Vigil.IsPaired`). Whichever comes first, the alarm or the signal, ends the sleep and takes the
other one away, so a sleep ends once, and behind a raised signal neither alarms nor listeners are
left. All this is about any interleaving of sleeps, alarms and calls to raise the signal
(`Vigil.Run`), in whatever order the alarms ring; `Vigil.keepsBooks` tells from the events alone how
every sleep has ended.
-/

namespace NodeProbe

theorem Time.Alarm.mem_of_earliest {alarms : List Time.Alarm} {alarm : Time.Alarm}
    (h : earliest alarms = some alarm) : alarm ∈ alarms := by
  induction alarms generalizing alarm with
  | nil => cases h
  | cons first rest ih =>
    unfold earliest at h
    split at h
    · rename_i next hnext
      cases h
      split
      · exact List.mem_cons_of_mem _ (ih hnext)
      · exact List.mem_cons_self
    · cases h
      exact List.mem_cons_self

theorem Time.Timed.mem_of_next? {World : Type} [Time.Timed World] {w : World} {target due : Rat}
    {alarm : Time.Alarm} (h : next? w target = some (alarm, due)) : alarm ∈ alarms w := by
  unfold next? at h
  split at h
  · rename_i first hfirst
    split at h
    · split at h
      · cases h
        exact Time.Alarm.mem_of_earliest hfirst
      · cases h
    · cases h
  · cases h

/-- A pending sleep is cut short, and one that has ended stays as it is. -/
def Sleep.cut (time : Rat) : Sleep → Sleep
  | pending => .ended false time
  | ended elapsed time => .ended elapsed time

namespace Signal

variable {s : Signal} {number k : Nat} {sleeps : List Sleep} {elapsed : Bool} {time : Rat}

/-! ## Ending sleeps -/

/-- Only the sleep of the number ends, and only if it is pending. -/
theorem finish_getElem?_eq (sleeps : List Sleep) (number : Nat) (elapsed : Bool) (time : Rat)
    (k : Nat) : (finish sleeps number elapsed time)[k]? =
      if k = number ∧ sleeps[k]? = some .pending then some (.ended elapsed time)
      else sleeps[k]? := by
  unfold finish
  rw [List.getElem?_modify]
  by_cases hk : number = k
  · subst hk
    rcases sleeps[number]? with _ | _ | _ <;> simp
  · simp [hk, Ne.symm hk]

/-- A further sleep is no other one. -/
theorem concat_getElem?_eq_some_iff {sleep other : Sleep} (hne : other ≠ sleep) :
    (sleeps ++ [other])[k]? = some sleep ↔ sleeps[k]? = some sleep := by
  rw [List.getElem?_append]
  split
  · exact Iff.rfl
  · rw [List.getElem?_singleton, List.getElem?_eq_none (l := sleeps) (by omega)]
    split <;> simp [hne]

/-- Whoever hears the signal loses the alarm and, if it is pending, ends. -/
theorem foldl_notify (time : Rat) (listeners : List Nat) (s : Signal) :
    (listeners.foldl (fun s number => s.notify time number) s).timers =
        s.timers.filter (·.1 ∉ listeners) ∧
      ∀ k, (listeners.foldl (fun s number => s.notify time number) s).sleeps[k]? =
        if k ∈ listeners ∧ s.sleeps[k]? = some .pending then some (.ended false time)
        else s.sleeps[k]? := by
  induction listeners generalizing s with
  | nil => simp
  | cons number listeners ih =>
    obtain ⟨htimers, hsleeps⟩ := ih (s.notify time number)
    rw [List.foldl_cons]
    refine ⟨?_, fun k => ?_⟩
    · rw [htimers, notify, List.filter_filter]
      refine List.filter_congr fun timer _ => ?_
      rw [Bool.eq_iff_iff]
      simp [and_comm]
    · have hfinish : (s.notify time number).sleeps[k]? = _ :=
        finish_getElem?_eq s.sleeps number false time k
      rw [hsleeps, hfinish]
      by_cases hpending : s.sleeps[k]? = some .pending
      · by_cases hk : k = number
        · subst hk
          simp [hpending]
        · simp [hk, hpending]
      · simp [hpending]

end Signal

/-! ## What can happen -/

namespace Vigil

/-- What happens to a signal: a sleep begins, the alarm of a sleep rings, or somebody asks for the
signal to be raised. -/
inductive Event where
  | slept
  | rang (number : Nat)
  | raised (reason : Text)
  deriving DecidableEq

/-- The reason of somebody who asks for the signal to be raised. -/
def Event.reason? : Event → Option Text
  | raised reason => some reason
  | _ => none

/-- The events lead from one state to the other. Any alarm that is armed may ring, whether it is due
or not, and between the events the clock may do what it likes, as long as it gives no number to two
alarms. -/
inductive Run (start : Vigil) : List Event → Vigil → Prop
  | refl : Run start [] start
  | pass {events : List Event} {v : Vigil} (clock : Time.Clock) :
    Run start events v → v.clock.armed ≤ clock.armed → Run start events { v with clock }
  | sleep {events : List Event} {v : Vigil} (delay : Option Rat) :
    Run start events v → Run start (events ++ [.slept]) (v.sleep delay)
  | ring {events : List Event} {v : Vigil} {number : Nat} {alarm : Time.Alarm} :
    Run start events v → (number, alarm) ∈ v.signal.timers →
    Run start (events ++ [.rang number]) (Time.Timed.ring v alarm)
  | raise {events : List Event} {v : Vigil} (reason : Text) :
    Run start events v → Run start (events ++ [.raised reason]) (v.raise reason)

/-- The events before the signal was raised. -/
def untilRaised (events : List Event) : List Event :=
  events.takeWhile (·.reason?.isNone)

/-- The reason for which the signal was raised first. -/
def firstReason? (events : List Event) : Option Text :=
  events.findSome? Event.reason?

/-! ## Alarms and listeners -/

/-- Pending sleeps have one alarm and one listener each, and nothing else has any. -/
structure IsPaired (v : Vigil) : Prop where
  /-- The listeners belong to the pending sleeps. -/
  listens : ∀ k, k ∈ v.signal.listeners ↔ v.signal.sleeps[k]? = some .pending
  nodup : v.signal.listeners.Nodup
  /-- The alarms belong to the listeners, one to each. -/
  timers : v.signal.timers.map (·.1) = v.signal.listeners
  numbers : (v.signal.alarms.map (·.number)).Nodup
  armed : ∀ alarm ∈ v.signal.alarms, alarm.number < v.clock.armed
  /-- Behind a raised signal there are none. -/
  quiet : v.signal.isRaised = true → v.signal.listeners = []

variable {v : Vigil} {number : Nat} {alarm : Time.Alarm}

theorem sleep_of_raised (hraised : v.signal.isRaised = true) (delay : Option Rat) :
    v.sleep delay = { v with
      signal := { v.signal with
        sleeps := v.signal.sleeps ++ [.ended false v.clock.now] } } := by
  rw [sleep, Signal.sleep, if_pos hraised]

theorem sleep_of_not_raised (hraised : v.signal.isRaised = false) (delay : Option Rat) :
    v.sleep delay = ⟨(v.clock.arm delay).1, { v.signal with
      sleeps := v.signal.sleeps ++ [.pending]
      timers := v.signal.timers ++ [(v.signal.sleeps.length, (v.clock.arm delay).2)]
      listeners := v.signal.listeners ++ [v.signal.sleeps.length] }⟩ := by
  rw [sleep, Signal.sleep, if_neg (Bool.eq_false_iff.mp hraised)]

theorem exists_sleeps_sleep (v : Vigil) (delay : Option Rat) :
    ∃ sleep, (v.sleep delay).signal.sleeps = v.signal.sleeps ++ [sleep] := by
  cases hraised : v.signal.isRaised with
  | true => exact ⟨_, by rw [sleep_of_raised hraised]⟩
  | false => exact ⟨_, by rw [sleep_of_not_raised hraised]⟩

theorem raise_of_raised (hraised : v.signal.isRaised = true) (reason : Text) :
    v.raise reason = v := by
  rw [raise, Signal.raise, if_pos hraised]

namespace IsPaired

theorem startedAt (time : Rat) : (Vigil.startedAt time).IsPaired where
  listens k := by simp [Vigil.startedAt, Signal.initial]
  nodup := .nil
  timers := rfl
  numbers := .nil
  armed := by simp [Vigil.startedAt, Signal.initial, Signal.alarms]
  quiet _ := rfl

variable (h : v.IsPaired)
include h

theorem pass {clock : Time.Clock} (hclock : v.clock.armed ≤ clock.armed) :
    ({ v with clock } : Vigil).IsPaired :=
  { h with armed := fun alarm halarm => (h.armed alarm halarm).trans_le hclock }

/-- The number of the next sleep is nobody's. -/
theorem length_notMem : v.signal.sleeps.length ∉ v.signal.listeners := by
  rw [h.listens, List.getElem?_eq_none le_rfl]
  nofun

/-- A further pending sleep has an alarm that no other sleep has. -/
theorem join (hraised : v.signal.isRaised = false) {clock : Time.Clock}
    (hfresh : v.clock.armed ≤ alarm.number) (harmed : alarm.number < clock.armed) :
    IsPaired ⟨clock, { v.signal with
      sleeps := v.signal.sleeps ++ [.pending]
      timers := v.signal.timers ++ [(v.signal.sleeps.length, alarm)]
      listeners := v.signal.listeners ++ [v.signal.sleeps.length] }⟩ where
  listens k := by
    show k ∈ v.signal.listeners ++ [v.signal.sleeps.length] ↔
      (v.signal.sleeps ++ [Sleep.pending])[k]? = some .pending
    rw [List.mem_append, List.mem_singleton, h.listens, List.getElem?_append]
    split
    · exact or_iff_left (by omega)
    · rw [List.getElem?_eq_none (by omega), List.getElem?_singleton]
      split
      · exact iff_of_true (.inr (by omega)) rfl
      · exact iff_of_false (by simp; omega) nofun
  nodup := by
    refine List.nodup_append.mpr ⟨h.nodup, List.nodup_singleton _, ?_⟩
    rintro k hk other hother rfl
    exact h.length_notMem (List.mem_singleton.mp hother ▸ hk)
  timers := by
    show (v.signal.timers ++ [(v.signal.sleeps.length, alarm)]).map (·.1) =
      v.signal.listeners ++ [v.signal.sleeps.length]
    rw [List.map_append, h.timers]
    rfl
  numbers := by
    show (((v.signal.timers ++ [(v.signal.sleeps.length, alarm)]).map (·.2)).map
      (·.number)).Nodup
    rw [List.map_append, List.map_append]
    refine List.nodup_append.mpr ⟨h.numbers, List.nodup_singleton _, ?_⟩
    rintro number hnumber other hother rfl
    obtain ⟨old, hold, rfl⟩ := List.mem_map.mp hnumber
    have hlt := h.armed old hold
    have heq : old.number = alarm.number := List.mem_singleton.mp hother
    omega
  armed other hother := by
    have hmem : other ∈ (v.signal.timers ++ [(v.signal.sleeps.length, alarm)]).map (·.2) := hother
    rw [List.map_append, List.mem_append, List.map_singleton, List.mem_singleton] at hmem
    rcases hmem with hold | rfl
    · exact (h.armed other hold).trans_le (hfresh.trans harmed.le)
    · exact harmed
  quiet hlater := absurd (hraised.symm.trans hlater) Bool.false_ne_true

theorem sleep (delay : Option Rat) : (v.sleep delay).IsPaired := by
  cases hraised : v.signal.isRaised with
  | true =>
    rw [sleep_of_raised hraised]
    refine { h with listens := fun k => (h.listens k).trans ?_ }
    exact (Signal.concat_getElem?_eq_some_iff (by simp)).symm
  | false =>
    rw [sleep_of_not_raised hraised]
    exact h.join hraised le_rfl (Nat.lt_succ_self _)

theorem nodup_alarms : v.signal.alarms.Nodup :=
  .of_map _ h.numbers

theorem mem_listeners (hmem : (number, alarm) ∈ v.signal.timers) : number ∈ v.signal.listeners :=
  h.timers ▸ List.mem_map_of_mem hmem

/-- No alarm is left behind a raised signal. -/
theorem isRaised_eq_false (hmem : (number, alarm) ∈ v.signal.timers) :
    v.signal.isRaised = false := by
  refine Bool.eq_false_iff.mpr fun hraised => ?_
  have hlistens := h.mem_listeners hmem
  rw [h.quiet hraised] at hlistens
  cases hlistens

/-- The alarm of a sleep ends it. -/
theorem ring_eq (hmem : (number, alarm) ∈ v.signal.timers) :
    Time.Timed.ring v alarm = { v with
      signal := { v.signal with
        sleeps := Signal.finish v.signal.sleeps number true v.clock.now
        timers := v.signal.timers.filter (·.1 ≠ number)
        listeners := v.signal.listeners.filter (· ≠ number) } } := by
  have hfound : v.signal.timers.find? (·.2 = alarm) = some (number, alarm) :=
    (find?_key_eq_some_iff h.nodup_alarms alarm).mpr ⟨hmem, rfl⟩
  show (⟨v.clock, v.signal.ring alarm v.clock.now⟩ : Vigil) = _
  rw [Signal.ring, hfound]

theorem ring (hmem : (number, alarm) ∈ v.signal.timers) :
    (Time.Timed.ring v alarm).IsPaired := by
  rw [h.ring_eq hmem]
  have hsublist : (v.signal.timers.filter (·.1 ≠ number)).Sublist v.signal.timers :=
    List.filter_sublist
  exact
    { listens := fun k => by
        show k ∈ v.signal.listeners.filter (· ≠ number) ↔
          (Signal.finish v.signal.sleeps number true v.clock.now)[k]? = some .pending
        rw [List.mem_filter, h.listens, Signal.finish_getElem?_eq]
        by_cases hpending : v.signal.sleeps[k]? = some .pending <;> simp [hpending]
      nodup := h.nodup.filter _
      timers := by
        show (v.signal.timers.filter _).map _ = v.signal.listeners.filter _
        rw [← h.timers, List.filter_map]
        rfl
      numbers := h.numbers.sublist ((hsublist.map _).map _)
      armed := fun alarm halarm => h.armed alarm ((hsublist.map _).subset halarm)
      quiet := fun hraised => by
        show v.signal.listeners.filter _ = []
        rw [h.quiet hraised]
        rfl }

/-- Raising the signal ends all pending sleeps and takes their alarms and listeners away. -/
theorem raise_eq (hraised : v.signal.isRaised = false) (reason : Text) :
    v.raise reason = { v with
      signal := ⟨some reason, v.signal.sleeps.map (Sleep.cut v.clock.now), [], []⟩ } := by
  obtain ⟨htimers, hsleeps⟩ := Signal.foldl_notify v.clock.now v.signal.listeners v.signal
  have hnone : v.signal.timers.filter (·.1 ∉ v.signal.listeners) = [] := by
    rw [List.filter_eq_nil_iff]
    intro timer htimer
    have hmem : timer.1 ∈ v.signal.listeners := h.timers ▸ List.mem_map_of_mem htimer
    simpa using hmem
  have hcut : (v.signal.listeners.foldl (fun s number => s.notify v.clock.now number)
      v.signal).sleeps = v.signal.sleeps.map (Sleep.cut v.clock.now) := by
    refine List.ext_getElem? fun k => ?_
    rw [hsleeps, List.getElem?_map]
    simp only [h.listens, and_self]
    rcases v.signal.sleeps[k]? with _ | _ | _ <;> rfl
  rw [raise, Signal.raise, if_neg (Bool.eq_false_iff.mp hraised)]
  simp only
  rw [htimers, hnone, hcut]

theorem raise (reason : Text) : (v.raise reason).IsPaired := by
  cases hraised : v.signal.isRaised with
  | true => rwa [raise_of_raised hraised]
  | false =>
    rw [h.raise_eq hraised]
    exact
      { listens := fun k => by
          show k ∈ [] ↔ (v.signal.sleeps.map (Sleep.cut v.clock.now))[k]? = some .pending
          rw [List.getElem?_map]
          rcases v.signal.sleeps[k]? with _ | _ | _ <;> simp [Sleep.cut]
        nodup := .nil
        timers := rfl
        numbers := .nil
        armed := nofun
        quiet := fun _ => rfl }

end IsPaired

/-! ## What the events tell -/

section Events

variable {events more : List Event} {reason : Text} {k : Nat}

theorem firstReason?_append :
    firstReason? (events ++ more) = (firstReason? events).or (firstReason? more) :=
  List.findSome?_append

theorem firstReason?_eq_none_iff :
    firstReason? events = none ↔ ∀ reason, .raised reason ∉ events := by
  rw [firstReason?, List.findSome?_eq_none_iff]
  constructor
  · intro h reason hmem
    exact absurd (h _ hmem) (Option.some_ne_none reason)
  · intro h event hevent
    cases event with
    | slept => rfl
    | rang number => rfl
    | raised reason => exact absurd hevent (h reason)

theorem untilRaised_eq_self_iff : untilRaised events = events ↔ firstReason? events = none := by
  rw [untilRaised, firstReason?, List.takeWhile_eq_self_iff, List.findSome?_eq_none_iff]
  simp only [Option.isNone_iff_eq_none]

/-- An alarm that rings counts if the signal has not been raised before. -/
theorem rang_mem_untilRaised_concat {event : Event} : .rang k ∈ untilRaised (events ++ [event]) ↔
    .rang k ∈ untilRaised events ∨ firstReason? events = none ∧ event = .rang k := by
  by_cases hnone : firstReason? events = none
  · have hself := untilRaised_eq_self_iff.mpr hnone
    rw [untilRaised] at hself
    rw [untilRaised, untilRaised, List.takeWhile_append, hself, if_pos rfl, List.mem_append]
    cases event <;> simp [hnone, Event.reason?, eq_comm]
  · rw [or_iff_left fun h => hnone h.1, untilRaised, List.takeWhile_append, if_neg]
    · rfl
    · exact fun hlength => hnone
        (untilRaised_eq_self_iff.mp ((List.takeWhile_prefix _).eq_of_length hlength))

end Events

/-- The state is the one that the events tell of. -/
structure IsTold (v : Vigil) (events : List Event) : Prop where
  length : v.signal.sleeps.length = events.count .slept
  reason : v.signal.reason = firstReason? events
  elapsed : ∀ k : Nat, (∃ time, v.signal.sleeps[k]? = some (.ended true time)) ↔
    .rang k ∈ untilRaised events
  /-- No sleep is cut short before the signal is raised. -/
  calm : v.signal.isRaised = false →
    ∀ (k : Nat) (time : Rat), v.signal.sleeps[k]? ≠ some (.ended false time)
  rings : ∀ k, events.count (.rang k) ≤ 1

namespace IsTold

variable {v : Vigil} {events : List Event} {number : Nat} {alarm : Time.Alarm}

theorem startedAt (time : Rat) : (Vigil.startedAt time).IsTold [] where
  length := rfl
  reason := rfl
  elapsed k := by simp [Vigil.startedAt, Signal.initial, untilRaised]
  calm _ k time := by simp [Vigil.startedAt, Signal.initial]
  rings _ := Nat.zero_le _

variable (h : v.IsTold events)
include h

theorem isRaised_eq_false_iff : v.signal.isRaised = false ↔ firstReason? events = none := by
  rw [Signal.isRaised, h.reason, Option.isSome_eq_false_iff, Option.isNone_iff_eq_none]

/-- The alarm of a pending sleep has not rung. -/
theorem rang_notMem (hpending : v.signal.sleeps[number]? = some .pending)
    (hraised : v.signal.isRaised = false) : Event.rang number ∉ events := by
  intro hrang
  rw [← untilRaised_eq_self_iff.mpr (h.isRaised_eq_false_iff.mp hraised), ← h.elapsed,
    hpending] at hrang
  simp at hrang

/-- A sleep that begins is pending, or was cut short if the signal has been raised. -/
theorem join {sleep : Sleep} (hnew : ∀ time, sleep ≠ .ended true time)
    (hcalm : v.signal.isRaised = false → sleep = .pending) {w : Vigil}
    (hsleeps : w.signal.sleeps = v.signal.sleeps ++ [sleep])
    (hreason : w.signal.reason = v.signal.reason) : w.IsTold (events ++ [.slept]) where
  length := by simp [hsleeps, h.length]
  reason := by
    rw [hreason, h.reason, firstReason?_append]
    exact Option.or_none.symm
  elapsed k := by
    rw [rang_mem_untilRaised_concat, or_iff_left (by simp), ← h.elapsed, hsleeps]
    exact exists_congr fun time => Signal.concat_getElem?_eq_some_iff (hnew time)
  calm hraised k time := by
    rw [Signal.isRaised, hreason] at hraised
    rw [hsleeps, hcalm hraised, Ne, Signal.concat_getElem?_eq_some_iff (by simp)]
    exact h.calm hraised k time
  rings k := by simpa using h.rings k

theorem sleep (delay : Option Rat) : (v.sleep delay).IsTold (events ++ [.slept]) := by
  cases hraised : v.signal.isRaised with
  | true =>
    rw [sleep_of_raised hraised]
    exact h.join (by simp) (by simp [hraised]) rfl rfl
  | false =>
    rw [sleep_of_not_raised hraised]
    exact h.join (by simp) (fun _ => rfl) rfl rfl

theorem ring (hpaired : v.IsPaired) (hmem : (number, alarm) ∈ v.signal.timers) :
    (Time.Timed.ring v alarm).IsTold (events ++ [.rang number]) := by
  have hpending := (hpaired.listens number).mp (hpaired.mem_listeners hmem)
  have hraised := hpaired.isRaised_eq_false hmem
  rw [hpaired.ring_eq hmem]
  exact
    { length := by simp [h.length, Signal.finish]
      reason := by
        rw [firstReason?_append, ← h.reason]
        exact (Option.or_none).symm
      elapsed := fun k => by
        show (∃ time, (Signal.finish v.signal.sleeps number true v.clock.now)[k]? = _) ↔ _
        rw [rang_mem_untilRaised_concat, ← h.elapsed, ← h.isRaised_eq_false_iff,
          Signal.finish_getElem?_eq]
        by_cases hk : k = number
        · subst hk
          simp [hpending, hraised]
        · simp [hk, Ne.symm hk]
      calm := fun _ k time hsleep => by
        have hsleep : (Signal.finish v.signal.sleeps number true v.clock.now)[k]? = _ := hsleep
        rw [Signal.finish_getElem?_eq] at hsleep
        split at hsleep
        · cases hsleep
        · exact h.calm hraised k time hsleep
      rings := fun k => by
        by_cases hk : k = number
        · subst hk
          simp [List.count_eq_zero.mpr (h.rang_notMem hpending hraised)]
        · simpa [Ne.symm hk] using h.rings k }

theorem raise (hpaired : v.IsPaired) (reason : Text) :
    (v.raise reason).IsTold (events ++ [.raised reason]) := by
  have helapsed (k : Nat) : .rang k ∈ untilRaised (events ++ [.raised reason]) ↔
      ∃ time, v.signal.sleeps[k]? = some (.ended true time) := by
    rw [rang_mem_untilRaised_concat, or_iff_left (by simp), h.elapsed]
  have hrings (k : Nat) : (events ++ [Event.raised reason]).count (.rang k) ≤ 1 := by
    simpa using h.rings k
  cases hraised : v.signal.isRaised with
  | true =>
    obtain ⟨first, hfirst⟩ := Option.isSome_iff_exists.mp hraised
    rw [raise_of_raised hraised]
    exact
      { length := by simp [h.length]
        reason := by rw [firstReason?_append, ← h.reason, hfirst, Option.some_or]
        elapsed := fun k => (helapsed k).symm
        calm := fun hlater => absurd (hlater.symm.trans hraised) Bool.false_ne_true
        rings := hrings }
  | false =>
    rw [hpaired.raise_eq hraised]
    exact
      { length := by simp [h.length]
        reason := by
          rw [firstReason?_append, h.isRaised_eq_false_iff.mp hraised]
          rfl
        elapsed := fun k => by
          show (∃ time, (v.signal.sleeps.map (Sleep.cut v.clock.now))[k]? = _) ↔ _
          rw [helapsed, List.getElem?_map]
          rcases v.signal.sleeps[k]? with _ | _ | _ <;> simp [Sleep.cut]
        calm := fun hlater => absurd hlater (by simp [Signal.isRaised])
        rings := hrings }

/-- A sleep was cut short if the signal was raised before its alarm rang, or before it began. -/
theorem woken_iff (hpaired : v.IsPaired) (k : Nat) :
    (∃ time, v.signal.sleeps[k]? = some (.ended false time)) ↔
      k < events.count .slept ∧ .rang k ∉ untilRaised events ∧
        ∃ reason, .raised reason ∈ events := by
  rw [← h.elapsed, ← h.length]
  cases hraised : v.signal.isRaised with
  | false =>
    have hnone := firstReason?_eq_none_iff.mp (h.isRaised_eq_false_iff.mp hraised)
    exact iff_of_false (fun ⟨time, hended⟩ => h.calm hraised k time hended)
      fun ⟨_, _, reason, hmem⟩ => hnone reason hmem
  | true =>
    have hreason : ∃ reason, Event.raised reason ∈ events := by
      by_contra hnone
      rw [h.isRaised_eq_false_iff.mpr (firstReason?_eq_none_iff.mpr (not_exists.mp hnone))]
        at hraised
      cases hraised
    -- nothing is pending behind a raised signal
    have hpending : v.signal.sleeps[k]? ≠ some .pending := by
      rw [Ne, ← hpaired.listens, hpaired.quiet hraised]
      exact List.not_mem_nil
    rw [and_iff_left hreason]
    constructor
    · rintro ⟨time, hended⟩
      refine ⟨(List.getElem?_eq_some_iff.mp hended).1, ?_⟩
      simp [hended]
    · rintro ⟨hlength, helapsed⟩
      rw [List.getElem?_eq_getElem hlength] at hpending helapsed ⊢
      cases hsleep : v.signal.sleeps[k] with
      | pending => exact absurd (congrArg some hsleep) hpending
      | ended elapsed time =>
        cases elapsed with
        | false => exact ⟨time, rfl⟩
        | true => exact absurd ⟨time, congrArg some hsleep⟩ helapsed

end IsTold

/-! ## Runs -/

namespace Run

variable {start v w : Vigil} {events later : List Event} {time : Rat}

theorem trans (h : Run start events v) (h' : Run v later w) : Run start (events ++ later) w := by
  induction h' with
  | refl => rwa [List.append_nil]
  | pass clock _ hclock ih => exact .pass clock ih hclock
  | sleep delay _ ih =>
    rw [← List.append_assoc]
    exact .sleep delay ih
  | ring _ hmem ih =>
    rw [← List.append_assoc]
    exact .ring ih hmem
  | raise reason _ ih =>
    rw [← List.append_assoc]
    exact .raise reason ih

theorem isPaired (h : Run start events v) (hstart : start.IsPaired) : v.IsPaired := by
  induction h with
  | refl => exact hstart
  | pass clock _ hclock ih => exact ih.pass hclock
  | sleep delay _ ih => exact ih.sleep delay
  | ring _ hmem ih => exact ih.ring hmem
  | raise reason _ ih => exact ih.raise reason

theorem isTold (h : Run (startedAt time) events v) : v.IsTold events := by
  induction h with
  | refl => exact .startedAt time
  | pass clock _ _ ih => exact { ih with }
  | sleep delay _ ih => exact ih.sleep delay
  | ring hrun hmem ih => exact ih.ring (hrun.isPaired (.startedAt time)) hmem
  | raise reason hrun ih => exact ih.raise (hrun.isPaired (.startedAt time)) reason

/-- A sleep that has ended stays as it is. -/
theorem getElem?_of_ended {k : Nat} {elapsed : Bool} {ended : Rat} (h : Run v later w)
    (hpaired : v.IsPaired) (hended : v.signal.sleeps[k]? = some (.ended elapsed ended)) :
    w.signal.sleeps[k]? = some (.ended elapsed ended) := by
  induction h with
  | refl => exact hended
  | pass => assumption
  | @sleep _ u delay _ ih =>
    obtain ⟨sleep, hsleeps⟩ := u.exists_sleeps_sleep delay
    rw [hsleeps, List.getElem?_append_left (List.getElem?_eq_some_iff.mp ih).1, ih]
  | ring hrun hmem ih =>
    rw [(hrun.isPaired hpaired).ring_eq hmem]
    show (Signal.finish _ _ _ _)[k]? = _
    rw [Signal.finish_getElem?_eq, if_neg (by rw [ih]; simp), ih]
  | @raise _ u reason hrun ih =>
    cases hraised : u.signal.isRaised with
    | true => rwa [raise_of_raised hraised]
    | false =>
      rw [(hrun.isPaired hpaired).raise_eq hraised]
      show (List.map _ _)[k]? = _
      rw [List.getElem?_map, ih]
      rfl

/-- Whatever alarms ring while time goes on, it is a run. -/
theorem exists_advanceTo (h : Run start events v) (target : Rat) (fuel : Nat) :
    ∃ later, Run start (events ++ later) (Time.Timed.advanceTo target fuel v) := by
  induction fuel generalizing events v with
  | zero => exact ⟨[], by rw [List.append_nil]; exact .pass _ h le_rfl⟩
  | succ fuel ih =>
    unfold Time.Timed.advanceTo
    split
    · rename_i alarm due hnext
      obtain ⟨timer, hmem, rfl⟩ := List.mem_map.mp (Time.Timed.mem_of_next? hnext)
      have hmoved : Run start events (Time.Timed.moveTo v (Time.later (Time.Timed.now v) due)) :=
        .pass _ h le_rfl
      obtain ⟨later, hlater⟩ := ih (.ring hmoved hmem)
      exact ⟨_ :: later, by rwa [List.append_assoc, List.singleton_append] at hlater⟩
    · exact ⟨[], by rw [List.append_nil]; exact .pass _ h le_rfl⟩

end Run

/-- What the events tell of the sleeps, the alarms and the listeners. -/
structure KeepsBooks (v : Vigil) (events : List Event) : Prop where
  /-- There is a sleep for every one that began. -/
  sleeps : v.signal.sleeps.length = events.count .slept
  /-- A sleep has lasted its time exactly if its alarm rang before the signal was raised. -/
  elapsed : ∀ k : Nat, (∃ time, v.signal.sleeps[k]? = some (.ended true time)) ↔
    .rang k ∈ untilRaised events
  /-- It was cut short exactly if the signal was raised before its alarm rang, or before it
  began. -/
  woken : ∀ k : Nat, (∃ time, v.signal.sleeps[k]? = some (.ended false time)) ↔
    k < events.count .slept ∧ .rang k ∉ untilRaised events ∧ ∃ reason, .raised reason ∈ events
  /-- Once it has ended, nothing ends it again. -/
  once : ∀ (k : Nat) (elapsed : Bool) (time : Rat),
    v.signal.sleeps[k]? = some (.ended elapsed time) → ∀ later w, Run v later w →
      w.signal.sleeps[k]? = some (.ended elapsed time)
  /-- An alarm rings once. -/
  rings : ∀ k, events.count (.rang k) ≤ 1
  /-- The listeners are those of the pending sleeps, one for each, -/
  listens : ∀ k, k ∈ v.signal.listeners ↔ v.signal.sleeps[k]? = some .pending
  nodup_listeners : v.signal.listeners.Nodup
  /-- and so are the alarms. -/
  timers : v.signal.timers.map (·.1) = v.signal.listeners
  nodup_alarms : v.signal.alarms.Nodup
  /-- The signal is raised for the first reason that was given. -/
  reason : v.signal.reason = firstReason? events
  /-- From then on it stays raised for this reason, and there is neither an alarm nor a listener. -/
  quiet : v.signal.isRaised = true → ∀ later w, Run v later w →
    w.signal.reason = v.signal.reason ∧ w.signal.timers = [] ∧ w.signal.listeners = []
  /-- What the clock does while time goes on is one of these runs. -/
  driven : ∀ ms, (∃ later, Run v later (Time.Timed.advance v ms)) ∧
    Run v [] (Time.Timed.stall v ms)

/-- **Every sleep ends once: by its alarm if that rings before the signal is raised, and otherwise
by the signal. Pending sleeps have one alarm and one listener each, and nothing is left of either
behind a raised signal.** -/
theorem keepsBooks {time : Rat} {events : List Event} {v : Vigil}
    (h : Run (startedAt time) events v) : v.KeepsBooks events := by
  have hpaired := h.isPaired (.startedAt time)
  have htold := h.isTold
  exact
    { sleeps := htold.length
      elapsed := htold.elapsed
      woken := htold.woken_iff hpaired
      once := fun k elapsed ended hended later w hrun => hrun.getElem?_of_ended hpaired hended
      rings := htold.rings
      listens := hpaired.listens
      nodup_listeners := hpaired.nodup
      timers := hpaired.timers
      nodup_alarms := hpaired.nodup_alarms
      reason := htold.reason
      quiet := fun hraised later w hrun => by
        have hpaired' := hrun.isPaired hpaired
        have hreason : w.signal.reason = v.signal.reason := by
          obtain ⟨first, hfirst⟩ := Option.isSome_iff_exists.mp hraised
          rw [(h.trans hrun).isTold.reason, firstReason?_append, ← htold.reason, hfirst,
            Option.some_or]
        have hlisteners : w.signal.listeners = [] :=
          hpaired'.quiet (by rw [Signal.isRaised, hreason]; exact hraised)
        exact ⟨hreason, List.map_eq_nil_iff.mp (hpaired'.timers.trans hlisteners), hlisteners⟩
      driven := fun ms => by
        obtain ⟨later, hlater⟩ := (show Run v [] v from .refl).exists_advanceTo
          (Time.sum (Time.Timed.now v) ms) (Time.Timed.bound v (Time.sum (Time.Timed.now v) ms))
        exact ⟨⟨later, hlater⟩, .pass _ .refl le_rfl⟩ }

/-- Two sleeps, of which the first lasts its time and the second is cut short, and a third one that
begins behind the raised signal. -/
theorem keepsBooks_cutShort :
    ∃ v, Run (startedAt 0) [.slept, .slept, .rang 0, .raised "stop", .slept] v ∧
      v.KeepsBooks [.slept, .slept, .rang 0, .raised "stop", .slept] :=
  have hrun : Run (startedAt 0) [.slept, .slept] (((startedAt 0).sleep (some 5)).sleep (some 7)) :=
    .sleep _ (.sleep _ .refl)
  have hring : ((0 : Nat), (⟨some 5, 0⟩ : Time.Alarm)) ∈
      (((startedAt 0).sleep (some 5)).sleep (some 7)).signal.timers := by
    decide +kernel
  have hrun' := (hrun.ring hring).raise "stop" |>.sleep (some 1)
  ⟨_, hrun', keepsBooks hrun'⟩

end Vigil

end NodeProbe
