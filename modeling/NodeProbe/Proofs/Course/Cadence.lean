import NodeProbe.Proofs.Course.Overlap
import NodeProbe.Proofs.Course.Rhythm

/-!
# Every enabled call keeps its cadence

The count of a slot is the number of ticks since its call was last made, cut off at the cadence
(`Slot.Tracks`), as long as no tick throws half way. So the calls of a course keep their cadence.

A tick throws half way only when the recorder throws at a skip, and then the slots behind do not get
their turn. If that can happen there are courses in which a call misses its tick
(`exists_error_of_ticks`): `keepsCadence_iff` is the exact condition.
-/

namespace NodeProbe

open Scheduler

/-! ## One slot -/

/-- The slot counts the ticks since its call was last made, at most its cadence. -/
structure Scheduler.Slot.Tracks (slot : Slot) (beats : List Beat) : Prop where
  paced : Paced slot.spec beats
  elapsed_eq : slot.elapsed = min slot.spec.cadence (beats.length - lastFired slot.method beats)

namespace Scheduler.Slot.Tracks

variable {slot : Slot} {beats : List Beat}

theorem new (spec : MethodSpec) : (Slot.new spec).Tracks [] :=
  ⟨.nil, by simp [Slot.new]⟩

theorem isDue_iff (h : slot.Tracks beats) (henabled : slot.spec.enabled = true) :
    slot.IsDue ↔ IsDueAt slot.spec (beats.length + 1) beats := by
  have hlast : lastFired slot.method beats ≤ beats.length := h.paced.lastFired_le
  have hcount := h.elapsed_eq
  rw [Slot.IsDue, and_iff_right henabled, IsDueAt, ← Slot.method]
  omega

/-- What the slot does at a tick that gives it its turn. -/
theorem tick (h : slot.Tracks beats) (henabled : slot.spec.enabled = true) {b : Beat}
    (hnumber : b.number = beats.length + 1)
    (hfires : b.Fires slot.method ↔ slot.turn (b.busy.contains slot.method) = .fire)
    (hskips : b.Skips slot.method ↔ slot.turn (b.busy.contains slot.method) = .skip) :
    (slot.tick (b.busy.contains slot.method)).Tracks (b :: beats) := by
  have hdue := h.isDue_iff henabled
  rw [← hnumber] at hdue
  have hpaced : Paced slot.spec (b :: beats) := by
    refine h.paced.cons ⟨hnumber, ?_, ?_⟩
    · rw [← Slot.method, hfires, Slot.turn_eq_fire_iff, hdue, List.contains_eq_mem,
        decide_eq_false_iff_not]
    · rw [← Slot.method, hskips, Slot.turn_eq_skip_iff, hdue, List.contains_iff_mem]
  refine ⟨by rwa [Slot.tick_spec], ?_⟩
  have hcount := h.elapsed_eq
  have hlast : lastFired slot.method beats ≤ beats.length := h.paced.lastFired_le
  rw [Slot.elapsed_tick henabled, Slot.tick_spec, Slot.tick_method, List.length_cons]
  cases hturn : slot.turn (b.busy.contains slot.method) with
  | rest =>
    have hnot : ¬ b.Fires slot.method := by
      rw [hfires, hturn]
      decide
    rw [Slot.turn_eq_rest_iff, hdue, IsDueAt, ← Slot.method] at hturn
    rw [lastFired_of_not_fires hnot]
    simp only
    omega
  | skip =>
    have hnot : ¬ b.Fires slot.method := by
      rw [hfires, hturn]
      decide
    rw [Slot.turn_eq_skip_iff, hdue, IsDueAt, ← Slot.method] at hturn
    rw [lastFired_of_not_fires hnot]
    simp only
    omega
  | fire =>
    rw [lastFired_of_fires (hfires.mpr hturn)]
    simp only
    omega

end Scheduler.Slot.Tracks

namespace Course

variable {c c' : Course}

/-! ## All slots -/

/-- No tick threw anything. -/
def Unbroken (c : Course) : Prop :=
  ∀ b ∈ c.beats, ∃ fired, b.answer = .ok fired

/-- Every slot counts the ticks since its call was last made. -/
structure Tracks (c : Course) : Prop where
  ticks_eq : c.scheduler.ticks = c.beats.length
  slots : ∀ slot ∈ c.scheduler.slots, slot.spec.enabled = true → slot.Tracks c.beats

theorem tracks_start (catalog : Catalog) (interval : Interval) (broken : List Part)
    (base : Option Text) : (start (fresh catalog interval broken) base).Tracks where
  ticks_eq := rfl
  slots slot hslot _ := by
    obtain ⟨spec, -, rfl⟩ := List.mem_map.mp hslot
    exact .new spec

theorem answer_eq_ok_iff {r : TickResult} {fired : List Method} :
    r.answer = .ok fired ↔ r.fault = none ∧ r.fired = fired := by
  unfold TickResult.answer
  split <;> simp_all

theorem Tracks.ticked (h : c.Tracks) (hsound : c.Sound) {s : Scheduler}
    (hopen : c.scheduler.isClosed = false) (hbooks : s.books = c.scheduler.tick.1.books)
    (hfault : c.scheduler.turns.fault = none) : (c.ticked s).Tracks := by
  rw [tick_of_not_isClosed hopen] at hbooks
  have hticks : s.ticks = c.scheduler.ticks + 1 := congrArg Books.ticks hbooks
  have hslots : s.slots = c.scheduler.turns.slots := congrArg Books.slots hbooks
  have hturns := tickSlots_eq_of_fault_eq_none hfault
  rw [h.ticks_eq] at hticks
  refine ⟨?_, ?_⟩
  · rw [scheduler_ticked, beats_ticked hopen]
    exact hticks
  · rw [scheduler_ticked, beats_ticked hopen, hslots, turns, hturns, hsound.running_eq]
    intro slot' hslot' henabled
    obtain ⟨slot, hslot, rfl⟩ := List.mem_map.mp hslot'
    rw [Slot.tick_spec] at henabled
    refine (h.slots slot hslot henabled).tick henabled (b := ⟨s.ticks, c.busy, _, _⟩) hticks ?_ ?_
    · rw [Beat.Fires, mem_turns_iff hsound.distinct hslot rfl, Slot.call_mem_effects_iff]
      exact and_iff_right rfl
    · rw [Beat.Skips, mem_turns_iff hsound.distinct hslot rfl, Slot.skip_mem_effects_iff]
      exact and_iff_right rfl

theorem Tracks.step (h : c.Tracks) (hsound : c.Sound) (hstep : Step c c')
    (hunbroken : c'.Unbroken) : c'.Tracks := by
  cases hstep with
  | @quiet s effects hbooks _ =>
    have hticks : s.ticks = c.scheduler.ticks := congrArg Books.ticks hbooks
    have hslots : s.slots = c.scheduler.slots := congrArg Books.slots hbooks
    exact ⟨hticks.trans h.ticks_eq, fun slot hslot => h.slots slot (hslots ▸ hslot)⟩
  | beat hopen hbooks =>
    have hanswer := hunbroken _ (by rw [beats_ticked hopen]; exact List.mem_cons_self)
    obtain ⟨fired, hanswer⟩ := hanswer
    exact h.ticked hsound hopen hbooks (answer_eq_ok_iff.mp hanswer).1
  | fetched result time _ =>
    exact ⟨(ticks_fetched _ _ _).trans h.ticks_eq,
      fun slot hslot => h.slots slot ((slots_fetched _ _ _) ▸ hslot)⟩
  | published answer _ =>
    exact ⟨(ticks_published _ _ _).trans h.ticks_eq,
      fun slot hslot => h.slots slot ((slots_published _ _ _) ▸ hslot)⟩

/-- As long as no tick throws, the slots count. -/
theorem tracks_of {catalog : Catalog} {interval : Interval} {broken : List Part}
    {base : Option Text} {moves : List Move}
    (h : (of catalog interval broken base moves).Unbroken) :
    (of catalog interval broken base moves).Tracks := by
  refine (run_induction (P := fun c => c.Sound ∧ (c.Unbroken → c.Tracks)) ?_
    ⟨sound_start catalog interval broken base, fun _ => tracks_start ..⟩ moves).2 h
  intro c c' ⟨hsound, htracks⟩ hstep
  refine ⟨hsound.step hstep, fun hunbroken => ?_⟩
  have hearlier : c.Unbroken := fun b hb => hunbroken b (hstep.beats_suffix.subset hb)
  exact (htracks hearlier).step hsound hstep hunbroken

theorem Tracks.paced_of_enabled {catalog : Catalog} {interval : Interval} {broken : List Part}
    {base : Option Text} {moves : List Move}
    (h : (of catalog interval broken base moves).Tracks) {spec : MethodSpec}
    (hspec : spec ∈ catalog.enabled) :
    Paced spec (of catalog interval broken base moves).beats := by
  obtain ⟨hspec, henabled⟩ := List.mem_filter.mp hspec
  rw [← specs_of catalog interval broken base moves] at hspec
  obtain ⟨slot, hslot, rfl⟩ := List.mem_map.mp hspec
  exact (h.slots slot hslot henabled).paced

end Course

/-! ## Calls and answers -/

/-- Enabled calls are made and skips of them recorded at ticks only, each at most once a tick, and
the calls in the order of the catalog; a tick answers the calls it makes if it throws nothing, and
it throws if and only if a broken recorder is to record a skip. -/
def Episode.IsProper (broken : List Part) (enabled : List MethodSpec) : Episode → Prop
  | .beat b =>
    (b.effects.filterMap Effect.callee?).Sublist (enabled.map (·.method)) ∧
      (∀ m, b.effects.countP (Effect.calls m) ≤ 1 ∧
        b.effects.countP (Effect.records m .skip) ≤ 1) ∧
      (∀ m, b.Skips m → m ∈ enabled.map (·.method)) ∧
      ((∃ fired, b.answer = .ok fired) ∨ ∃ m, b.Skips m) ∧
      ∀ fired, b.answer = .ok fired →
        fired = b.effects.filterMap Effect.callee? ∧ (.skip ∈ broken → ∀ m, ¬ b.Skips m)
  | episode => ∀ e ∈ episode.effects, ∀ m, e ≠ .call m ∧ e ≠ .record m .skip

namespace Course

variable {c c' : Course}

theorem isProper_turns (hdistinct : (c.scheduler.slots.map (·.method)).Nodup) (number : Nat) :
    (Episode.beat ⟨number, c.busy, c.scheduler.turns.effects, c.scheduler.turns.answer⟩).IsProper
      c.scheduler.broken ((c.scheduler.slots.map (·.spec)).filter (·.enabled)) := by
  refine ⟨?_, fun m => ⟨countP_calls_le_one hdistinct m, countP_records_skip_le_one hdistinct m⟩,
    ?_, ?_, ?_⟩
  · rw [turns, tickSlots_callees, List.filter_map, List.map_map]
    refine tickSlots_fired_sublist.trans (List.Sublist.map _ ?_)
    refine List.monotone_filter_right _ fun slot hslot => ?_
    exact (Bool.and_eq_true _ _ ▸ hslot).1
  · intro m hskips
    obtain ⟨slot, hslot, he⟩ := exists_slot_of_mem_effects hskips
    obtain ⟨rfl, hturn⟩ := Slot.skip_mem_effects_iff.mp he
    refine List.mem_map.mpr ⟨slot.spec, List.mem_filter.mpr ⟨?_, ?_⟩, rfl⟩
    · exact List.mem_map.mpr ⟨slot, hslot, rfl⟩
    · exact (Slot.turn_eq_skip_iff.mp hturn).1.1
  · by_cases hfault : c.scheduler.turns.fault = none
    · exact .inl ⟨_, answer_eq_ok_iff.mpr ⟨hfault, rfl⟩⟩
    · obtain ⟨slot, -, hskips⟩ := exists_skip_of_fault_ne_none hfault
      exact .inr ⟨slot.method, hskips⟩
  · intro fired hanswer
    obtain ⟨hfault, rfl⟩ := answer_eq_ok_iff.mp hanswer
    refine ⟨tickSlots_callees.symm, fun hskip m => ?_⟩
    rw [turns, List.contains_iff_mem.mpr hskip] at hfault
    rw [Beat.Skips, turns, List.contains_iff_mem.mpr hskip]
    exact not_skip_of_fault_eq_none hfault m

theorem proper_of (catalog : Catalog) (interval : Interval) (broken : List Part)
    (base : Option Text) (moves : List Move) :
    ∀ episode ∈ (of catalog interval broken base moves).log,
      episode.IsProper broken catalog.enabled := by
  -- A step compares with the slots as they are, so the catalog comes in only at the end.
  suffices h : (of catalog interval broken base moves).Sound ∧
      ∀ episode ∈ (of catalog interval broken base moves).log, episode.IsProper
        (of catalog interval broken base moves).scheduler.broken
        (((of catalog interval broken base moves).scheduler.slots.map (·.spec)).filter
          (·.enabled)) by
    rw [specs_of, broken_of] at h
    exact h.2
  refine run_induction (P := fun c => c.Sound ∧ ∀ episode ∈ c.log,
    episode.IsProper c.scheduler.broken ((c.scheduler.slots.map (·.spec)).filter (·.enabled))) ?_
    ⟨sound_start catalog interval broken base, by simp [start]⟩ moves
  rintro c c' ⟨hsound, hlog⟩ hstep
  refine ⟨hsound.step hstep, ?_⟩
  rw [hstep.broken_eq, hstep.specs_eq]
  cases hstep with
  | quiet hbooks hremarks =>
    refine List.forall_mem_cons.mpr ⟨fun e he m => ?_, hlog⟩
    obtain ⟨notice, -, rfl⟩ := hremarks e he
    simp
  | beat hopen hbooks =>
    rw [ticked_of_not_isClosed hopen]
    exact List.forall_mem_cons.mpr ⟨isProper_turns hsound.distinct _, hlog⟩
  | @fetched number m result time hget =>
    refine List.forall_mem_cons.mpr ⟨fun e he m' => ?_, hlog⟩
    have hreport := reports_fetched c.scheduler m result e he
    exact ⟨hreport.ne_call m', hreport.ne_skip m'⟩
  | @published number m event answer hget =>
    refine List.forall_mem_cons.mpr ⟨fun e he m' => ?_, hlog⟩
    have hreport := reports_published c.scheduler m (event.offer c.base c.bus answer).2 e he
    exact ⟨hreport.ne_call m', hreport.ne_skip m'⟩

/-! ## When a tick throws -/

/-- No tick throws if the recorder takes skips, or if there is nothing to skip. -/
theorem unbroken_of {catalog : Catalog} {interval : Interval} {broken : List Part}
    {base : Option Text} {moves : List Move} (h : .skip ∉ broken ∨ catalog.enabled = []) :
    (of catalog interval broken base moves).Unbroken := by
  suffices hrun : (of catalog interval broken base moves).scheduler.broken = broken ∧
      (of catalog interval broken base moves).scheduler.slots.map (·.spec) = catalog.specs ∧
      (of catalog interval broken base moves).Unbroken from hrun.2.2
  refine run_induction (P := fun c => c.scheduler.broken = broken ∧
    c.scheduler.slots.map (·.spec) = catalog.specs ∧ c.Unbroken) ?_
    ⟨rfl, specs_of catalog interval broken base [], List.forall_mem_nil _⟩ moves
  intro c c' ⟨hbroken, hspecs, hunbroken⟩ hstep
  refine ⟨hstep.broken_eq.trans hbroken, hstep.specs_eq.trans hspecs, ?_⟩
  cases hstep with
  | quiet _ _ => exact hunbroken
  | beat hopen _ =>
    rw [Unbroken, beats_ticked hopen]
    refine List.forall_mem_cons.mpr ⟨⟨c.scheduler.turns.fired, ?_⟩, hunbroken⟩
    refine answer_eq_ok_iff.mpr ⟨tickSlots_fault_eq_none_iff.mpr ?_, rfl⟩
    rw [hbroken]
    refine h.imp (by simp) fun hnone slot hslot hturn => ?_
    have hspec : slot.spec ∈ catalog.enabled :=
      List.mem_filter.mpr ⟨hspecs ▸ List.mem_map.mpr ⟨slot, hslot, rfl⟩,
        (Slot.turn_eq_skip_iff.mp hturn).1.1⟩
    rw [hnone] at hspec
    exact List.not_mem_nil hspec
  | fetched _ _ _ => exact hunbroken
  | published _ _ => exact hunbroken

/-- A course of nothing but ticks: each counts, and what has been called stays busy. -/
structure Hangs (c : Course) (n : Nat) : Prop where
  isClosed_eq : c.scheduler.isClosed = false
  length_eq : c.beats.length = n
  busy : ∀ b ∈ c.beats, ∀ m, b.Fires m → m ∈ c.busy
  busy_at : ∀ later b earlier, c.beats = later ++ b :: earlier →
    ∀ b' ∈ earlier, ∀ m, b'.Fires m → m ∈ b.busy

theorem Hangs.tick {n : Nat} (h : c.Hangs n) : (c.after .tick).Hangs (n + 1) := by
  have hopen := h.isClosed_eq
  have hbusy : (c.after .tick).busy = c.busy ++ c.scheduler.turns.fired := by
    rw [after, ticked_of_not_isClosed hopen, Course.busy, List.map_append, List.map_map]
    exact congrArg (c.busy ++ ·) (List.map_id _)
  have hbeats : (c.after .tick).beats = _ := beats_ticked hopen
  refine ⟨?_, ?_, ?_, ?_⟩
  · rw [after, scheduler_ticked, tick_of_not_isClosed hopen]
    exact hopen
  · rw [hbeats, List.length_cons, h.length_eq]
  · rw [hbeats, hbusy]
    refine List.forall_mem_cons.mpr ⟨fun m hfires => ?_, fun b hb m hfires => ?_⟩
    · refine List.mem_append_right _ ?_
      rw [turns, ← tickSlots_callees]
      exact List.mem_filterMap.mpr ⟨_, hfires, rfl⟩
    · exact List.mem_append_left _ (h.busy b hb m hfires)
  · rw [hbeats]
    intro later b earlier heq
    cases later with
    | nil =>
      obtain ⟨rfl, rfl⟩ := List.cons.inj heq
      exact h.busy
    | cons first later => exact h.busy_at later b earlier (List.cons.inj heq).2

theorem hangs_of (catalog : Catalog) (interval : Interval) (broken : List Part)
    (base : Option Text) (n : Nat) :
    (of catalog interval broken base (List.replicate n .tick)).Hangs n := by
  induction n with
  | zero => exact ⟨rfl, rfl, by simp [of, run, beats, start], by simp [of, run, beats, start]⟩
  | succ n ih =>
    rw [List.replicate_succ', of_concat]
    exact ih.tick

/-- If no call ever ends and the recorder throws at skips, an enabled call brings about a tick that
throws, at the latest when it is due for the second time. -/
theorem exists_error_of_ticks {catalog : Catalog} (interval : Interval) {broken : List Part}
    (base : Option Text) (hskip : .skip ∈ broken) {spec : MethodSpec}
    (hspec : spec ∈ catalog.enabled) :
    ¬ (of catalog interval broken base
      (List.replicate (spec.cadence + spec.cadence) .tick)).Unbroken := by
  intro hunbroken
  have hpaced := (tracks_of hunbroken).paced_of_enabled hspec
  have hproper := proper_of catalog interval broken base
    (List.replicate (spec.cadence + spec.cadence) .tick)
  have hhangs := hangs_of catalog interval broken base (spec.cadence + spec.cadence)
  generalize of catalog interval broken base _ = c at *
  have hpos := spec.cadence_pos
  -- A busy call that is due would be skipped, and its tick would throw.
  have hnever : Paced.NeverBusy spec c.beats := by
    intro later b earlier heq hdue hbusy
    have hb : b ∈ c.beats := by
      rw [heq]
      exact List.mem_append_right _ List.mem_cons_self
    obtain ⟨fired, hanswer⟩ := hunbroken b hb
    have hquiet := ((hproper _ (mem_beats_iff.mp hb)).2.2.2.2 fired hanswer).2
    exact hquiet hskip _ ((hpaced later b earlier heq).skips_iff.mpr ⟨hdue, hbusy⟩)
  obtain ⟨b, hb, hnumber⟩ :=
    hpaced.exists_number_eq (Nat.add_pos_left hpos _) (Nat.le_of_eq hhangs.length_eq.symm)
  have hfires : b.Fires spec.method := by
    rw [hpaced.regular hnever hb, hnumber]
    exact Nat.dvd_add (Nat.dvd_refl _) (Nat.dvd_refl _)
  obtain ⟨later, earlier, heq⟩ := List.append_of_mem hb
  have hat := hpaced later b earlier heq
  have hearlier : Paced spec (b :: earlier) := Paced.tail (heq ▸ hpaced)
  obtain ⟨b', hb', hnumber'⟩ := hearlier.of_cons.exists_number_eq hpos (by
    have := hat.number_eq
    omega)
  have hfires' : b'.Fires spec.method := by
    have hmem : b' ∈ c.beats := by
      rw [heq]
      exact List.mem_append_right _ (List.mem_cons_of_mem _ hb')
    exact (hpaced.regular hnever hmem).mpr (hnumber' ▸ Nat.dvd_refl _)
  exact (hat.fires_iff.mp hfires).2 (hhangs.busy_at later b earlier heq b' hb' _ hfires')

/-! ## The condition -/

/-- The enabled calls of a catalog keep their cadence in a course. -/
structure KeepsCadence (catalog : Catalog) (c : Course) : Prop where
  /-- Each tick counts until the signal is raised, whoever asks for it. -/
  counted : c.scheduler.signal.isRaised = false →
    (c.after .tick).beats.length = c.beats.length + 1 ∧
      ∀ clock, c.scheduler.isRoused = true →
        (c.after (.resume clock)).beats.length = c.beats.length + 1
  /-- A call is made if it is due and free, skipped if it is due and busy, and otherwise neither. -/
  paced : ∀ spec ∈ catalog.enabled, Paced spec c.beats
  /-- Each of both happens at most once a tick. -/
  once : ∀ b ∈ c.beats, ∀ m, b.effects.countP (Effect.calls m) ≤ 1 ∧
    b.effects.countP (Effect.records m .skip) ≤ 1
  /-- Neither happens but at a tick. -/
  elsewhere : ∀ episode ∈ c.log, episode.beat? = none → ∀ e ∈ episode.effects, ∀ m,
    e ≠ .call m ∧ e ≠ .record m .skip
  /-- Two calls are at least the cadence apart. -/
  apart : ∀ spec ∈ catalog.enabled, ∀ later b earlier, c.beats = later ++ b :: earlier →
    ∀ b' ∈ earlier, b.Fires spec.method → b'.Fires spec.method →
      b'.number + spec.cadence ≤ b.number
  /-- A call that was skipped is made at the first later tick at which it is free. -/
  resumes : ∀ spec ∈ catalog.enabled, ∀ later b middle b' earlier,
    c.beats = later ++ b :: (middle ++ b' :: earlier) → b'.Skips spec.method →
      (∀ x ∈ middle, spec.method ∈ x.busy) → spec.method ∉ b.busy → b.Fires spec.method
  /-- A call that is never busy when it is due is made exactly at the multiples of its cadence. -/
  regular : ∀ spec ∈ catalog.enabled, Paced.NeverBusy spec c.beats → ∀ b ∈ c.beats,
    (b.Fires spec.method ↔ spec.cadence ∣ b.number)
  /-- A tick answers the calls it makes, in the order of the catalog. -/
  answers : ∀ b ∈ c.beats, b.answer = .ok (b.effects.filterMap Effect.callee?) ∧
    (b.effects.filterMap Effect.callee?).Sublist (catalog.enabled.map (·.method))

theorem keepsCadence_of {catalog : Catalog} {interval : Interval} {broken : List Part}
    {base : Option Text} {moves : List Move}
    (h : (of catalog interval broken base moves).Unbroken) :
    KeepsCadence catalog (of catalog interval broken base moves) := by
  have hpaced := fun spec (hspec : spec ∈ catalog.enabled) =>
    (tracks_of h).paced_of_enabled hspec
  have hproper := proper_of catalog interval broken base moves
  have horderly := orderly_of catalog interval broken base moves
  generalize of catalog interval broken base moves = c at *
  refine ⟨?_, hpaced, ?_, ?_, ?_, ?_, ?_, ?_⟩
  · intro hraised
    rw [← horderly.isClosed_eq] at hraised
    refine ⟨?_, fun clock hroused => ?_⟩
    · rw [after, beats_ticked hraised, List.length_cons]
    · simp only [after, resume, hroused, if_true]
      exact congrArg List.length (beats_ticked hraised)
  · intro b hb
    exact (hproper _ (mem_beats_iff.mp hb)).2.1
  · intro episode hepisode hnone
    have := hproper episode hepisode
    cases episode with
    | beat b => cases hnone
    | _ => exact this
  · intro spec hspec later b earlier heq b' hb'
    exact (hpaced spec hspec).apart heq hb'
  · intro spec hspec later b middle b' earlier heq
    exact (hpaced spec hspec).resumes heq
  · intro spec hspec hnever b hb
    exact (hpaced spec hspec).regular hnever hb
  · intro b hb
    obtain ⟨hsublist, -, -, -, hanswer⟩ := hproper _ (mem_beats_iff.mp hb)
    obtain ⟨fired, hok⟩ := h b hb
    refine ⟨?_, hsublist⟩
    rw [hok, (hanswer fired hok).1]

/-- **Cadence.** The enabled calls of a catalog keep their cadence in every course if and only if
the recorder takes skips or there is no enabled call. -/
theorem keepsCadence_iff (catalog : Catalog) (interval : Interval) (broken : List Part) :
    (∀ base moves, KeepsCadence catalog (of catalog interval broken base moves)) ↔
      .skip ∉ broken ∨ catalog.enabled = [] := by
  refine ⟨fun h => ?_, fun h base moves => keepsCadence_of (unbroken_of h)⟩
  by_contra hnot
  push Not at hnot
  obtain ⟨hskip, hsome⟩ := hnot
  obtain ⟨spec, hspec⟩ := List.exists_mem_of_ne_nil _ hsome
  refine exists_error_of_ticks interval none hskip hspec fun b hb => ?_
  exact ⟨_, ((h none _).answers b hb).1⟩

/-- A call that is due at every tick. -/
def everyTick (m : Method) : MethodSpec :=
  ⟨m, true, 1, Nat.one_pos, m.shape⟩

/-- Two calls that are due at every tick. -/
def pair : Catalog :=
  ⟨[everyTick .peerInfo, everyTick .uptime], by decide⟩

/-- A tick a second. -/
def second : Interval :=
  ⟨1000, 1000, by decide⟩

/-- At the first tick both calls of the pair are made. The first one hangs; the second one fails,
and is free at the second tick. -/
def halfHung : List Move :=
  [.tick, .fetched 1 (.ok ⟨.uptime, .failure .network "refused", 0⟩) 0, .tick]

/-- A free call misses its tick when the recorder throws at the skip of another. -/
theorem not_keepsCadence_halfHung :
    ¬ KeepsCadence pair (of pair second [.skip] none halfHung) := by
  intro h
  have hbeats : (of pair second [.skip] none halfHung).beats =
      [⟨2, [.peerInfo], [.record .peerInfo .skip], .error Part.skip.fault⟩,
        ⟨1, [], [.call .peerInfo, .call .uptime], .ok [.peerInfo, .uptime]⟩] := rfl
  have hmem : everyTick .uptime ∈ pair.enabled := List.mem_cons_of_mem _ List.mem_cons_self
  have hpaced := h.paced (everyTick .uptime) hmem [] _ _ hbeats
  have hfires := hpaced.fires_iff.mpr ⟨Nat.le_refl 1, by decide⟩
  simp [Beat.Fires] at hfires

end Course

end NodeProbe
