import NodeProbe.Proofs.Course.Sight

/-!
# No call gets in the way of another

Two courses in which a call sees the same leave behind the same account of it, whatever stands in
their catalogs besides it and whatever the other calls come to (`Course.account_eq`). Again the only
exception is a recorder that throws at the skip of another call: `Course.isIsolated_iff` is the
exact condition.
-/

namespace NodeProbe

open Scheduler

/-- What a course leaves behind about a call. -/
structure Account where
  /-- The ticks at which it was made, the last one in front. -/
  fired : List Nat
  /-- The ticks at which a skip was recorded. -/
  skipped : List Nat
  /-- The durations that were recorded. -/
  durations : List Float
  errors : Nat
  publishErrors : Nat
  /-- What is on its subject. -/
  messages : List Message

/-- The account of a call, which can be told from what concerns it. -/
def Look.account (look : Look) : Account where
  fired := look.story.filterMap fun
    | (ticks, .call _) => some ticks
    | _ => none
  skipped := look.story.filterMap fun
    | (ticks, .record _ .skip) => some ticks
    | _ => none
  durations := look.story.filterMap fun
    | (_, .record _ (.duration ms)) => some ms
    | _ => none
  errors := look.story.countP fun
    | (_, .record _ .error) => true
    | _ => false
  publishErrors := look.story.countP fun
    | (_, .record _ .publishError) => true
    | _ => false
  messages := look.messages

namespace Course

/-- What a course leaves behind about a call. -/
def account (c : Course) (m : Method) : Account :=
  (c.look m).account

/-- Two courses in which the call of this entry sees the same leave behind the same account of
it. -/
def IsIsolated (spec : MethodSpec) (broken : List Part) : Prop :=
  ∀ (catalog catalog' : Catalog) (interval interval' : Interval) (base : Option Text)
    (moves moves' : List Move), spec ∈ catalog.specs → spec ∈ catalog'.specs →
      (start (fresh catalog interval broken) base).sights spec.method moves =
        (start (fresh catalog' interval' broken) base).sights spec.method moves' →
      (of catalog interval broken base moves).account spec.method =
        (of catalog' interval' broken base moves').account spec.method

/-! ## The same sights -/

section

variable {catalog : Catalog} {spec : MethodSpec} (interval : Interval) {broken : List Part}
  (base : Option Text)

theorem look_start (hspec : spec ∈ catalog.specs) :
    (start (fresh catalog interval broken) base).look spec.method =
      ⟨false, 0, some (.new spec), none, [], []⟩ := by
  have hget : catalog.specs.find? (·.method = spec.method) = some spec :=
    find?_eq_some_of_nodup catalog.distinct hspec rfl
  have hslot : (catalog.specs.map Slot.new).find? (·.method = spec.method) = some (.new spec) := by
    rw [List.find?_map]
    exact congrArg (Option.map Slot.new) hget
  rw [look]
  simp only [start, fresh, hslot]
  rfl

theorem ready_start (hspec : spec ∈ catalog.specs)
    (h : .skip ∉ broken ∨ spec.enabled = false) :
    (start (fresh catalog interval broken) base).Ready spec.method where
  sound := sound_start catalog interval broken base
  orderly := orderly_fresh catalog interval broken
  named _ _ hmem := absurd hmem List.not_mem_nil
  undisturbed := by
    refine h.imp_right fun hdisabled slot hslot heq => ?_
    obtain ⟨other, hother, rfl⟩ := List.mem_map.mp hslot
    obtain rfl := List.inj_on_of_nodup_map catalog.distinct hother hspec heq
    exact hdisabled

end

/-- **Isolation.** Unless the recorder throws at skips, a course leaves behind about a call what the
call has seen of it, whatever the other calls do. -/
theorem account_eq {spec : MethodSpec} {broken : List Part}
    (h : .skip ∉ broken ∨ spec.enabled = false) : IsIsolated spec broken := by
  intro catalog catalog' interval interval' base moves moves' hspec hspec' hsights
  have hlook := (ready_start interval base hspec h).look_run
    (s := fresh catalog interval broken) rfl moves
  have hlook' := (ready_start interval' base hspec' h).look_run
    (s := fresh catalog interval broken) rfl moves'
  rw [look_start interval base hspec, hsights] at hlook
  rw [look_start interval' base hspec'] at hlook'
  exact congrArg Look.account (hlook.trans hlook'.symm)

/-! ## A recorder that throws -/

theorem mem_storyOf_iff {m : Method} {e : Effect} {log : List Episode} :
    (∃ ticks, (ticks, e) ∈ storyOf m log) ↔
      e.about = some m ∧ ∃ episode ∈ log, e ∈ episode.effects := by
  induction log with
  | nil => simp [storyOf]
  | cons episode earlier ih =>
    simp only [storyOf, List.mem_append, List.mem_map, List.mem_filter, Prod.mk.injEq,
      decide_eq_true_eq, exists_or, ih, List.exists_mem_cons_iff]
    constructor
    · rintro (⟨ticks, e', ⟨he, habout⟩, -, rfl⟩ | ⟨habout, hearlier⟩)
      · exact ⟨habout, .inl he⟩
      · exact ⟨habout, .inr hearlier⟩
    · rintro ⟨habout, he | hearlier⟩
      · exact .inl ⟨_, e, ⟨he, habout⟩, rfl, rfl⟩
      · exact .inr ⟨habout, hearlier⟩

/-- A skip is on the account of a call if and only if one was recorded. -/
theorem skipped_account_ne_nil_iff {c : Course} {m : Method} :
    (c.account m).skipped ≠ [] ↔ ∃ episode ∈ c.log, .record m .skip ∈ episode.effects := by
  have hstory : (∃ ticks, (ticks, .record m .skip) ∈ storyOf m c.log) ↔
      ∃ episode ∈ c.log, .record m .skip ∈ episode.effects :=
    mem_storyOf_iff.trans (and_iff_right rfl)
  rw [← hstory, Ne, account, Look.account, List.filterMap_eq_nil_iff]
  push Not
  constructor
  · rintro ⟨⟨ticks, e⟩, hmem, hsome⟩
    obtain ⟨habout, -⟩ := mem_storyOf_iff.mp ⟨ticks, hmem⟩
    cases e with
    | record m' what =>
      cases what with
      | skip => exact ⟨ticks, (Option.some.inj habout : m' = m) ▸ hmem⟩
      | _ => exact absurd rfl hsome
    | _ => exact absurd rfl hsome
  · rintro ⟨ticks, hmem⟩
    exact ⟨_, hmem, by simp⟩

theorem sights_ticks (c : Course) (m : Method) (n : Nat) :
    c.sights m (List.replicate n .tick) = List.replicate n .tick := by
  induction n generalizing c with
  | zero => rfl
  | succ n ih =>
    rw [List.replicate_succ, List.replicate_succ, sights, ih]
    rfl

/-- A call runs that is due at every tick, stands in front of all others, and whose skip the
recorder refuses. -/
structure Blocked (c : Course) (m : Method) : Prop where
  isClosed_eq : c.scheduler.isClosed = false
  broken : .skip ∈ c.scheduler.broken
  first : ∃ slot rest, c.scheduler.slots = slot :: rest ∧ slot.method ≠ m ∧ slot.IsDue ∧
    slot.method ∈ c.scheduler.running

/-- Behind such a call no other call has its turn any more. -/
theorem Blocked.tick {c : Course} {m : Method} (h : c.Blocked m) :
    (c.after .tick).Blocked m ∧ .record m .skip ∉ c.scheduler.turns.effects := by
  obtain ⟨slot, rest, hslots, hne, hdue, hrunning⟩ := h.first
  have hturn : slot.turn (c.scheduler.running.contains slot.method) = .skip :=
    Slot.turn_eq_skip_iff.mpr ⟨hdue, List.contains_iff_mem.mpr hrunning⟩
  have hturns : c.scheduler.turns = ⟨slot.tick (c.scheduler.running.contains slot.method) :: rest,
      [.record slot.method .skip], [], some Part.skip.fault⟩ := by
    rw [turns, hslots, List.contains_iff_mem.mpr h.broken]
    exact tickSlots_of_refused_skip hturn
  have hafter : (c.after .tick).scheduler = _ := scheduler_ticked c c.scheduler.tick.1
  rw [tick_of_not_isClosed h.isClosed_eq] at hafter
  refine ⟨⟨?_, ?_, ?_⟩, ?_⟩
  · rw [hafter]
    exact h.isClosed_eq
  · rw [hafter]
    exact h.broken
  · rw [hafter]
    refine ⟨slot.tick (c.scheduler.running.contains slot.method), rest, ?_, ?_, ?_, ?_⟩
    · exact congrArg TickResult.slots hturns
    · rwa [Slot.tick_method]
    · rw [Slot.IsDue, Slot.tick_spec, Slot.elapsed_tick hdue.1, hturn]
      exact ⟨hdue.1, Nat.le_succ _⟩
    · rw [Slot.tick_method]
      simpa [hturns, running] using hrunning
  · rw [hturns]
    simp [Ne.symm hne]

/-- Some other call. -/
def otherThan (m : Method) : Method :=
  if m = .peerInfo then .uptime else .peerInfo

theorem otherThan_ne (m : Method) : otherThan m ≠ m := by
  cases m <;> decide

/-- The entry alone. -/
def solo (spec : MethodSpec) : Catalog :=
  ⟨[spec], List.nodup_singleton _⟩

/-- The entry behind that of a call which is due at every tick. -/
def behind (spec : MethodSpec) : Catalog :=
  ⟨[everyTick (otherThan spec.method), spec], by simp [everyTick, otherThan_ne]⟩

section

variable (spec : MethodSpec) (interval : Interval) {broken : List Part} (base : Option Text)

/-- After its first tick the call in front is running. -/
theorem blocked_behind (hskip : .skip ∈ broken) :
    (of (behind spec) interval broken base [.tick]).Blocked spec.method ∧
      ∀ b ∈ (of (behind spec) interval broken base [.tick]).beats, ¬ b.Skips spec.method := by
  have hopen : (start (fresh (behind spec) interval broken) base).scheduler.isClosed = false := rfl
  have hturn : (Slot.new (everyTick (otherThan spec.method))).turn false = .fire := rfl
  have hturns : (start (fresh (behind spec) interval broken) base).scheduler.turns = _ :=
    tickSlots_of_fire hturn
  have hafter : (of (behind spec) interval broken base [.tick]).scheduler = _ :=
    scheduler_ticked (start (fresh (behind spec) interval broken) base) _
  rw [tick_of_not_isClosed hopen] at hafter
  refine ⟨⟨?_, ?_, ?_⟩, ?_⟩
  · rw [hafter]
    rfl
  · rw [hafter]
    exact hskip
  · rw [hafter, hturns]
    refine ⟨_, _, rfl, otherThan_ne _, ⟨rfl, Nat.le_refl 1⟩, ?_⟩
    exact List.mem_cons_self
  · have hbeats : (of (behind spec) interval broken base [.tick]).beats = _ := beats_ticked hopen
    rw [hbeats]
    refine List.forall_mem_cons.mpr ⟨fun hskips => ?_, List.forall_mem_nil _⟩
    exact List.not_mem_nil (mem_running_of_skip hskips)

theorem not_skips_behind (hskip : .skip ∈ broken) (n : Nat) :
    (of (behind spec) interval broken base (List.replicate (n + 1) .tick)).Blocked spec.method ∧
      ∀ b ∈ (of (behind spec) interval broken base (List.replicate (n + 1) .tick)).beats,
        ¬ b.Skips spec.method := by
  induction n with
  | zero => exact blocked_behind spec interval base hskip
  | succ n ih =>
    obtain ⟨hblocked, hnone⟩ := ih
    obtain ⟨hafter, hquiet⟩ := hblocked.tick
    rw [List.replicate_succ', of_concat]
    refine ⟨hafter, ?_⟩
    rw [after, beats_ticked hblocked.isClosed_eq]
    exact List.forall_mem_cons.mpr ⟨hquiet, hnone⟩

end

theorem skipped_behind (spec : MethodSpec) (interval : Interval) {broken : List Part}
    (base : Option Text) (hskip : .skip ∈ broken) (n : Nat) :
    ((of (behind spec) interval broken base (List.replicate (n + 1) .tick)).account
      spec.method).skipped = [] := by
  by_contra hne
  obtain ⟨episode, hepisode, hskips⟩ := skipped_account_ne_nil_iff.mp hne
  have hproper := proper_of _ _ _ _ _ episode hepisode
  cases episode with
  | beat b =>
    exact (not_skips_behind spec interval base hskip n).2 b (mem_beats_iff.mpr hepisode) hskips
  | _ => exact (hproper _ hskips spec.method).2 rfl

/-- Alone in its catalog an enabled call that never ends is skipped. -/
theorem skipped_solo (spec : MethodSpec) (interval : Interval) {broken : List Part}
    (base : Option Text) (hskip : .skip ∈ broken) (henabled : spec.enabled = true) :
    ((of (solo spec) interval broken base
      (List.replicate (spec.cadence + spec.cadence) .tick)).account spec.method).skipped ≠ [] := by
  have hsome : (solo spec).enabled = [spec] := by
    rw [solo, Catalog.enabled, List.filter_cons_of_pos henabled]
    rfl
  have hspec : spec ∈ (solo spec).enabled := by
    rw [hsome]
    exact List.mem_singleton_self spec
  have hthrows := exists_error_of_ticks interval base hskip hspec
  unfold Unbroken at hthrows
  push Not at hthrows
  obtain ⟨b, hb, hthrows⟩ := hthrows
  have hlog := mem_beats_iff.mp hb
  obtain ⟨-, -, henabled, hanswer, -⟩ := proper_of _ _ _ _ _ _ hlog
  obtain ⟨m, hskips⟩ := hanswer.resolve_left fun ⟨fired, hok⟩ => hthrows fired hok
  have hm := henabled m hskips
  rw [hsome, List.map_singleton, List.mem_singleton] at hm
  exact skipped_account_ne_nil_iff.mpr ⟨_, hlog, hm ▸ hskips⟩

/-! ## The condition -/

/-- **Isolation, exactly.** What a call leaves behind depends on nothing but what it has seen if and
only if the recorder takes skips or the call is disabled. -/
theorem isIsolated_iff (spec : MethodSpec) (broken : List Part) :
    IsIsolated spec broken ↔ .skip ∉ broken ∨ spec.enabled = false := by
  refine ⟨fun h => ?_, account_eq⟩
  by_contra hnot
  push Not at hnot
  obtain ⟨hskip, henabled⟩ := hnot
  -- Alone in its catalog the call is skipped when it hangs; behind a call that hangs it never is.
  obtain ⟨n, hn⟩ := Nat.exists_eq_add_of_lt (Nat.add_pos_left spec.cadence_pos spec.cadence)
  rw [Nat.zero_add] at hn
  have haccount := h (behind spec) (solo spec) second second none
    (List.replicate (spec.cadence + spec.cadence) .tick)
    (List.replicate (spec.cadence + spec.cadence) .tick)
    (List.mem_cons_of_mem _ (List.mem_singleton_self spec)) (List.mem_singleton_self spec)
    (by rw [sights_ticks, sights_ticks])
  refine skipped_solo spec second none hskip (by simpa using henabled) ?_
  rw [← haccount, hn]
  exact skipped_behind spec second none hskip n

/-- The second call of the pair fails, and at the second tick it is made again, unless the recorder
throws at the skip of the first one. -/
theorem not_isIsolated_uptime : ¬ IsIsolated (everyTick .uptime) [.skip] := by
  intro h
  have haccount := h pair (solo (everyTick .uptime)) second second none halfHung
    [.tick, .fetched 0 (.ok ⟨.uptime, .failure .network "refused", 0⟩) 0, .tick]
    (List.mem_cons_of_mem _ List.mem_cons_self) List.mem_cons_self rfl
  have hfired := congrArg Account.fired haccount
  revert hfired
  decide

end Course

end NodeProbe
