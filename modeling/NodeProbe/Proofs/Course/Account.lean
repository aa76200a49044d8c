import NodeProbe.Proofs.Course.Tally

/-!
# Every call is accounted for

While the recorder is whole and neither fetching nor publishing throws, the numbers of a call add up
in every course (`accounts_of`): what has been called has been timed or waits for its outcome, what
has been timed has failed or succeeded, and what has succeeded is on the bus, has failed to get
there or waits for it. Each step of an extraction moves it from one of these places to the next
(`Tally.Balances`). When the loop has stopped nothing waits any more.
-/

namespace NodeProbe

open Scheduler

/-- The numbers of a call add up. -/
structure Tally.Balances (t : Tally) : Prop where
  fetching : t.dispatches = t.durations + t.fetching
  settled : t.durations = t.errors + t.successes
  publishing : t.successes = t.messages + t.publishErrors + t.publishing

/-- The fetching or the publishing threw. -/
def Episode.Rejects : Episode → Prop
  | fetched _ result _ => ∃ fault, result = .error fault
  | published _ result _ => ∃ fault, result = .error fault
  | _ => False

/-- Neither the fetching nor the publishing throws: the fetching comes to an outcome, and what the
bus throws has a text. -/
def Move.NeverRejects : Move → Prop
  | fetched _ result _ => ∃ outcome, result = .ok outcome
  | published _ answer =>
    ∃ refusal, answer = .ok refusal ∧
      ∀ fault, refusal = some fault → ∃ text, fault.message = .ok text
  | _ => True

namespace Course

variable {c c' : Course}

/-! ## Rejections -/

theorem not_rejects_ticked (h : ∀ episode ∈ c.log, ¬ episode.Rejects) (s : Scheduler) :
    ∀ episode ∈ (c.ticked s).log, ¬ episode.Rejects := by
  unfold ticked
  split
  · exact List.forall_mem_cons.mpr ⟨id, h⟩
  · exact List.forall_mem_cons.mpr ⟨id, h⟩

theorem not_rejects_after (h : ∀ episode ∈ c.log, ¬ episode.Rejects) {move : Move}
    (hmove : move.NeverRejects) : ∀ episode ∈ (c.after move).log, ¬ episode.Rejects := by
  have hquietly : ∀ {c : Course} (s effects), (∀ episode ∈ c.log, ¬ episode.Rejects) →
      ∀ episode ∈ (c.quietly s effects).log, ¬ episode.Rejects :=
    fun _ _ h => List.forall_mem_cons.mpr ⟨id, h⟩
  cases move with
  | tick => exact not_rejects_ticked h _
  | run clock =>
    simp only [after]
    split
    · exact hquietly _ _ h
    · exact h
  | resume clock =>
    simp only [after, resume]
    refine hquietly _ _ ?_
    split
    · exact not_rejects_ticked h _
    · exact hquietly _ _ h
  | stop => exact hquietly _ _ h
  | drain => exact hquietly _ _ h
  | raise reason time => exact hquietly _ _ h
  | ring alarm time => exact hquietly _ _ h
  | fetched number result time =>
    obtain ⟨outcome, rfl⟩ := hmove
    simp only [after]
    split
    · refine List.forall_mem_cons.mpr ⟨?_, h⟩
      rintro ⟨fault, hfault⟩
      cases hfault
    · exact h
  | published number answer =>
    obtain ⟨refusal, rfl, hrefusal⟩ := hmove
    simp only [after]
    split
    · refine List.forall_mem_cons.mpr ⟨?_, h⟩
      rintro ⟨fault, hfault⟩
      obtain ⟨failure, hok⟩ := Event.exists_offer_eq_ok hrefusal
      cases hok.symm.trans hfault
    · exact h

theorem not_rejects_of {catalog : Catalog} {interval : Interval} {broken : List Part}
    {base : Option Text} {moves : List Move} (h : ∀ move ∈ moves, move.NeverRejects) :
    ∀ episode ∈ (of catalog interval broken base moves).log, ¬ episode.Rejects :=
  List.foldlRecOn (motive := fun c => ∀ episode ∈ c.log, ¬ episode.Rejects) moves after
    (List.forall_mem_nil _) fun _ hc move hmem => not_rejects_after hc (h move hmem)

/-! ## Balance -/

/-- The event of each extraction carries the name of its call. -/
def Named (c : Course) : Prop :=
  ∀ m event, .publishing m event ∈ c.extractions → event.method = m.name

theorem Named.step (h : c.Named) (hstep : Step c c') : c'.Named := by
  intro m event hmem
  cases hstep with
  | quiet _ _ => exact h m event hmem
  | beat hopen _ =>
    rw [ticked_of_not_isClosed hopen] at hmem
    rcases List.mem_append.mp hmem with hmem | hmem
    · exact h m event hmem
    · obtain ⟨m', -, heq⟩ := List.mem_map.mp hmem
      cases heq
  | @fetched number m' result time hget =>
    cases hpayload : (c.scheduler.fetched m' result).2.2 with
    | none =>
      rw [fetched_of_payload_eq_none hpayload] at hmem
      exact h m event (List.mem_of_mem_eraseIdx hmem)
    | some payload =>
      rw [fetched_of_payload_eq_some hpayload] at hmem
      rcases List.mem_or_eq_of_mem_set hmem with hmem | heq
      · exact h m event hmem
      · cases heq
        rfl
  | published answer hget => exact h m event (List.mem_of_mem_eraseIdx hmem)

theorem balances_fetched {m : Method} (h : (c.tally m).Balances) (hbroken : c.scheduler.broken = [])
    {number : Nat} {m' : Method} (hget : c.extractions[number]? = some (.fetching m'))
    (outcome : Outcome) (time : Rat) :
    ((c.fetched number m' (.ok outcome) time).tally m).Balances := by
  obtain ⟨hfetching, hsettled, hpublishing⟩ := h
  by_cases hm : m' = m
  · subst hm
    have hpos := fetching_pos hget
    cases hverdict : outcome.verdict with
    | failure kind message =>
      rw [tally_fetched_of_failure hbroken hget hverdict]
      refine ⟨?_, ?_, hpublishing⟩
      · simp only
        omega
      · simp only
        omega
    | success payload =>
      rw [tally_fetched_of_success hbroken hget hverdict]
      refine ⟨?_, ?_, ?_⟩
      · simp only
        omega
      · simp only
        omega
      · simp only
        omega
  · rw [tally_fetched_of_ne hget hm]
    exact ⟨hfetching, hsettled, hpublishing⟩

theorem balances_published {m : Method} (h : (c.tally m).Balances)
    (hbroken : c.scheduler.broken = []) {number : Nat} {m' : Method} {event : Event}
    {answer : Except Fault (Option Fault)} {failure : Option PublishFault}
    (hget : c.extractions[number]? = some (.publishing m' event))
    (hevent : event.method = m'.name) (hoffer : (event.offer c.base c.bus answer).2 = .ok failure) :
    ((c.published number m' event answer).tally m).Balances := by
  obtain ⟨hfetching, hsettled, hpublishing⟩ := h
  by_cases hm : m' = m
  · subst hm
    have hpos := publishing_pos hget
    cases failure with
    | none =>
      rw [tally_published_of_ok hget hevent hoffer]
      refine ⟨hfetching, hsettled, ?_⟩
      simp only
      omega
    | some fault =>
      rw [tally_published_of_failure hbroken hget hoffer]
      refine ⟨hfetching, hsettled, ?_⟩
      simp only
      omega
  · rw [tally_published_of_ne hget hevent hm]
    exact ⟨hfetching, hsettled, hpublishing⟩

/-- What is in the balance stays in the balance. -/
theorem balances_step {m : Method} (h : (c.tally m).Balances) (hbroken : c.scheduler.broken = [])
    (hnamed : c.Named) (hstep : Step c c') (hquiet : ∀ episode ∈ c'.log, ¬ episode.Rejects) :
    (c'.tally m).Balances := by
  cases hstep with
  | quiet _ hremarks =>
    rw [tally_quietly hremarks]
    exact h
  | beat hopen _ =>
    obtain ⟨hfetching, hsettled, hpublishing⟩ := h
    rw [tally_ticked hopen]
    refine ⟨?_, hsettled, hpublishing⟩
    simp only
    omega
  | @fetched number m' result time hget =>
    cases result with
    | error fault => exact absurd ⟨fault, rfl⟩ (hquiet _ List.mem_cons_self)
    | ok outcome => exact balances_fetched h hbroken hget outcome time
  | @published number m' event answer hget =>
    cases hoffer : (event.offer c.base c.bus answer).2 with
    | error fault => exact absurd ⟨fault, hoffer⟩ (hquiet _ List.mem_cons_self)
    | ok failure =>
      exact balances_published h hbroken hget (hnamed m' event (List.mem_of_getElem? hget)) hoffer

theorem balances_of {catalog : Catalog} {interval : Interval} {base : Option Text}
    {moves : List Move}
    (h : ∀ episode ∈ (of catalog interval [] base moves).log, ¬ episode.Rejects) (m : Method) :
    ((of catalog interval [] base moves).tally m).Balances := by
  refine (run_induction (P := fun c => c.scheduler.broken = [] ∧ c.Named ∧
    ((∀ episode ∈ c.log, ¬ episode.Rejects) → (c.tally m).Balances)) ?_
    ⟨rfl, by simp [Named, start], fun _ => ⟨rfl, rfl, rfl⟩⟩ moves).2.2 h
  rintro c c' ⟨hbroken, hnamed, hbalances⟩ hstep
  refine ⟨hstep.broken_eq.trans hbroken, hnamed.step hstep, fun hquiet => ?_⟩
  have hearlier : ∀ episode ∈ c.log, ¬ episode.Rejects := fun episode hepisode =>
    hquiet episode (hstep.log_suffix.subset hepisode)
  exact balances_step (hbalances hearlier) hbroken hnamed hstep hquiet

end Course

/-! ## Ticks at which a call is due -/

/-- The number of ticks at which an enabled call was due. -/
def dueTicks (catalog : Catalog) (m : Method) : List Beat → Nat
  | [] => 0
  | b :: earlier =>
    dueTicks catalog m earlier +
      if ∃ spec ∈ catalog.enabled, spec.method = m ∧ IsDueAt spec b.number earlier then 1 else 0

/-- A tick at which a call is due makes it or skips it, and other ticks do neither. -/
theorem countP_add_countP_of_isPaced {spec : MethodSpec} {b : Beat} {earlier : List Beat}
    (hpaced : b.IsPaced spec earlier)
    (hcalls : b.effects.countP (Effect.calls spec.method) ≤ 1)
    (hskips : b.effects.countP (Effect.records spec.method .skip) ≤ 1) :
    b.effects.countP (Effect.calls spec.method) +
        b.effects.countP (Effect.records spec.method .skip) =
      if IsDueAt spec b.number earlier then 1 else 0 := by
  have hfires := Beat.countP_calls_pos.trans hpaced.fires_iff
  have hrecords := Beat.countP_skips_pos.trans hpaced.skips_iff
  by_cases hdue : IsDueAt spec b.number earlier
  · rw [if_pos hdue]
    by_cases hbusy : spec.method ∈ b.busy
    · simp only [hdue, hbusy, not_true_eq_false, and_false, iff_false] at hfires
      simp only [hdue, hbusy, and_self, iff_true] at hrecords
      omega
    · simp only [hdue, hbusy, not_false_eq_true, and_self, iff_true] at hfires
      simp only [hdue, hbusy, and_false, iff_false] at hrecords
      omega
  · simp only [hdue, false_and, iff_false] at hfires hrecords
    rw [if_neg hdue]
    omega

namespace Course

theorem dueTicks_eq {catalog : Catalog} {m : Method} {beats : List Beat}
    (hpaced : ∀ spec ∈ catalog.enabled, Paced spec beats)
    (honce : ∀ b ∈ beats, b.effects.countP (Effect.calls m) ≤ 1 ∧
      b.effects.countP (Effect.records m .skip) ≤ 1)
    (henabled : ∀ b ∈ beats, b.Fires m ∨ b.Skips m → m ∈ catalog.enabled.map (·.method)) :
    dueTicks catalog m beats =
      (beats.map (·.effects.countP (Effect.calls m))).sum +
        (beats.map (·.effects.countP (Effect.records m .skip))).sum := by
  induction beats with
  | nil => rfl
  | cons b earlier ih =>
    obtain ⟨⟨hcalls, hskips⟩, honce⟩ := List.forall_mem_cons.mp honce
    obtain ⟨hhere, henabled⟩ := List.forall_mem_cons.mp henabled
    have hearlier := ih (fun spec hspec => (hpaced spec hspec).of_cons) honce henabled
    suffices hb : b.effects.countP (Effect.calls m) + b.effects.countP (Effect.records m .skip) =
        if ∃ spec ∈ catalog.enabled, spec.method = m ∧ IsDueAt spec b.number earlier
        then 1 else 0 by
      rw [dueTicks, hearlier, ← hb, List.map_cons, List.map_cons, List.sum_cons, List.sum_cons]
      omega
    by_cases hm : m ∈ catalog.enabled.map (·.method)
    · obtain ⟨spec, hspec, rfl⟩ := List.mem_map.mp hm
      rw [countP_add_countP_of_isPaced (hpaced spec hspec).head hcalls hskips]
      refine if_congr ⟨fun hdue => ⟨spec, hspec, rfl, hdue⟩, ?_⟩ rfl rfl
      rintro ⟨spec', hspec', heq, hdue⟩
      have hinj := List.inj_on_of_nodup_map catalog.distinct (List.mem_filter.mp hspec').1
        (List.mem_filter.mp hspec).1 heq
      exact hinj ▸ hdue
    · have hfires := mt (hhere ∘ .inl ∘ Beat.countP_calls_pos.mp) hm
      have hrecords := mt (hhere ∘ .inr ∘ Beat.countP_skips_pos.mp) hm
      rw [if_neg]
      · omega
      · rintro ⟨spec, hspec, rfl, -⟩
        exact hm (List.mem_map.mpr ⟨spec, hspec, rfl⟩)

/-- What is asked for only at ticks can be counted at the ticks. -/
theorem countP_effects {c : Course} {p : Effect → Bool}
    (h : ∀ episode ∈ c.log, episode.beat? = none → ∀ e ∈ episode.effects, ¬ p e) :
    c.effects.countP p = (c.beats.map (·.effects.countP p)).sum := by
  unfold effects beats
  generalize c.log = log at h
  induction log with
  | nil => rfl
  | cons episode earlier ih =>
    obtain ⟨hhere, hearlier⟩ := List.forall_mem_cons.mp h
    rw [List.flatMap_cons, List.countP_append, ih hearlier]
    cases episode with
    | beat b => rfl
    | _ =>
      rw [List.countP_eq_zero.mpr (hhere rfl), Nat.zero_add]
      rfl

/-! ## The account -/

/-- The account of a call in a course. -/
structure Accounts (catalog : Catalog) (c : Course) (m : Method) : Prop where
  /-- What has been called has been timed, or waits for its outcome. -/
  fetching : (c.tally m).dispatches =
    (c.tally m).durations + if (m, .fetching) ∈ c.scheduler.inFlight then 1 else 0
  /-- What has been timed has failed or succeeded. -/
  settled : (c.tally m).durations = (c.tally m).errors + (c.tally m).successes
  /-- What has succeeded is on the bus, has failed to get there, or waits for it. -/
  publishing : (c.tally m).successes = (c.tally m).messages + (c.tally m).publishErrors +
    if (m, .publishing) ∈ c.scheduler.inFlight then 1 else 0
  /-- At each tick at which it was due the call was made or skipped. -/
  due : dueTicks catalog m c.beats = (c.tally m).dispatches + (c.tally m).skips
  /-- When the loop has stopped nothing waits. -/
  stopped : c.scheduler.status = .stopped →
    (c.tally m).dispatches = (c.tally m).durations ∧
      (c.tally m).durations =
        (c.tally m).errors + (c.tally m).publishErrors + (c.tally m).messages

/-- No more than one extraction of a call waits, and the scheduler knows for what. -/
theorem Sound.countP_entry {c : Course} (h : c.Sound) (m : Method) (stage : Stage) :
    c.extractions.countP (·.entry = (m, stage)) =
      if (m, stage) ∈ c.scheduler.inFlight then 1 else 0 := by
  have hnodup : c.scheduler.inFlight.Nodup := by
    refine List.Nodup.of_map (·.1) ?_
    rw [← running, h.running_eq]
    exact h.nodup
  rw [← hnodup.count, h.inFlight_eq, List.count, List.countP_map]
  exact List.countP_congr fun x _ => by simp

/-- **Accounting.** While the recorder is whole and neither fetching nor publishing throws, the
account of every call is right in every course. -/
theorem accounts_of (catalog : Catalog) (interval : Interval) (base : Option Text)
    (moves : List Move) (h : ∀ move ∈ moves, move.NeverRejects) (m : Method) :
    Accounts catalog (of catalog interval [] base moves) m := by
  have hnever : ∀ episode ∈ (of catalog interval [] base moves).log, ¬ episode.Rejects :=
    not_rejects_of h
  obtain ⟨hfetching, hsettled, hpublishing⟩ := balances_of hnever m
  have hunbroken : (of catalog interval [] base moves).Unbroken :=
    unbroken_of (.inl List.not_mem_nil)
  have hcadence := keepsCadence_of hunbroken
  have hproper := proper_of catalog interval [] base moves
  have hsound := sound_of catalog interval [] base moves
  have horderly := orderly_of catalog interval [] base moves
  generalize of catalog interval [] base moves = c at *
  have hcount := hsound.countP_entry m
  refine ⟨?_, hsettled, ?_, ?_, ?_⟩
  · rw [← hcount]
    exact hfetching
  · rw [← hcount]
    exact hpublishing
  · have hcalls := countP_effects (p := Effect.calls m) (c := c) fun episode hepisode hnone e he =>
      fun hcalls => (hcadence.elsewhere episode hepisode hnone e he m).1
        (Effect.calls_eq_true_iff.mp hcalls)
    have hskips := countP_effects (p := Effect.records m .skip) (c := c)
      fun episode hepisode hnone e he => fun hrecords =>
        (hcadence.elsewhere episode hepisode hnone e he m).2
          (Effect.records_skip_eq_true_iff.mp hrecords)
    rw [tally, hcalls, hskips]
    refine dueTicks_eq hcadence.paced (fun b hb => hcadence.once b hb m) fun b hb hsome => ?_
    obtain ⟨hsublist, -, hskipped, -⟩ := hproper _ (mem_beats_iff.mp hb)
    rcases hsome with hfires | hskips
    · exact hsublist.subset (List.mem_filterMap.mpr ⟨_, hfires, rfl⟩)
    · exact hskipped m hskips
  · intro hstatus
    obtain ⟨-, hnone⟩ := horderly.of_status_eq_stopped hstatus
    have hnofetching := hcount .fetching
    have hnopublishing := hcount .publishing
    rw [hnone, if_neg List.not_mem_nil] at hnofetching hnopublishing
    rw [show (c.tally m).fetching = 0 from hnofetching] at hfetching
    rw [show (c.tally m).publishing = 0 from hnopublishing] at hpublishing
    omega

/-- Both calls of the pair are made. The first one succeeds and is published, the second one fails;
at the next tick both are made again. -/
def answered : List Move :=
  [.tick, .fetched 0 (.ok ⟨.peerInfo, .success [91, 93], 3⟩) 0, .published 0 (.ok none),
    .fetched 0 (.ok ⟨.uptime, .failure .network "refused", 3⟩) 0, .tick]

theorem accounts_answered :
    (∀ move ∈ answered, move.NeverRejects) ∧
      Accounts pair (of pair second [] none answered) .peerInfo ∧
      ((of pair second [] none answered).tally .peerInfo).dispatches = 2 ∧
      ((of pair second [] none answered).tally .peerInfo).messages = 1 := by
  have hquiet : ∀ move ∈ answered, move.NeverRejects := by
    simp [answered, Move.NeverRejects]
  exact ⟨hquiet, accounts_of pair second none answered hquiet .peerInfo, by decide +kernel,
    by decide +kernel⟩

end Course

end NodeProbe
