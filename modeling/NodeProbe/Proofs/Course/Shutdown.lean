import NodeProbe.Probe.Basic
import NodeProbe.Proofs.Course.Account
import NodeProbe.Proofs.Scheduler.Stages

/-!
# Shutting down

A scheduler is shut down by its signal, at whatever point of its course that is raised. Behind the
raised signal no call is made and no tick counts, and what is under way only becomes less
(`Winds`). The loop is started once and its stages follow each other in one order (`Loop.stage`), so
the statuses that are seen do too (`inOrder_statuses`). When it has stopped, nothing of what was
called is left to be done (`shutsDown_of`).
-/

namespace NodeProbe

open Scheduler

/-- The move raises the signal. -/
def Move.raises : Move → Bool
  | raise _ _ => true
  | _ => false

/-- What may still happen when no call is made any more: lines are printed, and what these calls
came to is taken in. -/
def Episode.IsLate (busy : List Method) : Episode → Prop
  | beat _ => False
  | fetched m _ effects | published m _ effects => m ∈ busy ∧ ∀ e ∈ effects, e.IsReport m
  | other effects => ∀ e ∈ effects, e.IsRemark

theorem Episode.IsLate.mono {busy busy' : List Method} {episode : Episode}
    (h : episode.IsLate busy) (hsubset : busy ⊆ busy') : episode.IsLate busy' := by
  cases episode with
  | beat b => exact h
  | fetched m result effects => exact ⟨hsubset h.1, h.2⟩
  | published m result effects => exact ⟨hsubset h.1, h.2⟩
  | other effects => exact h

theorem Episode.IsLate.not_call {busy : List Method} {episode : Episode}
    (h : episode.IsLate busy) (m : Method) : .call m ∉ episode.effects := by
  intro hcall
  cases episode with
  | beat b => exact h
  | fetched m' result effects => exact (h.2 _ hcall).ne_call m rfl
  | published m' result effects => exact (h.2 _ hcall).ne_call m rfl
  | other effects =>
    obtain ⟨notice, -, heq⟩ := h _ hcall
    cases heq

/-- The statuses can follow each other like this. -/
def Scheduler.Status.InOrder (statuses : List Status) : Prop :=
  ∃ working draining stopped, statuses = working ++ (draining ++ stopped) ∧
    (∀ s ∈ working, s = .idle ∨ s = .dispatching) ∧ (∀ s ∈ draining, s = .draining) ∧
    (∀ s ∈ stopped, s = .stopped) ∧ (stopped ≠ [] → draining ≠ [])

theorem Probe.loopStatus_eq_resolved_iff (p : Probe) :
    p.loopStatus = .resolved ↔ p.scheduler.status = .stopped := by
  rw [status_eq_stopped_iff]
  unfold Probe.loopStatus isStopped
  cases p.scheduler.loop <;> simp

namespace Course

variable {c c' c'' : Course}

/-! ## The signal and the stages -/

theorem isRaised_after (c : Course) (move : Move) :
    (c.after move).scheduler.signal.isRaised =
      (c.scheduler.signal.isRaised || move.raises) := by
  cases move with
  | tick => simp [after, Move.raises]
  | run clock =>
    simp only [after, Move.raises, Bool.or_false]
    split
    · rename_i hrun
      obtain ⟨-, rfl, -⟩ := run_eq_ok hrun
      exact isRaised_continueLoop _ _ _
    · rfl
  | resume clock =>
    simp only [after, resume, Move.raises, Bool.or_false]
    refine (isRaised_goOn _ clock).trans ?_
    have hwake := congrArg Signal.isRaised (signal_wake c.scheduler)
    split
    · rw [scheduler_ticked]
      exact hwake
    · exact hwake
  | stop => simp [after, quietly, Move.raises]
  | drain => simp [after, quietly, Move.raises, Scheduler.drain]
  | raise reason time => simp [after, quietly, Move.raises]
  | ring alarm time => simp [after, quietly, Move.raises]
  | fetched number result time =>
    simp only [after, Move.raises, Bool.or_false]
    split
    · exact congrArg Signal.isRaised (signal_fetched c.scheduler _ result)
    · rfl
  | published number answer =>
    simp only [after, Move.raises, Bool.or_false]
    split
    · exact congrArg Signal.isRaised (signal_published c.scheduler _ _)
    · rfl

theorem stage_after (c : Course) (move : Move) :
    c.scheduler.loop.stage ≤ (c.after move).scheduler.loop.stage := by
  cases move with
  | tick =>
    have hloop : (c.after .tick).scheduler.loop = c.scheduler.loop := by
      rw [after, scheduler_ticked, loop_tick]
    exact Nat.le_of_eq (congrArg Loop.stage hloop.symm)
  | run clock =>
    rw [after]
    split
    · rename_i hrun
      obtain ⟨hloop, rfl, -⟩ := run_eq_ok hrun
      rw [hloop]
      exact Nat.zero_le _
    · exact Nat.le_refl _
  | resume clock =>
    rw [after, resume]
    refine Nat.le_trans ?_ (stage_goOn _ clock)
    split
    · rw [scheduler_ticked]
      exact stage_wake c.scheduler
    · exact stage_wake c.scheduler
  | stop => exact stage_stop c.scheduler
  | drain => exact Nat.le_refl _
  | raise reason time => exact Nat.le_refl _
  | ring alarm time => exact Nat.le_refl _
  | fetched number result time =>
    rw [after]
    split
    · exact Nat.le_of_eq (stage_fetched c.scheduler _ result).symm
    · exact Nat.le_refl _
  | published number answer =>
    rw [after]
    split
    · exact Nat.le_of_eq (stage_published c.scheduler _ _).symm
    · exact Nat.le_refl _

theorem stage_run (c : Course) (moves : List Move) :
    c.scheduler.loop.stage ≤ (c.run moves).scheduler.loop.stage := by
  induction moves generalizing c with
  | nil => exact Nat.le_refl _
  | cons move moves ih => exact Nat.le_trans (stage_after c move) (ih _)

/-! ## Behind the raised signal -/

/-- The course winds down from the first state to the second one: no tick counts, no call is made,
and what is under way becomes less. -/
structure Winds (c c' : Course) : Prop where
  ticks_eq : c'.scheduler.ticks = c.scheduler.ticks
  running : c'.scheduler.running.Sublist c.scheduler.running
  busy : c'.busy.Sublist c.busy
  log : ∃ entries, c'.log = entries ++ c.log ∧ ∀ episode ∈ entries, episode.IsLate c.busy

namespace Winds

theorem refl (c : Course) : Winds c c :=
  ⟨rfl, .refl _, .refl _, [], rfl, by simp⟩

theorem trans (h : Winds c c') (h' : Winds c' c'') : Winds c c'' := by
  obtain ⟨entries, hlog, hlate⟩ := h.log
  obtain ⟨entries', hlog', hlate'⟩ := h'.log
  refine ⟨h'.ticks_eq.trans h.ticks_eq, h'.running.trans h.running, h'.busy.trans h.busy,
    entries' ++ entries, by rw [hlog', hlog, List.append_assoc], fun episode hepisode => ?_⟩
  rcases List.mem_append.mp hepisode with hepisode | hepisode
  · exact (hlate' episode hepisode).mono h.busy.subset
  · exact hlate episode hepisode

theorem quietly {s : Scheduler} {effects : List Effect} (hbooks : s.books = c.scheduler.books)
    (hremarks : ∀ e ∈ effects, e.IsRemark) : Winds c (c.quietly s effects) := by
  have hrunning : s.running = c.scheduler.running :=
    congrArg (List.map Prod.fst) (congrArg Books.inFlight hbooks)
  refine ⟨congrArg Books.ticks hbooks, ?_, .refl _, [.other effects], rfl, ?_⟩
  · show s.running.Sublist _
    rw [hrunning]
  · exact List.forall_mem_singleton.mpr hremarks

theorem dismissed {m : Method} {s : Scheduler} (h : s.inFlight = dismiss m c.scheduler.inFlight) :
    s.running.Sublist c.scheduler.running := by
  rw [Scheduler.running, h]
  exact List.filter_sublist.map _

theorem fetched {number : Nat} {m : Method} (result : Except Fault Outcome) (time : Rat)
    (hget : c.extractions[number]? = some (.fetching m)) :
    Winds c (c.fetched number m result time) := by
  have hm : m ∈ c.busy := List.mem_map.mpr ⟨_, List.mem_of_getElem? hget, rfl⟩
  have hlate : Episode.IsLate c.busy (.fetched m result (c.scheduler.fetched m result).2.1) :=
    ⟨hm, reports_fetched _ _ _⟩
  have hflight := inFlight_fetched c.scheduler m result
  cases hpayload : (c.scheduler.fetched m result).2.2 with
  | none =>
    rw [hpayload, Option.isSome_none, if_neg Bool.false_ne_true] at hflight
    rw [fetched_of_payload_eq_none hpayload]
    exact ⟨ticks_fetched _ _ _, dismissed hflight, (List.eraseIdx_sublist _ _).map _,
      [_], rfl, List.forall_mem_singleton.mpr hlate⟩
  | some payload =>
    rw [hpayload, Option.isSome_some, if_pos rfl] at hflight
    rw [fetched_of_payload_eq_some hpayload]
    refine ⟨ticks_fetched _ _ _, ?_, ?_, [_], rfl, List.forall_mem_singleton.mpr hlate⟩
    · rw [Scheduler.running, hflight, map_fst_promote]
      exact .refl _
    · obtain ⟨hnumber, hx⟩ := List.getElem?_eq_some_iff.mp hget
      have hsame : (c.extractions.map (·.method)).set number m = c.extractions.map (·.method) := by
        refine List.ext_getElem? fun i => ?_
        rw [List.getElem?_set]
        split
        · rename_i heq
          subst heq
          simp [hnumber, hx]
        · rfl
      rw [Course.busy, List.map_set, Extraction.method_publishing, hsame]
      exact .refl _

theorem published {number : Nat} {m : Method} {event : Event}
    (answer : Except Fault (Option Fault))
    (hget : c.extractions[number]? = some (.publishing m event)) :
    Winds c (c.published number m event answer) := by
  have hm : m ∈ c.busy := List.mem_map.mpr ⟨_, List.mem_of_getElem? hget, rfl⟩
  have hlate : Episode.IsLate c.busy (.published m (event.offer c.base c.bus answer).2
      (c.scheduler.published m (event.offer c.base c.bus answer).2).2) :=
    ⟨hm, reports_published _ _ _⟩
  exact ⟨ticks_published _ _ _, dismissed (inFlight_published _ _ _),
    (List.eraseIdx_sublist _ _).map _, [_], rfl, List.forall_mem_singleton.mpr hlate⟩

/-- Behind the raised signal every move lets the course wind down. -/
theorem after (h : c.scheduler.signal.isRaised = true) (move : Move) : Winds c (c.after move) := by
  have hclosed : c.scheduler.isClosed = true := by rw [isClosed, h, Bool.true_or]
  have htick : Winds c (c.ticked c.scheduler.tick.1) := by
    rw [ticked_of_isClosed hclosed, tick_of_isClosed hclosed]
    exact quietly rfl (by simp)
  cases move with
  | tick => exact htick
  | run clock =>
    simp only [Course.after]
    split
    · rename_i hrun
      obtain ⟨-, rfl, hremarks⟩ := run_eq_ok hrun
      exact quietly (books_continueLoop _ _ _) hremarks
    · exact refl c
  | resume clock =>
    simp only [Course.after, resume]
    refine trans ?_ (quietly (books_goOn _ clock) (remarks_goOn _ clock))
    cases hroused : c.scheduler.isRoused with
    | true =>
      obtain ⟨deadline, hwake⟩ := wake_of_isRoused hroused
      rw [if_pos rfl, hwake, ticked_of_isClosed hclosed]
      have hbooks := books_beat c.scheduler deadline
      rw [tick_of_isClosed hclosed] at hbooks
      exact quietly hbooks (by simp)
    | false =>
      rw [if_neg Bool.false_ne_true]
      rcases wake_of_not_isRoused hroused with hwake | hwake
      · rw [hwake]
        exact quietly (books_windDown _) (remarks_windDown _)
      · rw [hwake]
        exact quietly rfl (by simp)
  | stop => exact quietly (books_stop _) (remarks_stop _)
  | drain => exact quietly (books_drain _) (by simp)
  | raise reason time => exact quietly rfl (by simp)
  | ring alarm time => exact quietly rfl (by simp)
  | fetched number result time =>
    simp only [Course.after]
    split
    · exact fetched result time ‹_›
    · exact refl c
  | published number answer =>
    simp only [Course.after]
    split
    · exact published answer ‹_›
    · exact refl c

theorem run (h : c.scheduler.signal.isRaised = true) (moves : List Move) :
    Winds c (c.run moves) := by
  induction moves generalizing c with
  | nil => exact refl c
  | cons move moves ih =>
    have hraised : (c.after move).scheduler.signal.isRaised = true := by
      rw [isRaised_after, h, Bool.true_or]
    exact (after h move).trans (ih hraised)

end Winds

/-! ## The statuses that are seen -/

/-- The statuses that are seen while these moves happen. -/
def statuses (c : Course) : List Move → List Status
  | [] => [c.scheduler.status]
  | move :: moves => c.scheduler.status :: (c.after move).statuses moves

theorem isStopped_after (h : c.scheduler.isStopped = true) (move : Move) :
    (c.after move).scheduler.isStopped = true := by
  rw [isStopped_iff] at h ⊢
  exact Nat.le_trans h (stage_after c move)

theorem statuses_of_isStopped (h : c.scheduler.isStopped = true) (moves : List Move) :
    ∀ s ∈ c.statuses moves, s = .stopped := by
  have hstatus := (status_eq_stopped_iff c.scheduler).mpr h
  induction moves generalizing c with
  | nil => exact List.forall_mem_singleton.mpr hstatus
  | cons move moves ih =>
    have hnext := isStopped_after h move
    exact List.forall_mem_cons.mpr ⟨hstatus, ih hnext ((status_eq_stopped_iff _).mpr hnext)⟩

theorem statuses_of_isRaised (hraised : c.scheduler.signal.isRaised = true)
    (hstopped : c.scheduler.isStopped = false) (moves : List Move) :
    ∃ draining stopped, c.statuses moves = .draining :: (draining ++ stopped) ∧
      (∀ s ∈ draining, s = .draining) ∧ ∀ s ∈ stopped, s = .stopped := by
  have hstatus := status_of_isRaised hstopped hraised
  induction moves generalizing c with
  | nil => exact ⟨[], [], congrArg (· :: []) hstatus, by simp, by simp⟩
  | cons move moves ih =>
    have hnext : (c.after move).scheduler.signal.isRaised = true := by
      rw [isRaised_after, hraised, Bool.true_or]
    rw [statuses, hstatus]
    cases hend : (c.after move).scheduler.isStopped with
    | true => exact ⟨[], _, rfl, by simp, statuses_of_isStopped hend moves⟩
    | false =>
      obtain ⟨draining, stopped, heq, hdraining, hlast⟩ :=
        ih hnext hend (status_of_isRaised hend hnext)
      exact ⟨.draining :: draining, stopped, by rw [heq]; rfl,
        List.forall_mem_cons.mpr ⟨rfl, hdraining⟩, hlast⟩

theorem isStopped_of_not_isRaised (h : c.scheduler.Orderly)
    (hraised : c.scheduler.signal.isRaised = false) : c.scheduler.isStopped = false := by
  cases hstopped : c.scheduler.isStopped with
  | false => rfl
  | true =>
    have hstatus := (status_eq_stopped_iff c.scheduler).mpr hstopped
    rw [(h.of_status_eq_stopped hstatus).1] at hraised
    cases hraised

/-- The move that raises the signal does not stop the loop. -/
theorem isStopped_after_of_not_isRaised (h : c.scheduler.Orderly)
    (hraised : c.scheduler.signal.isRaised = false) (move : Move) :
    (c.after move).scheduler.isStopped = false := by
  cases hnext : (c.after move).scheduler.signal.isRaised with
  | false => exact isStopped_of_not_isRaised (orderly_after h move) hnext
  | true =>
    rw [isRaised_after, hraised, Bool.false_or] at hnext
    cases move with
    | raise reason time =>
      have hstopped := isStopped_of_not_isRaised h hraised
      exact hstopped
    | _ => cases hnext

/-- The statuses that are seen follow each other in one order. -/
theorem inOrder_statuses (h : c.scheduler.Orderly) (hstopped : c.scheduler.isStopped = false)
    (moves : List Move) : Status.InOrder (c.statuses moves) := by
  induction moves generalizing c with
  | nil =>
    cases hraised : c.scheduler.signal.isRaised with
    | true =>
      have hstatus := status_of_isRaised hstopped hraised
      exact ⟨[], [_], [], rfl, by simp, List.forall_mem_singleton.mpr hstatus, by simp, by simp⟩
    | false =>
      have hstatus := status_of_not_isRaised hstopped hraised
      exact ⟨[_], [], [], rfl, List.forall_mem_singleton.mpr hstatus, by simp, by simp, by simp⟩
  | cons move moves ih =>
    cases hraised : c.scheduler.signal.isRaised with
    | true =>
      obtain ⟨draining, stopped, heq, hdraining, hlast⟩ :=
        statuses_of_isRaised hraised hstopped (move :: moves)
      exact ⟨[], .draining :: draining, stopped, heq, by simp,
        List.forall_mem_cons.mpr ⟨rfl, hdraining⟩, hlast, by simp⟩
    | false =>
      have hstatus := status_of_not_isRaised hstopped hraised
      obtain ⟨working, draining, stopped, heq, hworking, hrest⟩ :=
        ih (orderly_after h move) (isStopped_after_of_not_isRaised h hraised move)
      exact ⟨_ :: working, draining, stopped, congrArg _ heq,
        List.forall_mem_cons.mpr ⟨hstatus, hworking⟩, hrest⟩

/-! ## Starting the loop -/

/-- Nothing but starting it gets the loop going. -/
theorem loop_after_of_unstarted (h : c.scheduler.loop = .unstarted) {move : Move}
    (hmove : ∀ clock, move ≠ .run clock) : (c.after move).scheduler.loop = .unstarted := by
  have hstage : ∀ {s : Scheduler}, s.loop.stage = c.scheduler.loop.stage →
      s.loop = .unstarted := by
    intro s hs
    rw [h] at hs
    cases hloop : s.loop <;> simp_all [Loop.stage]
  cases move with
  | tick => rw [after, scheduler_ticked, loop_tick, h]
  | run clock => exact absurd rfl (hmove clock)
  | resume clock =>
    have hwake : c.scheduler.wake = (c.scheduler, []) := by simp [wake, h]
    have hroused : c.scheduler.isRoused = false := by simp [isRoused, h]
    simp [after, resume, hroused, hwake, quietly, Scheduler.goOn, h]
  | stop => simp [after, quietly, Scheduler.stop, h]
  | drain => exact h
  | raise reason time => exact h
  | ring alarm time => exact h
  | fetched number result time =>
    simp only [after]
    split
    · exact hstage (stage_fetched _ _ _)
    · exact h
  | published number answer =>
    simp only [after]
    split
    · exact hstage (stage_published _ _ _)
    · exact h

theorem loop_run_of_unstarted (h : c.scheduler.loop = .unstarted) {moves : List Move}
    (hmoves : ∀ clock, .run clock ∉ moves) : (c.run moves).scheduler.loop = .unstarted := by
  induction moves generalizing c with
  | nil => exact h
  | cons move moves ih =>
    have hmove : ∀ clock, move ≠ .run clock := fun clock heq =>
      hmoves clock (heq ▸ List.mem_cons_self)
    exact ih (loop_after_of_unstarted h hmove) fun clock hmem =>
      hmoves clock (List.mem_cons_of_mem _ hmem)

/-- Behind an attempt to run it the loop has been started. -/
theorem stage_after_run_pos (c : Course) (clock : Time.Clock) :
    1 ≤ (c.after (.run clock)).scheduler.loop.stage := by
  simp only [after]
  split
  · rename_i hrun
    obtain ⟨-, rfl, -⟩ := run_eq_ok hrun
    exact stage_continueLoop_pos _ _ _
  · rename_i hrun
    unfold Scheduler.run at hrun
    split at hrun
    · cases hrun
    · rename_i hloop
      cases hc : c.scheduler.loop <;> simp_all [Loop.stage]

theorem stage_run_pos {moves : List Move} {clock : Time.Clock} (h : .run clock ∈ moves) :
    1 ≤ (c.run moves).scheduler.loop.stage := by
  obtain ⟨before, later, rfl⟩ := List.append_of_mem h
  rw [run_append, run, List.foldl_cons, ← run]
  exact Nat.le_trans (stage_after_run_pos _ clock) (stage_run _ later)

/-! ## Shutting down -/

/-- How the scheduler of a course shuts down while these moves happen. -/
structure ShutsDown (course : List Move → Course) (moves : List Move) : Prop where
  /-- Behind the raised signal no call is made, no tick counts, and calls under way only go. -/
  quiet : ∀ before later, moves = before ++ later →
    (course before).scheduler.signal.isRaised = true →
      (∃ entries, (course moves).log = entries ++ (course before).log ∧
        ∀ episode ∈ entries, ∀ m, .call m ∉ episode.effects) ∧
      (course moves).scheduler.ticks = (course before).scheduler.ticks ∧
      (course moves).scheduler.running.Sublist (course before).scheduler.running
  /-- When the loop has stopped, the signal has been raised, no call is under way, and every call
  that was made has been recorded and, if it succeeded, published or reported. -/
  settled : (course moves).scheduler.status = .stopped →
    (course moves).scheduler.signal.isRaised = true ∧
      (course moves).scheduler.inFlight = [] ∧ (course moves).extractions = [] ∧
      ∀ m, ((course moves).tally m).dispatches = ((course moves).tally m).durations ∧
        ((course moves).tally m).successes =
          ((course moves).tally m).messages + ((course moves).tally m).publishErrors
  /-- The attempt that runs the loop is over when the loop has stopped, and not before. -/
  resolved : ∀ p : Probe, p.scheduler = (course moves).scheduler →
    (p.loopStatus = .resolved ↔ (course moves).scheduler.status = .stopped)
  /-- The loop works, then drains, then has stopped. -/
  ordered : Status.InOrder ((course []).statuses moves)
  /-- The first attempt to run the loop runs it. -/
  first : (∀ clock, .run clock ∉ moves) →
    ∀ clock, ∃ r, (course moves).scheduler.run clock = .ok r
  /-- Every later attempt is refused and changes nothing. -/
  once : ∀ clock, .run clock ∈ moves → ∀ clock',
    (course moves).scheduler.run clock' = .error .alreadyRun ∧
      (course moves).after (.run clock') = course moves

/-- **Shutdown.** While the recorder is whole and neither fetching nor publishing throws, the
scheduler shuts down in order, whatever happens to it and in whatever order. -/
theorem shutsDown_of (catalog : Catalog) (interval : Interval) (base : Option Text)
    (moves : List Move) (h : ∀ move ∈ moves, move.NeverRejects) :
    ShutsDown (of catalog interval [] base) moves := by
  refine ⟨?_, ?_, ?_, ?_, ?_, ?_⟩
  · rintro before later rfl hraised
    have hsplit : of catalog interval [] base (before ++ later) =
        (of catalog interval [] base before).run later := run_append _ _ _
    have hwinds := Winds.run hraised later
    obtain ⟨entries, hlog, hlate⟩ := hwinds.log
    rw [hsplit]
    refine ⟨⟨entries, hlog, fun episode hepisode m => ?_⟩, hwinds.ticks_eq, hwinds.running⟩
    exact (hlate episode hepisode).not_call m
  · intro hstatus
    obtain ⟨hraised, hnone⟩ :=
      (orderly_of catalog interval [] base moves).of_status_eq_stopped hstatus
    have hextractions : (of catalog interval [] base moves).extractions = [] := by
      have hmap := (sound_of catalog interval [] base moves).inFlight_eq
      rw [hnone] at hmap
      exact List.map_eq_nil_iff.mp hmap.symm
    refine ⟨hraised, hnone, hextractions, fun m => ?_⟩
    have hbalances : ((of catalog interval [] base moves).tally m).Balances :=
      balances_of (not_rejects_of h) m
    obtain ⟨hfetching, -, hpublishing⟩ := hbalances
    have hnofetching : ((of catalog interval [] base moves).tally m).fetching = 0 := by
      simp only [tally, hextractions, List.countP_nil]
    have hnopublishing : ((of catalog interval [] base moves).tally m).publishing = 0 := by
      simp only [tally, hextractions, List.countP_nil]
    omega
  · intro p hp
    rw [← hp]
    exact p.loopStatus_eq_resolved_iff
  · exact inOrder_statuses (orderly_fresh catalog interval []) rfl moves
  · intro hnone clock
    have hloop := loop_run_of_unstarted (c := of catalog interval [] base []) rfl hnone
    have hfresh : (of catalog interval [] base moves).scheduler.loop = .unstarted := hloop
    rw [Scheduler.run, hfresh]
    exact ⟨_, rfl⟩
  · intro clock hmem clock'
    -- Somebody has started the loop, and no move takes it back before its start.
    have hstage := stage_run_pos (c := of catalog interval [] base []) hmem
    have hrun : (of catalog interval [] base moves).scheduler.run clock' = .error .alreadyRun := by
      rw [run_eq_error_iff]
      exact Nat.pos_iff_ne_zero.mp hstage
    refine ⟨hrun, ?_⟩
    simp only [after, hrun]

/-- The loop sleeps while both calls of the pair are made. The signal ends the sleep; the loop waits
for the call that is to be published and for the one that is still out. -/
def windingDown : List Move :=
  [.run (.startedAt 0), .tick, .fetched 0 (.ok ⟨.peerInfo, .success [91, 93], 3⟩) 0,
    .raise "SIGTERM" 1, .resume (.startedAt 1), .tick, .published 0 (.ok none), .stop,
    .fetched 0 (.ok ⟨.uptime, .failure .network "refused", 3⟩) 2, .stop, .run (.startedAt 3)]

theorem shutsDown_windingDown :
    (∀ move ∈ windingDown, move.NeverRejects) ∧
      ShutsDown (of pair second [] none) windingDown ∧
      (of pair second [] none windingDown).scheduler.status = .stopped ∧
      (of pair second [] none (windingDown.take 8)).scheduler.status = .draining := by
  have hquiet : ∀ move ∈ windingDown, move.NeverRejects := by
    simp [windingDown, Move.NeverRejects]
  exact ⟨hquiet, shutsDown_of pair second none windingDown hquiet, by decide +kernel,
    by decide +kernel⟩

end Course

end NodeProbe
