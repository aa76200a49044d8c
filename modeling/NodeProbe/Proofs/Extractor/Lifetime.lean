import NodeProbe.Proofs.Extractor.Teardown
import NodeProbe.Proofs.Lifetime.Order

/-!
# An extractor lives a lifetime

Whatever happens to an extractor that serves its metrics, there are turns whose lifetime is where
the extractor is (`Extractor.Reachable.exists_lifetime`). So what holds in every lifetime holds of
every extractor, in which connecting, publishing and closing take no time.
-/

namespace NodeProbe

open Happening (marks)

/-- The broker connects to a bus on which there is nothing yet. -/
def Broker.IsFresh (broker : Broker) : Prop :=
  ∀ access bus, (broker.connect access).1 = .ok bus → bus.delivered = []

theorem Broker.isFresh_of (files : Files) (reach : Reach) : (Broker.of files reach).IsFresh := by
  intro access bus hconnect
  simp only [Broker.of] at hconnect
  split at hconnect
  · cases hconnect
  · cases hconnect
    rfl

/-- What a deed leaves in the journal. -/
def Deed.mark? : Deed → Option Happening
  | closing => some .closing
  | shutting => some .shutting
  | _ => none

/-- The marks of some deeds, the last of which stands in front. -/
def Deed.marks (deeds : List Deed) : List Happening :=
  deeds.reverse.filterMap (·.mark?)

/-- The lifetime is as far as the extractor. -/
inductive Progress.Follows : Progress → Lifetime.Phase → Prop
  | failed (r : Remains) : Follows (.failed r) (.ended none)
  | probing {p : Probe} {c : Course} (hfollows : p.Follows p.waiting c) (hspeaks : p.Speaks) :
      Follows (.probing p) (.extracting c)
  | finished {p : Probe} {c : Course} (hfollows : p.Follows p.waiting c) (hspeaks : p.Speaks) :
      Follows (.finished p) (.ended (some c))

namespace Lifetime

theorem run_append (l : Lifetime) (turns turns' : List Turn) :
    l.run (turns ++ turns') = (l.run turns).run turns' :=
  List.foldl_append

variable {settings : Settings} {c : Course} {deeds : List Deed} {moves : List Move}

/-- Moves lead from one course to another in the same place. -/
theorem run_moves {k : Course → Phase} (hk : ∀ c move, (k c).moved move = k (c.after move))
    (hmoves : ∀ move ∈ moves, move.isReadable = true) :
    run ⟨settings, k c, deeds⟩ (moves.map .move) = ⟨settings, k (c.run moves), deeds⟩ := by
  induction moves generalizing c with
  | nil => rfl
  | cons move moves ih =>
    obtain ⟨hmove, hmoves⟩ := List.forall_mem_cons.mp hmoves
    rw [List.map_cons, run, List.foldl_cons, after, if_pos hmove, hk]
    exact ih hmoves

/-- A program whose loop is over leaves it and closes everything. -/
theorem run_leave (hover : c.scheduler.loop.isOver = true) (fault : Option Fault) :
    run ⟨settings, .extracting c, deeds⟩ [.leave, .close fault] =
      ⟨settings, .ended (some c), Deed.behind fault ++ .closing :: deeds⟩ := by
  simp only [run, List.foldl_cons, List.foldl_nil, after, hover, if_true]

end Lifetime

namespace Extractor

/-- The lifetime is where the extractor is. -/
structure Follows (e : Extractor) (l : Lifetime) : Prop where
  progress : e.progress.Follows l.phase
  marks_eq : marks (Record.story e.journal) =
    .connecting (e.settings.busAccess e.around.identity) :: Deed.marks l.deeds

variable {around : Surroundings} {settings : Settings} {first : Nat} {raised : Option Text}
  {e e' : Extractor} {l : Lifetime}

theorem marks_behind (fault : Option Fault) (deeds : List Deed) :
    Deed.marks (Deed.behind fault ++ .closing :: deeds) =
      Deed.marks deeds ++ ending true (!true || fault.isNone) := by
  cases fault <;> simp [Deed.marks, Deed.behind, Deed.mark?, ending]

/-- Closing everything changes nothing about a probe but its journal and its registry. -/
theorem exists_closed_eq (broker : Broker) (p : Probe) :
    ∃ journal registry, closed broker p = { p with journal, registry } ∧
      (closed broker p).traces = p.traces := by
  have hnoted : ∀ (happened : List Happening) (q : Probe), ∃ journal,
      noteAll q happened = { q with journal } ∧ (noteAll q happened).traces = q.traces := by
    intro happened
    induction happened with
    | nil => exact fun q => ⟨q.journal, rfl, rfl⟩
    | cons what happened ih =>
      intro q
      obtain ⟨journal, heq, htraces⟩ := ih (q.note none what)
      exact ⟨journal, heq, htraces.trans (q.traces_note_none what)⟩
  obtain ⟨journal, heq, htraces⟩ := hnoted (teardown broker true p.registry).1 p
  refine ⟨journal, (teardown broker true p.registry).2, ?_, htraces⟩
  rw [closed, heq]

/-- A program that has left the loop closes everything. -/
theorem Follows.finish (h : e.Follows l) : ∃ turns, e.finish.Follows (l.run turns) := by
  obtain ⟨world, own, progress⟩ := e
  obtain ⟨settings, phase, deeds⟩ := l
  obtain ⟨hprogress, hmarks⟩ := h
  cases hprogress with
  | failed r => exact ⟨[], .failed r, hmarks⟩
  | finished hfollows hspeaks => exact ⟨[], .finished hfollows hspeaks, hmarks⟩
  | @probing p c hfollows hspeaks =>
    rw [finish_probing]
    split
    · rename_i hover
      rw [← hfollows.scheduler_eq] at hover
      have hstory := story_noteAll p (teardown world.broker true p.registry).1
      obtain ⟨journal, registry, heq, htraces⟩ := exists_closed_eq world.broker p
      refine ⟨[.leave, .close world.broker.close.1], ?_⟩
      rw [Lifetime.run_leave hover]
      rw [heq] at htraces
      refine ⟨?_, ?_⟩
      · rw [heq]
        exact .finished ⟨hfollows.1, hfollows.2, hfollows.3, hfollows.4.trans htraces.symm,
          hfollows.5⟩ ⟨hspeaks.1, hspeaks.2, hspeaks.3⟩
      · refine (congrArg marks hstory).trans ?_
        rw [Happening.marks_append, marks_teardown, marks_behind]
        exact congrArg (· ++ _) hmarks
    · exact ⟨[], .probing hfollows hspeaks, hmarks⟩

theorem Follows.onProbe (h : e.Follows l) {step : Probe → Probe}
    (hchanges : ∀ p : Probe, p.Changes (step p))
    (hstep : ∀ {p : Probe} {c : Course}, p.Follows p.waiting c →
      ∃ moves, (p.Speaks → ∀ move ∈ moves, move.isReadable = true) ∧
        (step p).Follows (step p).waiting (c.run moves)) :
    ∃ turns, (e.onProbe step).Follows (l.run turns) := by
  obtain ⟨world, own, progress⟩ := e
  obtain ⟨settings, phase, deeds⟩ := l
  obtain ⟨hprogress, hmarks⟩ := h
  cases hprogress with
  | failed r => exact ⟨[], .failed r, hmarks⟩
  | @probing p c hfollows hspeaks =>
    obtain ⟨moves, hreadable, hnext⟩ := hstep hfollows
    have hadds := Probe.Adds.of_changes (hchanges p)
    have hlast : Follows ⟨world, own, .probing (step p)⟩
        ⟨settings, .extracting (c.run moves), deeds⟩ :=
      ⟨.probing hnext ((hchanges p).preserves Probe.Speaks.change hspeaks),
        hadds.marks_eq.trans hmarks⟩
    obtain ⟨turns, hfinished⟩ := hlast.finish
    refine ⟨moves.map .move ++ turns, ?_⟩
    rw [Lifetime.run_append,
      Lifetime.run_moves (k := .extracting) (fun _ _ => rfl) (hreadable hspeaks)]
    exact hfinished
  | @finished p c hfollows hspeaks =>
    obtain ⟨moves, hreadable, hnext⟩ := hstep hfollows
    have hadds := Probe.Adds.of_changes (hchanges p)
    refine ⟨moves.map .move, ?_⟩
    rw [Lifetime.run_moves (k := fun c => .ended (some c)) (fun _ _ => rfl) (hreadable hspeaks)]
    exact ⟨.finished hnext ((hchanges p).preserves Probe.Speaks.change hspeaks),
      hadds.marks_eq.trans hmarks⟩

/-- The clock and the registry do not matter. -/
theorem Follows.adjust (h : e.Follows l) (clock : Time.Clock) (registry : Metrics.Registry) :
    (e.adjust clock registry).Follows l := by
  obtain ⟨world, own, progress⟩ := e
  obtain ⟨settings, phase, deeds⟩ := l
  obtain ⟨hprogress, hmarks⟩ := h
  cases hprogress with
  | failed r => exact ⟨.failed _, hmarks⟩
  | probing hfollows hspeaks =>
    obtain ⟨h₁, h₂, h₃, h₄, h₅⟩ := hfollows
    exact ⟨.probing ⟨h₁, h₂, h₃, h₄, h₅⟩ ⟨hspeaks.1, hspeaks.2, hspeaks.3⟩, hmarks⟩
  | finished hfollows hspeaks =>
    obtain ⟨h₁, h₂, h₃, h₄, h₅⟩ := hfollows
    exact ⟨.finished ⟨h₁, h₂, h₃, h₄, h₅⟩ ⟨hspeaks.1, hspeaks.2, hspeaks.3⟩, hmarks⟩

theorem Follows.step (h : e.Follows l) (hstep : Step e e') :
    ∃ turns, e'.Follows (l.run turns) := by
  cases hstep with
  | raise reason =>
    refine h.onProbe (fun p => (Probe.Changes.raise p reason).trans (.settle _)) ?_
    intro p c hfollows
    obtain ⟨moves, hreadable, hsettled⟩ := (hfollows.raise reason).settle
    refine ⟨.raise reason p.clock.now :: moves, fun hspeaks => ?_, hsettled⟩
    exact List.forall_mem_cons.mpr ⟨rfl, hreadable
      ((Probe.Changes.raise p reason).preserves Probe.Speaks.change hspeaks)⟩
  | setBus fault =>
    refine h.onProbe (fun p => .of (.offer p _)) fun hfollows => ?_
    exact ⟨[], fun _ => List.forall_mem_nil _, hfollows.1, hfollows.2, hfollows.3, hfollows.4,
      hfollows.5⟩
  | ring alarm => exact h.onProbe (fun p => .ring p alarm) fun hfollows => hfollows.ring alarm
  | respond inquiry =>
    rw [respond_eq]
    exact ⟨[], h.adjust _ _⟩
  | moveTo time =>
    rw [moveTo_eq]
    exact ⟨[], h.adjust _ _⟩

/-! ## Starting -/

theorem makesCalls_transport (around : Surroundings) (settings : Settings) :
    (around.transport settings).MakesCalls := by
  unfold Surroundings.transport
  split <;> exact trivial

/-- What happens before the loop is run is not about a call. -/
theorem traces_built (s : Scheduler) (bus : Bus) (happened : List Happening) :
    (built around settings s bus happened).traces = [] := by
  rw [Probe.traces, List.filterMap_eq_nil_iff]
  intro r hr
  obtain ⟨what, -, rfl⟩ := List.mem_map.mp (List.mem_reverse.mp hr)
  unfold Record.trace?
  split <;> rfl

/-- The probe that is built begins the course of its scheduler. -/
theorem follows_built (around : Surroundings) (settings : Settings) {bus : Bus}
    (hbus : bus.delivered = []) (s : Scheduler) (happened : List Happening) :
    (built around settings s bus happened).Follows
      (built around settings s bus happened).waiting (.start s settings.subjectBase) :=
  ⟨rfl, rfl, hbus.symm, (traces_built s bus happened).symm, .nil⟩

theorem speaks_built (around : Surroundings) (settings : Settings) (s : Scheduler) (bus : Bus)
    (happened : List Happening) :
    (built around settings s bus happened).Speaks :=
  ⟨rfl, makesCalls_transport around settings, List.forall_mem_nil _⟩

/-- The loop is run, and everything follows that can follow at once. -/
theorem exists_begin {p : Probe} {s : Scheduler} {base : Option Text}
    (h : p.Follows p.waiting (.start s base)) (hspeaks : p.Speaks) (raised : Option Text) :
    ∃ moves, (∀ move ∈ moves, move.isReadable = true) ∧
      (begin p raised).Follows (begin p raised).waiting
        ((Lifetime.opening s base (raised.map (·, p.clock.now)) p.clock).run moves) := by
  cases raised with
  | none =>
    obtain ⟨moves, hreadable, hsettled⟩ := h.run.settle
    exact ⟨moves, hreadable ((Probe.Changes.run p).preserves Probe.Speaks.change hspeaks), hsettled⟩
  | some reason =>
    obtain ⟨moves, hreadable, hsettled⟩ := (h.raise reason).run.settle
    exact ⟨moves, hreadable (((Probe.Changes.raise p reason).trans (.run _)).preserves
      Probe.Speaks.change hspeaks), hsettled⟩

/-- The turns of a program whose bus is connected at some time. -/
def arrival (raised : Option Text) (clock : Time.Clock) : List Turn :=
  (raised.toList.map fun reason => .move (.raise reason clock.now)) ++ [.connect clock]

theorem of_arrival {s : Scheduler}
    (hnew : Scheduler.new (.ofDisabled settings.disabled) settings.intervalMs [] = .ok s)
    (raised : Option Text) (clock : Time.Clock) :
    Lifetime.of settings (arrival raised clock) =
      ⟨settings, .extracting (Lifetime.opening s settings.subjectBase
        (raised.map (·, clock.now)) clock), [.connected]⟩ := by
  cases raised <;>
    simp [Lifetime.of, Lifetime.run, arrival, Lifetime.after, Lifetime.connected, hnew,
      Move.isReadable, Lifetime.Phase.moved]

/-- A program whose scheduler cannot be built closes its connection at once. -/
theorem of_refusal {fault : Fault}
    (hnew : Scheduler.new (.ofDisabled settings.disabled) settings.intervalMs [] = .error fault)
    (clock : Time.Clock) (closeFault : Option Fault) :
    Lifetime.of settings [.connect clock, .close closeFault] =
      ⟨settings, .ended none, Deed.behind closeFault ++ .closing :: [.connected]⟩ := by
  simp [Lifetime.of, Lifetime.run, Lifetime.after, Lifetime.connected, hnew]

/-- A program that has failed before its loop was run was refused by the bus or by its scheduler. -/
theorem exists_failed {endpoint : Endpoint} {r : Remains}
    (hjournal : r.journal = openingJournal around (prologue around settings first endpoint ++
      (teardown around.broker (around.connects settings) freshRegistry).1))
    (hnew : around.connects settings = true → ∃ fault, Scheduler.new
      (.ofDisabled settings.disabled) settings.intervalMs [] = .error fault) :
    ∃ turns, Follows ⟨around, settings, .failed r⟩ (Lifetime.of settings turns) := by
  have hmarks : marks (Record.story r.journal) =
      .connecting (settings.busAccess around.identity) ::
        ending (around.connects settings) (around.closes settings) := by
    rw [hjournal, story_openingJournal, Happening.marks_append, marks_prologue, marks_teardown]
    rfl
  cases hconnects : around.connects settings with
  | false =>
    refine ⟨[.refuse], .failed r, hmarks.trans ?_⟩
    rw [Surroundings.closes, hconnects]
    rfl
  | true =>
    obtain ⟨fault, hnew⟩ := hnew hconnects
    refine ⟨[.connect (.startedAt around.epoch), .close around.broker.close.1], ?_⟩
    rw [of_refusal hnew]
    refine ⟨.failed r, hmarks.trans ?_⟩
    rw [marks_behind, Surroundings.closes, hconnects]
    rfl

/-- A program whose loop has been run is in the middle of its lifetime. -/
theorem exists_probing {bus : Bus} (hbus : bus.delivered = []) {s : Scheduler}
    (hnew : Scheduler.new (.ofDisabled settings.disabled) settings.intervalMs [] = .ok s)
    {happened : List Happening}
    (hattempt : IsAttempt (settings.busAccess around.identity) happened) (raised : Option Text) :
    ∃ turns, Follows
      ⟨around, settings, .probing (begin (built around settings s bus happened) raised)⟩
      (Lifetime.of settings turns) := by
  have hspeaks := speaks_built around settings s bus happened
  have hbegun := changes_begin (built around settings s bus happened) raised
  obtain ⟨moves, hreadable, hbegin⟩ :=
    exists_begin (follows_built around settings hbus s happened) hspeaks raised
  have hof : Lifetime.of settings (arrival raised (.startedAt around.epoch) ++ moves.map .move) =
      ⟨settings, .extracting ((Lifetime.opening s settings.subjectBase
        (raised.map (·, around.epoch)) (.startedAt around.epoch)).run moves), [.connected]⟩ := by
    have harrival := of_arrival hnew raised (.startedAt around.epoch)
    rw [Lifetime.of] at harrival ⊢
    rw [Lifetime.run_append, harrival]
    exact Lifetime.run_moves (k := .extracting) (fun _ _ => rfl) hreadable
  refine ⟨arrival raised (.startedAt around.epoch) ++ moves.map .move, ?_⟩
  rw [hof]
  refine ⟨.probing hbegin (hbegun.preserves Probe.Speaks.change hspeaks), ?_⟩
  refine (Probe.Adds.of_changes hbegun).marks_eq.trans ?_
  rw [built, story_openingJournal, hattempt.marks_eq]
  rfl

theorem exists_start (hserves : around.serves settings = true) (hfresh : around.broker.IsFresh) :
    ∃ turns, (start around settings first raised).Follows (Lifetime.of settings turns) := by
  rcases start_cases first raised hserves with
    ⟨endpoint, r, hstart, hjournal, -, hnew⟩ | ⟨endpoint, bus, s, hbus, hnew, hstart⟩
  · rw [hstart]
    exact exists_failed hjournal hnew
  · obtain ⟨turns, hprobing⟩ := exists_probing (hfresh _ _ hbus) hnew
      (isAttempt_prologue around settings first endpoint) raised
    obtain ⟨turns', hfinished⟩ := hprobing.finish
    refine ⟨turns ++ turns', ?_⟩
    rw [hstart, Lifetime.of, Lifetime.run_append]
    exact hfinished

/-- **An extractor lives a lifetime.** -/
theorem Reachable.exists_lifetime (h : Reachable around settings first raised e)
    (hserves : around.serves settings = true) (hfresh : around.broker.IsFresh) :
    ∃ turns, e.Follows (Lifetime.of settings turns) := by
  induction h with
  | initial => exact exists_start hserves hfresh
  | step _ hstep ih =>
    obtain ⟨turns, hfollows⟩ := ih
    obtain ⟨turns', hnext⟩ := hfollows.step hstep
    refine ⟨turns ++ turns', ?_⟩
    rwa [Lifetime.of, Lifetime.run_append]

end Extractor

end NodeProbe
