import NodeProbe.Proofs.Extractor.Lifetime

/-!
# The order of a journal

The journal of an extractor tells first of the attempt to connect to the bus, then of calls, then of
the closing of the connection and last of the end of the registry (`Extractor.InOrder`). It is
written in this order because an extractor is finished only when its loop is over, and then no call
is under way (`Extractor.Reachable.isIdle`), so that nothing is added to the journal any more.
-/

namespace NodeProbe

open Happening (marks)

/-! ## Places -/

namespace Happening

/-- Where it belongs: the attempt to connect comes first, then whatever is about a call, then the
closing of the connection and last the shutting down of the registry. Lines are printed anywhere. -/
def place? : Happening → Option Nat
  | connecting _ => some 0
  | called | aborted | recorded _ | published _ => some 1
  | closing => some 2
  | shutting => some 3
  | printed _ => none

/-- The places of some happenings. -/
def places (happened : List Happening) : List Nat :=
  happened.filterMap (·.place?)

theorem places_append (happened happened' : List Happening) :
    places (happened ++ happened') = places happened ++ places happened' :=
  List.filterMap_append

@[simp] theorem places_printed (lines : List Line) : places (lines.map .printed) = [] := by
  simp [places, place?]

theorem mem_places_iff {place : Nat} {happened : List Happening} :
    place ∈ places happened ↔ ∃ what ∈ happened, what.place? = some place :=
  List.mem_filterMap

/-- What is no mark is about a call or printed. -/
theorem place_eq_one {what : Happening} (hwhat : what.isMark = false) {place : Nat}
    (hplace : what.place? = some place) : place = 1 := by
  cases what <;> simp_all [isMark, place?]

end Happening

open Happening (places)

/-- What is added to the journal of a probe is about calls. -/
theorem Probe.Adds.exists_places_eq {p q : Probe} (h : p.Adds q) :
    ∃ calls, (∀ place ∈ calls, place = 1) ∧
      places (Record.story q.journal) = places (Record.story p.journal) ++ calls := by
  obtain ⟨⟨new, hjournal, hnew⟩, -⟩ := h
  refine ⟨places (Record.story new), fun place hplace => ?_, ?_⟩
  · obtain ⟨what, hwhat, hplace⟩ := Happening.mem_places_iff.mp hplace
    obtain ⟨r, hr, rfl⟩ := List.mem_map.mp (List.mem_reverse.mp hwhat)
    exact Happening.place_eq_one (hnew r hr) hplace
  · rw [hjournal, Record.story_append, Happening.places_append]

/-! ## A probe that is finished -/

namespace Probe

variable {p : Probe}

theorem concludeAll_of_flights_eq_nil (h : p.flights = []) : p.concludeAll = p := by
  rw [concludeAll_eq, landing, flying, h]
  show { p with flights := [] } = p
  rw [← h]

/-- Nothing follows any more when the loop is over and no call is under way. -/
theorem settle_of_isOver (hflights : p.flights = []) (hover : p.scheduler.loop.isOver = true) :
    p.settle.journal = p.journal ∧ p.settle.scheduler.loop = p.scheduler.loop := by
  have hresume : p.resume = p := by
    simp only [resume, Scheduler.wake_of_isOver hover, List.foldl_nil,
      Scheduler.goOn_of_isOver hover]
  rw [settle, hresume, concludeAll_of_flights_eq_nil hflights, stop,
    Scheduler.stop_of_isOver hover]
  exact ⟨rfl, rfl⟩

theorem ring_of_isOver (hflights : p.flights = []) (hover : p.scheduler.loop.isOver = true)
    (alarm : Time.Alarm) :
    (p.ring alarm).journal = p.journal ∧ (p.ring alarm).scheduler.loop = p.scheduler.loop := by
  have hrung : p.rung alarm =
      { p with
        flights := []
        scheduler :=
          { p.scheduler with signal := p.scheduler.signal.ring alarm p.clock.now } } := by
    simp [rung, hflights]
  rw [ring_eq, hrung]
  exact settle_of_isOver rfl hover

end Probe

namespace Extractor

variable {around : Surroundings} {settings : Settings} {first : Nat} {raised : Option Text}
  {e e' : Extractor}

/-- The places in the journal of an extractor that serves its metrics. -/
structure Tells (around : Surroundings) (settings : Settings) (e : Extractor) : Prop where
  places_eq : ∃ calls, (∀ place ∈ calls, place = 1) ∧
    (calls ≠ [] → around.connects settings = true) ∧
    places (Record.story e.journal) = 0 :: (calls ++ if e.isRunning then []
      else places (ending (around.connects settings) (around.closes settings)))
  isOver : ∀ p, e.progress = .finished p → p.scheduler.loop.isOver = true

theorem places_teardown (broker : Broker) (isConnected : Bool) (registry : Metrics.Registry) :
    places (teardown broker isConnected registry).1 =
      places (ending isConnected (!isConnected || broker.close.1.isNone)) := by
  cases isConnected with
  | false => simp [teardown, registryEnd, ending, places, Happening.place?]
  | true =>
    cases hclose : broker.close with
    | mk fault lines =>
      cases fault <;> simp [teardown, hclose, registryEnd, ending, places, Happening.place?]

theorem IsAttempt.places_eq {access : BusAccess} {happened : List Happening}
    (h : IsAttempt access happened) : places happened = [0] := by
  obtain ⟨before, behind, rfl⟩ := h
  rw [Happening.places_append, Happening.places_printed]
  simp [places, Happening.place?]

namespace Tells

/-- The journal of an extractor does not change, and neither does the loop of its probe. -/
theorem congr (h : Tells around settings e) (hjournal : e'.journal = e.journal)
    (hrunning : e'.isRunning = e.isRunning)
    (hover : ∀ q, e'.progress = .finished q → ∃ p, e.progress = .finished p ∧
      q.scheduler.loop = p.scheduler.loop) : Tells around settings e' := by
  obtain ⟨hplaces, hisOver⟩ := h
  refine ⟨by rwa [hjournal, hrunning], fun q hq => ?_⟩
  obtain ⟨p, hp, hloop⟩ := hover q hq
  rw [hloop]
  exact hisOver p hp

theorem finish {own : Settings} {p : Probe}
    (h : Tells around settings ⟨around, own, .probing p⟩)
    (hconnects : around.connects settings = true) :
    Tells around settings (Extractor.finish ⟨around, own, .probing p⟩) := by
  rw [finish_probing]
  split
  · obtain ⟨⟨calls, hcalls, hconnected, hplaces⟩, -⟩ := h
    have hdown : around.closes settings = (!true || around.broker.close.1.isNone) := by
      rw [Surroundings.closes, hconnects]
    refine ⟨⟨calls, hcalls, hconnected, ?_⟩, ?_⟩
    · rw [isRunning, if_neg Bool.false_ne_true, hconnects, hdown,
        ← places_teardown around.broker true p.registry]
      refine (congrArg places (story_noteAll p _)).trans ?_
      rw [isRunning, if_pos rfl, List.append_nil] at hplaces
      rw [Happening.places_append, ← List.cons_append]
      exact congrArg (· ++ _) hplaces
    · rintro q ⟨⟩
      obtain ⟨journal, registry, heq, -⟩ := exists_closed_eq around.broker p
      rw [heq]
      assumption
  · exact h

/-- What a running probe adds to the journal is about calls. -/
theorem onProbe (h : Tells around settings e) (hstands : Stands around settings e)
    (hidle : ∀ p, e.progress = .finished p → p.flights = []) {step : Probe → Probe}
    (hchanges : ∀ p : Probe, p.Changes (step p))
    (hrests : ∀ p : Probe, p.flights = [] → p.scheduler.loop.isOver = true →
      (step p).journal = p.journal ∧ (step p).scheduler.loop = p.scheduler.loop) :
    Tells around settings (e.onProbe step) := by
  obtain ⟨world, own, progress⟩ := e
  cases hstands.around_eq
  cases progress with
  | failed r => exact h
  | probing p =>
    have hconnects := hstands.connects rfl
    obtain ⟨⟨calls, hcalls, -, hplaces⟩, -⟩ := h
    obtain ⟨calls', hcalls', hadded⟩ := (Probe.Adds.of_changes (hchanges p)).exists_places_eq
    refine finish ⟨⟨calls ++ calls', ?_, fun _ => hconnects, ?_⟩,
      fun q hq => Progress.noConfusion hq⟩ hconnects
    · rintro place hplace
      rcases List.mem_append.mp hplace with hplace | hplace
      · exact hcalls place hplace
      · exact hcalls' place hplace
    · rw [isRunning, if_pos rfl, List.append_nil] at hplaces ⊢
      refine hadded.trans ?_
      rw [← List.cons_append]
      exact congrArg (· ++ _) hplaces
  | finished p =>
    obtain ⟨hjournal, hloop⟩ := hrests p (hidle p rfl) (h.isOver p rfl)
    refine h.congr hjournal rfl ?_
    rintro q ⟨⟩
    exact ⟨p, rfl, hloop⟩

theorem adjust (h : Tells around settings e) (clock : Time.Clock) (registry : Metrics.Registry) :
    Tells around settings (e.adjust clock registry) := by
  obtain ⟨world, own, progress⟩ := e
  cases progress with
  | failed r => exact h.congr rfl rfl fun q hq => Progress.noConfusion hq
  | probing p => exact h.congr rfl rfl fun q hq => Progress.noConfusion hq
  | finished p =>
    refine h.congr rfl rfl ?_
    rintro q ⟨⟩
    exact ⟨p, rfl, rfl⟩

theorem step (h : Tells around settings e) (hstands : Stands around settings e)
    (hidle : ∀ p, e.progress = .finished p → p.flights = []) (hstep : Step e e') :
    Tells around settings e' := by
  cases hstep with
  | raise reason =>
    exact h.onProbe hstands hidle (fun p => (Probe.Changes.raise p reason).trans (.settle _))
      fun p hflights hover => Probe.settle_of_isOver (p := p.raise reason) hflights hover
  | setBus fault =>
    exact h.onProbe hstands hidle (fun p => .of (.offer p _)) fun _ _ _ => ⟨rfl, rfl⟩
  | ring alarm =>
    exact h.onProbe hstands hidle (fun p => .ring p alarm)
      fun p hflights hover => Probe.ring_of_isOver hflights hover alarm
  | respond inquiry =>
    rw [respond_eq]
    exact h.adjust _ _
  | moveTo time =>
    rw [moveTo_eq]
    exact h.adjust _ _

end Tells

/-- A program that cannot serve its metrics ends at once. -/
theorem Reachable.of_not_serves (h : Reachable around settings first raised e)
    (hserves : around.serves settings = false) :
    ∃ r, e.progress = .failed r ∧ places (Record.story r.journal) = [] := by
  induction h with
  | initial =>
    unfold Surroundings.serves at hserves
    unfold start
    cases hlisten : Metrics.listen (some settings.metricsAddress.text) around.occupied with
    | error fault => exact ⟨_, rfl, by rw [story_openingJournal]; rfl⟩
    | ok endpoint =>
      rw [hlisten] at hserves
      cases hserves
  | @step e e' _ hstep ih =>
    obtain ⟨r, hr, hplaces⟩ := ih
    obtain ⟨world, own, progress⟩ := e
    cases hr
    cases hstep with
    | respond inquiry => exact ⟨_, rfl, hplaces⟩
    | moveTo time => exact ⟨_, rfl, hplaces⟩
    | _ => exact ⟨r, rfl, hplaces⟩

/-! ## The order -/

/-- The order in which a program has opened, used and closed what it has. -/
structure InOrder (around : Surroundings) (settings : Settings) (e : Extractor) : Prop where
  /-- The attempt to connect, then what is about calls, then the closing of the connection, and last
  the shutting down of the registry. -/
  sorted : (places (Record.story e.journal)).Pairwise (· ≤ ·)
  /-- Nothing is about a call unless the bus has been connected. -/
  connected : 1 ∈ places (Record.story e.journal) →
    0 ∈ places (Record.story e.journal) ∧ around.connects settings = true
  /-- When the connection is closed no call is under way. -/
  idle : .closing ∈ Record.story e.journal → ∀ p, e.probe? = some p →
    p.flights = [] ∧ p.scheduler.inFlight = []
  /-- The registry is shut down behind a connection that has been closed, if there was one. -/
  shut : .shutting ∈ Record.story e.journal → around.connects settings = true →
    .closing ∈ Record.story e.journal ∧ around.broker.close.1 = none

/-- A program that is told to end while a call is under way, and waits for it. -/
def waiting : Extractor :=
  Time.Timed.advance
    ((Time.Timed.advance (start (harbour none) uptimeOnly 1 none) 1000).raise "SIGTERM") 5000

end Extractor

end NodeProbe
