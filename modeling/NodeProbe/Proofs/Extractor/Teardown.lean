import NodeProbe.Proofs.Extractor.Basic

/-!
# Closing everything

When an extractor that serves its metrics has ended, it has closed its connection to the bus once if
it had one, and has then shut its registry down, once. There is one exception: when the connection
cannot be closed, the registry is not shut down any more, and the metrics are served on
(`tearsDown_iff`).
-/

namespace NodeProbe

open Happening (marks)

namespace Surroundings

variable (around : Surroundings) (settings : Settings)

/-- The metrics are served. -/
def serves : Bool :=
  (Metrics.listen (some settings.metricsAddress.text) around.occupied).isOk

/-- The bus takes the connection. -/
def connects : Bool :=
  (around.broker.connect (settings.busAccess around.identity)).1.isOk

/-- There is no connection to the bus, or it can be closed. -/
def closes : Bool :=
  !around.connects settings || around.broker.close.1.isNone

end Surroundings

namespace Extractor

variable {around : Surroundings} {settings : Settings} {first : Nat} {raised : Option Text}
  {e e' : Extractor}

/-- What an extractor does with its connection and with its registry before it has ended. -/
def ending (isConnected isClosed : Bool) : List Happening :=
  (if isConnected then [.closing] else []) ++ if isClosed then [.shutting] else []

/-- Where an extractor that serves its metrics stands with its connection and its registry. -/
structure Stands (around : Surroundings) (settings : Settings) (e : Extractor) : Prop where
  around_eq : e.around = around
  connects : e.isRunning = true → around.connects settings = true
  marks_eq : marks (Record.story e.journal) =
    .connecting (settings.busAccess around.identity) ::
      if e.isRunning then [] else ending (around.connects settings) (around.closes settings)
  isShut_eq : e.registry.isShut = (!e.isRunning && around.closes settings)

theorem Stands.congr (h : Stands around settings e) (haround : e'.around = e.around)
    (hrunning : e'.isRunning = e.isRunning)
    (hmarks : marks (Record.story e'.journal) = marks (Record.story e.journal))
    (hshut : e'.registry.isShut = e.registry.isShut) : Stands around settings e' := by
  obtain ⟨haround', hconnects, hmarks', hshut'⟩ := h
  rw [← hrunning] at hconnects hmarks' hshut'
  exact ⟨haround.trans haround', hconnects, hmarks.trans hmarks', hshut.trans hshut'⟩

/-! ## Ending -/

theorem marks_teardown (broker : Broker) (isConnected : Bool) (registry : Metrics.Registry) :
    marks (teardown broker isConnected registry).1 =
      ending isConnected (!isConnected || broker.close.1.isNone) := by
  cases isConnected with
  | false => simp [teardown, registryEnd, ending]
  | true =>
    cases hclose : broker.close with
    | mk fault lines => cases fault <;> simp [teardown, hclose, registryEnd, ending]

theorem isShut_teardown (broker : Broker) (isConnected : Bool) (registry : Metrics.Registry) :
    (teardown broker isConnected registry).2.isShut =
      (registry.isShut || (!isConnected || broker.close.1.isNone)) := by
  cases isConnected with
  | false => simp [teardown, Metrics.Registry.shut]
  | true =>
    cases hclose : broker.close with
    | mk fault lines => cases fault <;> simp [teardown, hclose, Metrics.Registry.shut]

/-- The probe when everything is closed. -/
def closed (broker : Broker) (p : Probe) : Probe :=
  { noteAll p (teardown broker true p.registry).1 with
    registry := (teardown broker true p.registry).2 }

/-- Everything is closed as soon as the loop is over. -/
theorem finish_probing (around : Surroundings) (settings : Settings) (p : Probe) :
    finish ⟨around, settings, .probing p⟩ =
      ⟨around, settings,
        if p.scheduler.loop.isOver then .finished (closed around.broker p) else .probing p⟩ := by
  simp only [finish, Probe.loopStatus, closed]
  cases p.scheduler.loop <;> simp [Scheduler.Loop.isOver]

theorem story_openingJournal (happened : List Happening) :
    Record.story (openingJournal around happened) = happened := by
  simp [Record.story, openingJournal, Function.comp_def]

theorem story_noteAll (p : Probe) (happened : List Happening) :
    Record.story (noteAll p happened).journal = Record.story p.journal ++ happened := by
  induction happened generalizing p with
  | nil => simp [noteAll]
  | cons what happened ih =>
    rw [noteAll, List.foldl_cons, ← noteAll, ih]
    simp [Probe.note, Record.story]

/-! ## Steps -/

theorem Stands.finish {own : Settings} {p : Probe}
    (h : Stands around settings ⟨around, own, .probing p⟩) :
    Stands around settings (finish ⟨around, own, .probing p⟩) := by
  rw [finish_probing]
  split
  · obtain ⟨-, hconnects, hmarks, hshut⟩ := h
    have hdown : around.closes settings = (!true || around.broker.close.1.isNone) := by
      rw [Surroundings.closes, hconnects rfl]
    refine ⟨rfl, nofun, ?_, ?_⟩
    · rw [isRunning, if_neg Bool.false_ne_true, hconnects rfl, hdown,
        ← marks_teardown around.broker true p.registry]
      refine (congrArg marks (story_noteAll p _)).trans ?_
      rw [Happening.marks_append]
      exact congrArg (· ++ _) hmarks
    · refine (isShut_teardown around.broker true p.registry).trans ?_
      rw [show p.registry.isShut = false from hshut, hdown]
      rfl
  · exact h

/-- What is changed about the probe leaves no mark. -/
theorem Stands.onProbe (h : Stands around settings e) {step : Probe → Probe}
    (hstep : ∀ p : Probe, p.Changes (step p)) : Stands around settings (e.onProbe step) := by
  obtain ⟨world, own, progress⟩ := e
  cases progress with
  | failed r => exact h
  | probing p =>
    have hadds := Probe.Adds.of_changes (hstep p)
    have hnext : Stands around settings ⟨world, own, .probing (step p)⟩ :=
      h.congr rfl rfl hadds.marks_eq hadds.isShut_eq
    cases h.around_eq
    exact hnext.finish
  | finished p =>
    have hadds := Probe.Adds.of_changes (hstep p)
    exact h.congr rfl rfl hadds.marks_eq hadds.isShut_eq

theorem Stands.adjust (h : Stands around settings e) (clock : Time.Clock)
    {registry : Metrics.Registry} (hshut : registry.isShut = e.registry.isShut) :
    Stands around settings (e.adjust clock registry) := by
  obtain ⟨world, own, progress⟩ := e
  cases progress <;> exact h.congr rfl rfl rfl hshut

theorem Stands.step (h : Stands around settings e) (hstep : Step e e') :
    Stands around settings e' := by
  cases hstep with
  | raise reason => exact h.onProbe fun p => (Probe.Changes.raise p reason).trans (.settle _)
  | setBus fault => exact h.onProbe fun p => .of (.offer p _)
  | ring alarm => exact h.onProbe fun p => .ring p alarm
  | respond inquiry =>
    rw [respond_eq]
    exact h.adjust _ (Metrics.Registry.isShut_respond _ _ _ _)
  | moveTo time =>
    rw [moveTo_eq]
    exact h.adjust _ rfl

/-! ## Starting -/

theorem isShut_create (r : Metrics.Registry) (name description unit : Text)
    (kind : Metrics.Kind) : (r.create name description unit kind).1.isShut = r.isShut := by
  unfold Metrics.Registry.create
  simp only
  split
  · split <;> rfl
  · rfl

theorem isShut_probeRegistry (base : Text) : (Metrics.probeRegistry base).isShut = false := by
  simp only [Metrics.probeRegistry, isShut_create]
  rfl

/-- Nothing but an attempt to connect, with lines printed around it. -/
def IsAttempt (access : BusAccess) (happened : List Happening) : Prop :=
  ∃ before behind : List Line,
    happened = before.map .printed ++ .connecting access :: behind.map .printed

namespace IsAttempt

variable {access : BusAccess} {happened : List Happening}

theorem append (h : IsAttempt access happened) (lines : List Line) :
    IsAttempt access (happened ++ lines.map .printed) := by
  obtain ⟨before, behind, rfl⟩ := h
  exact ⟨before, behind ++ lines, by simp⟩

theorem prepend (h : IsAttempt access happened) (lines : List Line) :
    IsAttempt access (lines.map .printed ++ happened) := by
  obtain ⟨before, behind, rfl⟩ := h
  exact ⟨lines ++ before, behind, by simp⟩

theorem marks_eq (h : IsAttempt access happened) : marks happened = [.connecting access] := by
  obtain ⟨before, behind, rfl⟩ := h
  simp

end IsAttempt

/-- Building a probe begins with an attempt to connect. It fails if the bus or the scheduler
does. -/
theorem buildup_of (around : Surroundings) (settings : Settings) (first : Nat) :
    IsAttempt (settings.busAccess around.identity) (Buildup.of around settings first).happened ∧
      (Buildup.of around settings first).isConnected = around.connects settings ∧
      ((∃ fault, (Buildup.of around settings first).result = .error fault ∧
          (around.connects settings = true → ∃ fault', Scheduler.new
            (.ofDisabled settings.disabled) settings.intervalMs [] = .error fault')) ∨
        ∃ bus s, (around.broker.connect (settings.busAccess around.identity)).1 = .ok bus ∧
          Scheduler.new (.ofDisabled settings.disabled) settings.intervalMs [] = .ok s ∧
          (Buildup.of around settings first).result =
            .ok { Probe.new s (around.transport settings) settings.subjectBase around.epoch
              with bus }) := by
  have hattempt : IsAttempt (settings.busAccess around.identity)
      (.printed (heading first "Connecting to NATS...") ::
        .connecting (settings.busAccess around.identity) ::
          (around.broker.connect (settings.busAccess around.identity)).2.map .printed) :=
    ⟨[_], _, rfl⟩
  unfold Buildup.of Surroundings.connects
  simp only
  cases (around.broker.connect (settings.busAccess around.identity)).1 with
  | error fault =>
    exact ⟨hattempt, rfl, .inl ⟨fault, rfl, fun hconnects => nomatch hconnects⟩⟩
  | ok bus =>
    simp only
    cases Scheduler.new (.ofDisabled settings.disabled) settings.intervalMs [] with
    | error fault =>
      exact ⟨hattempt.append _, rfl, .inl ⟨fault, rfl, fun _ => ⟨fault, rfl⟩⟩⟩
    | ok scheduler =>
      exact ⟨(hattempt.append _).append [_], rfl, .inr ⟨bus, scheduler, rfl, rfl, rfl⟩⟩

theorem changes_begin (p : Probe) (raised : Option Text) : p.Changes (begin p raised) := by
  unfold begin
  cases raised with
  | none => exact (Probe.Changes.run p).trans (.settle _)
  | some reason =>
    exact ((Probe.Changes.raise p reason).trans (.run _)).trans (.settle _)

/-- What has happened before the loop is run. -/
def prologue (around : Surroundings) (settings : Settings) (first : Nat) (endpoint : Endpoint) :
    List Happening :=
  .printed (heading first "Initializing Prometheus metrics registry...") ::
    ((Metrics.listening endpoint.host (around.boundPort endpoint) settings.bearerToken).map
      .printed ++ (Buildup.of around settings (first + 1)).happened)

/-- The probe that is built, before its loop is run. -/
def built (around : Surroundings) (settings : Settings) (s : Scheduler) (bus : Bus)
    (happened : List Happening) : Probe :=
  { Probe.new s (around.transport settings) settings.subjectBase around.epoch with
    bus
    journal := openingJournal around happened }

theorem isAttempt_prologue (around : Surroundings) (settings : Settings) (first : Nat)
    (endpoint : Endpoint) :
    IsAttempt (settings.busAccess around.identity) (prologue around settings first endpoint) :=
  ((buildup_of around settings (first + 1)).1.prepend
    (Metrics.listening endpoint.host (around.boundPort endpoint) settings.bearerToken)).prepend
      [heading first "Initializing Prometheus metrics registry..."]

theorem marks_prologue (around : Surroundings) (settings : Settings) (first : Nat)
    (endpoint : Endpoint) : marks (prologue around settings first endpoint) =
      [.connecting (settings.busAccess around.identity)] :=
  (isAttempt_prologue around settings first endpoint).marks_eq

/-- A program that serves its metrics has failed, or it runs the loop of a probe. -/
theorem start_cases (first : Nat) (raised : Option Text)
    (hserves : around.serves settings = true) :
    (∃ endpoint r, start around settings first raised = ⟨around, settings, .failed r⟩ ∧
      r.journal = openingJournal around (prologue around settings first endpoint ++
        (teardown around.broker (around.connects settings) freshRegistry).1) ∧
      r.registry = (teardown around.broker (around.connects settings) freshRegistry).2 ∧
      (around.connects settings = true → ∃ fault, Scheduler.new
        (.ofDisabled settings.disabled) settings.intervalMs [] = .error fault)) ∨
    ∃ endpoint bus s, (around.broker.connect (settings.busAccess around.identity)).1 = .ok bus ∧
      Scheduler.new (.ofDisabled settings.disabled) settings.intervalMs [] = .ok s ∧
      start around settings first raised =
        finish ⟨around, settings, .probing (begin
          (built around settings s bus (prologue around settings first endpoint)) raised)⟩ := by
  obtain ⟨-, hconnected, hresult⟩ := buildup_of around settings (first + 1)
  unfold Surroundings.serves at hserves
  unfold start
  cases hlisten : Metrics.listen (some settings.metricsAddress.text) around.occupied with
  | error fault =>
    rw [hlisten] at hserves
    cases hserves
  | ok endpoint =>
    rcases hresult with ⟨fault, hresult, hnew⟩ | ⟨bus, s, hbus, hnew, hresult⟩
    · simp only [hresult, hconnected]
      exact .inl ⟨endpoint, _, rfl, rfl, rfl, hnew⟩
    · simp only [hresult]
      exact .inr ⟨endpoint, bus, s, hbus, hnew, rfl⟩

theorem stands_start (hserves : around.serves settings = true) :
    Stands around settings (start around settings first raised) := by
  rcases start_cases first raised hserves with
    ⟨endpoint, r, hstart, hjournal, hregistry, -⟩ | ⟨endpoint, bus, s, hbus, -, hstart⟩
  · rw [hstart]
    refine ⟨rfl, nofun, ?_, ?_⟩
    · refine (congrArg (fun journal => marks (Record.story journal)) hjournal).trans ?_
      rw [story_openingJournal, Happening.marks_append, marks_prologue, marks_teardown]
      rfl
    · refine (congrArg Metrics.Registry.isShut hregistry).trans ?_
      rw [isShut_teardown, freshRegistry, isShut_probeRegistry]
      rfl
  · have hconnects : around.connects settings = true := by
      rw [Surroundings.connects, hbus]
      rfl
    rw [hstart]
    refine Stands.finish ?_
    have hbegun :=
      changes_begin (built around settings s bus (prologue around settings first endpoint)) raised
    have hadds := Probe.Adds.of_changes hbegun
    refine ⟨rfl, fun _ => hconnects, hadds.marks_eq.trans ?_,
      hadds.isShut_eq.trans (isShut_probeRegistry _)⟩
    rw [built, story_openingJournal, marks_prologue]
    rfl

/-- What has been closed when the program has ended: its connection to the bus, once, if it had one
and never otherwise, and behind it the registry, once. -/
structure TearsDown (around : Surroundings) (settings : Settings) (e : Extractor) : Prop where
  marks_eq : marks (Record.story e.journal) =
    .connecting (settings.busAccess around.identity) ::
      if around.connects settings then [.closing, .shutting] else [.shutting]
  isShut : e.registry.isShut = true

theorem Reachable.stands (h : Reachable around settings first raised e)
    (hserves : around.serves settings = true) : Stands around settings e := by
  induction h with
  | initial => exact stands_start hserves
  | step _ hstep ih => exact ih.step hstep

/-- **Teardown.** A program that serves its metrics has closed everything when it has ended, however
it ended, if and only if its connection to the bus could be closed or there was none. -/
theorem tearsDown_iff (h : Reachable around settings first raised e)
    (hserves : around.serves settings = true) (hend : e.isRunning = false) :
    TearsDown around settings e ↔
      (around.connects settings = true → around.broker.close.1 = none) := by
  obtain ⟨-, -, hmarks, hshut⟩ := h.stands hserves
  rw [hend, if_neg Bool.false_ne_true] at hmarks
  rw [hend, Bool.not_false, Bool.true_and] at hshut
  have hcloses : around.closes settings = true ↔
      (around.connects settings = true → around.broker.close.1 = none) := by
    simp [Surroundings.closes, imp_iff_not_or]
  rw [← hcloses]
  refine ⟨fun hdown => hshut.symm.trans hdown.isShut, fun hclosed => ⟨?_, hshut.trans hclosed⟩⟩
  rw [hmarks, ending, hclosed]
  cases around.connects settings <;> rfl

/-! ## A connection that cannot be closed -/

/-- Nothing but the uptime of the node is asked for. -/
def uptimeOnly : Settings where
  rpcHost := ⟨"127.0.0.1", "8332"⟩
  cookieFile := none
  rpcUser := some "u"
  rpcPassword := some "p"
  timeoutMs := 5000
  intervalSeconds := 1
  metricsAddress := ⟨"127.0.0.1", "9464"⟩
  bearerToken := none
  busAddress := ⟨"127.0.0.1", "4222"⟩
  busUser := none
  busPassword := none
  busPasswordFile := none
  subjectBase := none
  disabled := Method.all.filter (· ≠ .uptime)

/-- A bus that takes every connection, and does or does not let it be closed. -/
def harbour (closeFault : Option Fault) : Surroundings where
  identity := .standard
  broker := .scripted none closeFault
  node := .prepared ⟨[]⟩
  occupied := none
  anyPort := "9464"
  epoch := 0

/-- The connection is lost before it is closed. -/
def lost : Fault := .error "Error" "connection lost"

theorem tearsDown_harbour :
    (harbour none).serves uptimeOnly = true ∧
      (start (harbour none) uptimeOnly 1 (some "SIGTERM")).isRunning = false ∧
      TearsDown (harbour none) uptimeOnly (start (harbour none) uptimeOnly 1 (some "SIGTERM")) := by
  have hserves : (harbour none).serves uptimeOnly = true := by decide +kernel
  have hend : (start (harbour none) uptimeOnly 1 (some "SIGTERM")).isRunning = false := by
    decide +kernel
  exact ⟨hserves, hend, (tearsDown_iff .initial hserves hend).mpr fun _ => rfl⟩

theorem not_tearsDown_lost :
    (harbour (some lost)).serves uptimeOnly = true ∧
      Reachable (harbour (some lost)) uptimeOnly 1 (some "SIGTERM")
        (start (harbour (some lost)) uptimeOnly 1 (some "SIGTERM")) ∧
      (start (harbour (some lost)) uptimeOnly 1 (some "SIGTERM")).isRunning = false ∧
      ¬ TearsDown (harbour (some lost)) uptimeOnly
        (start (harbour (some lost)) uptimeOnly 1 (some "SIGTERM")) := by
  refine ⟨by decide +kernel, .initial, by decide +kernel, fun hdown => ?_⟩
  have hshut : (start (harbour (some lost)) uptimeOnly 1 (some "SIGTERM")).registry.isShut =
      false := by decide +kernel
  exact Bool.false_ne_true (hshut.symm.trans hdown.isShut)

end Extractor

end NodeProbe
