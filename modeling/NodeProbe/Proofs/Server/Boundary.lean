import NodeProbe.Proofs.Config.Precedence
import NodeProbe.Proofs.Config.Timers
import NodeProbe.Proofs.Extractor.Lifetime
import NodeProbe.Server

/-!
# What reaches the boundary of the process

A server ends by itself, or it is ended by a fault, and that should be a fault of the configuration.
Whatever goes wrong while calls are made and events are published is taken care of where it occurs
(`Probe.Tame`), and so is whatever goes wrong when everything is closed. Connecting to the bus and
serving the metrics fail with nothing but a fault of the configuration.

One fault is left. The settings accept every whole number of seconds above zero, and the scheduler
every finite number of milliseconds above zero. In between the seconds are multiplied by a thousand,
which overflows if there are too many: then the scheduler throws a fault of its own
(`onlyConfigFaults_iff`).
-/

namespace NodeProbe

open Scheduler

/-! ## The two checks of the interval -/

/-- The milliseconds between two ticks do not overflow. -/
def Settings.FitsInterval (s : Settings) : Prop :=
  ∃ seconds : Nat, Decimal.rational? s.intervalSeconds = some (seconds : ℚ) ∧
    seconds * 1000 < Decimal.overflow

namespace Settings

variable {s : Settings}

theorem rational?_intervalMs_eq_none_iff (hseconds : positiveProblem? s.intervalSeconds = none) :
    Decimal.rational? s.intervalMs = none ↔ ¬ s.FitsInterval := by
  obtain ⟨n, hn, hvalue⟩ := exists_natCast_of_positiveProblem? hseconds
  have hpos : (0 : ℚ) < n := by exact_mod_cast hn
  have hfits : s.FitsInterval ↔ n * 1000 < Decimal.overflow := by
    refine ⟨fun ⟨seconds, heq, hless⟩ => ?_, fun hless => ⟨n, hvalue, hless⟩⟩
    obtain rfl : n = seconds := by exact_mod_cast Option.some.inj (hvalue.symm.trans heq)
    exact hless
  rw [intervalMs, Decimal.rational?_mul_thousand_eq_none_iff hvalue hpos, hfits, not_lt]
  exact_mod_cast Iff.rfl

/-- The scheduler accepts the interval that has been read exactly if it does not overflow. -/
theorem exists_new_eq_ok_iff (hseconds : positiveProblem? s.intervalSeconds = none)
    (catalog : Catalog) (broken : List Part) :
    (∃ scheduler, Scheduler.new catalog s.intervalMs broken = .ok scheduler) ↔
      s.FitsInterval := by
  have hnone := rational?_intervalMs_eq_none_iff hseconds
  constructor
  · rintro ⟨scheduler, hnew⟩
    obtain ⟨interval, hinterval, -⟩ := new_eq_ok_iff.mp hnew
    by_contra hnot
    cases (hnone.mpr hnot).symm.trans (Interval.of?_eq_some_iff.mp hinterval).2
  · intro hfits
    obtain ⟨n, hn, hvalue⟩ := exists_natCast_of_positiveProblem? hseconds
    cases hlength : Decimal.rational? s.intervalMs with
    | none => exact absurd hfits (hnone.mp hlength)
    | some length =>
      exact ⟨_, new_eq_ok_iff.mpr ⟨⟨s.intervalMs, length, intervalMs_pos hn hvalue hlength⟩,
        Interval.of?_eq_some_iff.mpr ⟨rfl, hlength⟩, rfl⟩⟩

end Settings

/-! ## Probes -/

/-- Whatever calls throw has a text, and the probe follows a course whose loop does not fail. -/
structure Probe.Tame (p : Probe) : Prop where
  speaks : p.Speaks
  exists_course : ∃ c : Course, c.Tame ∧ p.Follows p.waiting c

namespace Probe.Tame

variable {p q : Probe}

/-- The loop does not end with a fault. -/
theorem loopStatus_ne (h : p.Tame) (fault : Fault) : p.loopStatus ≠ .rejected fault := by
  obtain ⟨-, c, htame, hfollows⟩ := h
  have hcalm := htame.calm.loop
  rw [hfollows.scheduler_eq] at hcalm
  unfold loopStatus
  cases hloop : p.scheduler.loop with
  | failed _ =>
    rw [hloop] at hcalm
    exact absurd hcalm id
  | _ => exact nofun

/-- Readable moves lead to another tame probe. -/
theorem of_moves (h : p.Tame) (hchanges : p.Changes q)
    (hmoves : ∀ c : Course, p.Follows p.waiting c → ∃ moves,
      (p.Speaks → ∀ move ∈ moves, move.isReadable = true) ∧ q.Follows q.waiting (c.run moves)) :
    q.Tame := by
  obtain ⟨hspeaks, c, htame, hfollows⟩ := h
  obtain ⟨moves, hreadable, hnext⟩ := hmoves c hfollows
  exact ⟨hchanges.preserves Speaks.change hspeaks, _, htame.run (hreadable hspeaks), hnext⟩

theorem raise (h : p.Tame) (reason : Text) : (p.raise reason).Tame :=
  h.of_moves (.raise p reason) fun _ hfollows =>
    ⟨[.raise reason p.clock.now], fun _ => List.forall_mem_singleton.mpr rfl,
      hfollows.raise reason⟩

theorem settle (h : p.Tame) : p.settle.Tame :=
  h.of_moves (.settle p) fun _ hfollows => hfollows.settle

theorem ring (h : p.Tame) (alarm : Time.Alarm) : (p.ring alarm).Tame :=
  h.of_moves (.ring p alarm) fun _ hfollows => hfollows.ring alarm

theorem run (h : p.Tame) : p.run.Tame :=
  h.of_moves (.run p) fun _ hfollows =>
    ⟨[.run p.clock], fun _ => List.forall_mem_singleton.mpr rfl, hfollows.run⟩

theorem setBus (h : p.Tame) (fault : Option Fault) : (p.setBus fault).Tame :=
  h.of_moves (.of (.offer p _)) fun _ hfollows =>
    ⟨[], fun _ => List.forall_mem_nil _, hfollows.1, hfollows.2, hfollows.3, hfollows.4,
      hfollows.5⟩

/-- The clock and the registry do not matter, nor does what the journal says about no call. -/
theorem congr (h : p.Tame) (clock : Time.Clock) {journal : List Record}
    (registry : Metrics.Registry)
    (htraces : journal.filterMap Record.trace? = p.journal.filterMap Record.trace?) :
    Tame { p with clock, journal, registry } := by
  obtain ⟨⟨h₁, h₂, h₃⟩, c, htame, hfollows⟩ := h
  exact ⟨⟨h₁, h₂, h₃⟩, c, htame, hfollows.1, hfollows.2, hfollows.3,
    hfollows.4.trans htraces.symm, hfollows.5⟩

theorem note (h : p.Tame) (what : Happening) : (p.note none what).Tame :=
  h.congr p.clock p.registry (p.traces_note_none what)

theorem noteAll (h : p.Tame) (happened : List Happening) : (Extractor.noteAll p happened).Tame :=
  List.foldlRecOn (motive := Tame) happened _ h fun _ h what _ => h.note what

theorem handle (h : p.Tame) (signal : Text) : (Server.handle signal p).Tame := by
  unfold Server.handle
  split
  · exact h.note _
  · exact (h.note _).raise signal

end Probe.Tame

/-! ## Extractors -/

/-- The program has failed for nothing but the configuration, or its probe is tame. -/
inductive Progress.Upright : Progress → Prop
  | failed {r : Remains} (cause : ConfigFault) (hfault : r.fault = .config cause) :
      Upright (.failed r)
  | probing {p : Probe} (h : p.Tame) : Upright (.probing p)
  | finished {p : Probe} (h : p.Tame) : Upright (.finished p)

/-- The program with another end: shutting its registry down has come to something else. -/
def Extractor.leave (e : Extractor) (journal : List Record) (registry : Metrics.Registry) :
    Extractor :=
  { e with progress :=
      match e.progress with
      | .failed r => .failed { r with journal, registry }
      | .probing p => .probing p
      | .finished p => .finished { p with journal, registry } }

namespace Progress.Upright

open Extractor

variable {e e' : Extractor}

theorem status (h : e.progress.Upright) {fault : Fault} (hstatus : e.status = .rejected fault) :
    ∃ cause, fault = .config cause := by
  obtain ⟨world, own, progress⟩ := e
  cases h with
  | failed cause hfault =>
    cases hstatus
    exact ⟨cause, hfault⟩
  | probing htame => cases hstatus
  | finished htame => exact absurd hstatus (htame.loopStatus_ne fault)

theorem finish (h : e.progress.Upright) : e.finish.progress.Upright := by
  obtain ⟨world, own, progress⟩ := e
  cases h with
  | failed cause hfault => exact .failed cause hfault
  | finished htame => exact .finished htame
  | probing htame =>
    rw [finish_probing]
    split
    · exact .finished ((htame.noteAll _).congr _ _ rfl)
    · exact .probing htame

theorem onProbe (h : e.progress.Upright) {step : Probe → Probe}
    (hstep : ∀ p : Probe, p.Tame → (step p).Tame) : (e.onProbe step).progress.Upright := by
  obtain ⟨world, own, progress⟩ := e
  cases h with
  | failed cause hfault => exact .failed cause hfault
  | probing htame => exact finish (e := ⟨world, own, .probing _⟩) (.probing (hstep _ htame))
  | finished htame => exact .finished (hstep _ htame)

theorem adjust (h : e.progress.Upright) (clock : Time.Clock) (registry : Metrics.Registry) :
    (e.adjust clock registry).progress.Upright := by
  obtain ⟨world, own, progress⟩ := e
  cases h with
  | failed cause hfault => exact .failed cause hfault
  | probing htame => exact .probing (htame.congr clock registry rfl)
  | finished htame => exact .finished (htame.congr clock registry rfl)

theorem leave (h : e.progress.Upright) {journal : List Record} (registry : Metrics.Registry)
    (htraces : journal.filterMap Record.trace? = e.journal.filterMap Record.trace?) :
    (e.leave journal registry).progress.Upright := by
  obtain ⟨world, own, progress⟩ := e
  cases h with
  | failed cause hfault => exact .failed cause hfault
  | probing htame => exact .probing htame
  | @finished p htame => exact .finished (htame.congr p.clock registry htraces)

/-- Nothing that can happen to the program makes it fail for anything but the configuration. -/
theorem step (h : e.progress.Upright) (hstep : Step e e') : e'.progress.Upright := by
  cases hstep with
  | raise reason => exact h.onProbe fun p htame => (htame.raise reason).settle
  | setBus fault => exact h.onProbe fun p htame => htame.setBus fault
  | ring alarm => exact h.onProbe fun p htame => htame.ring alarm
  | respond inquiry =>
    rw [respond_eq]
    exact h.adjust _ _
  | moveTo time =>
    rw [moveTo_eq]
    exact h.adjust _ _

end Progress.Upright

/-! ## Starting -/

namespace Extractor

variable {around : Surroundings} {settings : Settings} {first : Nat} {raised : Option Text}

theorem tame_built {bus : Bus} (hbus : bus.delivered = []) {s : Scheduler}
    (hnew : Scheduler.new (.ofDisabled settings.disabled) settings.intervalMs [] = .ok s)
    (happened : List Happening) : (built around settings s bus happened).Tame := by
  obtain ⟨interval, -, rfl⟩ := new_eq_ok_iff.mp hnew
  exact ⟨speaks_built around settings _ bus happened, _, Course.tame_start _ interval _,
    follows_built around settings hbus _ happened⟩

theorem tame_begin {p : Probe} (h : p.Tame) (raised : Option Text) : (begin p raised).Tame := by
  cases raised with
  | none => exact h.run.settle
  | some reason => exact (h.raise reason).run.settle

/-- There is no probe because the bus or the scheduler refused. -/
theorem fault_of_buildup_eq_error {fault : Fault}
    (h : (Buildup.of around settings first).result = .error fault) :
    (around.broker.connect (settings.busAccess around.identity)).1 = .error fault ∨
      around.connects settings = true ∧
        Scheduler.new (.ofDisabled settings.disabled) settings.intervalMs [] = .error fault := by
  unfold Surroundings.connects
  simp only [Buildup.of] at h
  cases hconnect : (around.broker.connect (settings.busAccess around.identity)).1 with
  | error fault' =>
    rw [hconnect] at h
    cases h
    exact .inl rfl
  | ok bus =>
    rw [hconnect] at h
    cases hnew : Scheduler.new (.ofDisabled settings.disabled) settings.intervalMs [] with
    | error fault' =>
      rw [hnew] at h
      cases h
      exact .inr ⟨rfl, rfl⟩
    | ok s =>
      rw [hnew] at h
      cases h

/-- The program starts well if its scheduler is built whenever the bus takes the connection. -/
theorem upright_start (hfresh : around.broker.IsFresh)
    (hconnect : ∀ fault, (around.broker.connect (settings.busAccess around.identity)).1 =
      .error fault → ∃ cause, fault = .config cause)
    (hnew : around.serves settings = true → around.connects settings = true →
      ∃ s, Scheduler.new (.ofDisabled settings.disabled) settings.intervalMs [] = .ok s) :
    (start around settings first raised).progress.Upright := by
  unfold Surroundings.serves at hnew
  unfold start
  cases hlisten : Metrics.listen (some settings.metricsAddress.text) around.occupied with
  | error cause => exact .failed cause rfl
  | ok endpoint =>
    rw [hlisten] at hnew
    obtain ⟨-, -, ⟨fault, hresult, -⟩ | ⟨bus, s, hbus, hs, hresult⟩⟩ :=
      buildup_of around settings (first + 1)
    · simp only [hresult]
      rcases fault_of_buildup_eq_error hresult with hrefused | ⟨hconnects, hfault⟩
      · obtain ⟨cause, rfl⟩ := hconnect fault hrefused
        exact .failed cause rfl
      · obtain ⟨s, hs⟩ := hnew rfl hconnects
        cases hs.symm.trans hfault
    · simp only [hresult]
      exact Progress.Upright.finish (.probing
        (tame_begin (tame_built (hfresh _ _ hbus) hs _) raised))

/-- If the scheduler cannot be built, its fault ends the program. -/
theorem status_start_of_new_eq_error (hserves : around.serves settings = true)
    (hconnects : around.connects settings = true) {fault : Fault}
    (hnew : Scheduler.new (.ofDisabled settings.disabled) settings.intervalMs [] = .error fault) :
    (start around settings first raised).status = .rejected fault := by
  unfold Surroundings.serves at hserves
  unfold start
  cases hlisten : Metrics.listen (some settings.metricsAddress.text) around.occupied with
  | error cause =>
    rw [hlisten] at hserves
    cases hserves
  | ok endpoint =>
    obtain ⟨-, -, ⟨fault', hresult, -⟩ | ⟨bus, s, -, hs, -⟩⟩ :=
      buildup_of around settings (first + 1)
    · simp only [hresult]
      rcases fault_of_buildup_eq_error hresult with hrefused | ⟨-, hfault⟩
      · rw [Surroundings.connects, hrefused] at hconnects
        cases hconnects
      · cases hnew.symm.trans hfault
        rfl
    · cases hs.symm.trans hnew

end Extractor

/-! ## Servers -/

/-- What a server loads, with the library of its surroundings. -/
def ServerSource.loaded (source : ServerSource) (around : Surroundings) : Loaded :=
  loadSettings around.library around.identity source.files source.environment
    ⟨source.configFile.filter (!·.isEmpty), false⟩

theorem ServerSource.exists_ofEnvironment {source : ServerSource} {around : Surroundings}
    {settings : Settings} (h : (source.loaded around).outcome = .ok settings) :
    ∃ env, Settings.ofEnvironment env = .ok settings := by
  rw [loaded, outcome_loadSettings] at h
  split at h
  · cases h
  · exact ⟨_, h⟩

namespace Server

/-- What can happen to a server. -/
inductive Step : Server → Server → Prop
  /-- Something happens to its extractor. -/
  | extractor {s : Server} {e e' : Extractor} (he : s.extractor = .ok e)
      (hstep : Extractor.Step e e') : Step s { s with extractor := .ok e' }
  | receive (s : Server) (signals : List Text) : Step s (s.receive signals)
  /-- Shutting the registry down comes to anything: what is printed about it and what is left of the
  registry may be something else. -/
  | leave {s : Server} {e : Extractor} (he : s.extractor = .ok e) {journal : List Record}
      (registry : Metrics.Registry)
      (htraces : journal.filterMap Record.trace? = e.journal.filterMap Record.trace?) :
      Step s { s with extractor := .ok (e.leave journal registry) }

/-- What can come of a server. -/
inductive Reachable (around : Surroundings) (source : ServerSource) : Server → Prop
  | initial : Reachable around source (start around source)
  | step {s s' : Server} (h : Reachable around source s) (hstep : Step s s') :
      Reachable around source s'

/-- The extractor, if there is one, has failed for nothing but the configuration. -/
def Upright (s : Server) : Prop :=
  ∀ e, s.extractor = .ok e → e.progress.Upright

namespace Upright

variable {s s' : Server}

theorem status (h : s.Upright) {fault : Fault} (hstatus : s.status = .rejected fault) :
    ∃ cause, fault = .config cause := by
  unfold Server.status at hstatus
  cases hextractor : s.extractor with
  | ok e =>
    rw [hextractor] at hstatus
    exact (h e hextractor).status hstatus
  | error cause =>
    rw [hextractor] at hstatus
    cases hstatus
    exact ⟨cause, rfl⟩

theorem receive (h : s.Upright) (signals : List Text) : (s.receive signals).Upright := by
  unfold Server.receive
  split
  · rename_i e he
    split
    · rintro e' ⟨⟩
      refine (h e he).onProbe fun p htame => Probe.Tame.settle ?_
      exact List.foldlRecOn (motive := Probe.Tame) signals _ htame fun _ h signal _ =>
        h.handle signal
    · exact h
  · exact h

/-- Whatever happens to the server, nothing but the configuration makes it fail. -/
theorem step (h : s.Upright) (hstep : Step s s') : s'.Upright := by
  cases hstep with
  | extractor he hstep =>
    rintro e' ⟨⟩
    exact (h _ he).step hstep
  | receive signals => exact h.receive signals
  | leave he registry htraces =>
    rintro e' ⟨⟩
    exact (h _ he).leave registry htraces

end Upright

section Start

variable {around : Surroundings} {source : ServerSource}

theorem extractor_start (around : Surroundings) (source : ServerSource) :
    (start around source).extractor =
      (source.loaded around).outcome.map (Extractor.start around · 2 none) := by
  simp only [start, ServerSource.loaded]
  split <;> rename_i houtcome <;> rw [houtcome] <;> rfl

/-- A server whose interval fits starts well. -/
theorem upright_start (hfresh : around.broker.IsFresh)
    (hconnect : ∀ access fault, (around.broker.connect access).1 = .error fault →
      ∃ cause, fault = .config cause)
    (hfits : ∀ settings, (source.loaded around).outcome = .ok settings →
      around.serves settings = true → around.connects settings = true →
        settings.FitsInterval) : (start around source).Upright := by
  intro e he
  rw [extractor_start] at he
  cases hloaded : (source.loaded around).outcome with
  | error cause =>
    rw [hloaded] at he
    cases he
  | ok settings =>
    rw [hloaded] at he
    cases he
    obtain ⟨env, hread⟩ := ServerSource.exists_ofEnvironment hloaded
    refine Extractor.upright_start hfresh (hconnect _) fun hserves hconnects => ?_
    exact (Settings.exists_new_eq_ok_iff (positiveProblem?_of_ofEnvironment hread).2 _ _).mpr
      (hfits settings hloaded hserves hconnects)

/-- A server whose interval does not fit is ended by its scheduler. -/
theorem status_start_of_not_fitsInterval {settings : Settings}
    (hloaded : (source.loaded around).outcome = .ok settings)
    (hserves : around.serves settings = true) (hconnects : around.connects settings = true)
    (hfits : ¬ settings.FitsInterval) :
    (start around source).status = .rejected (.interval settings.intervalMs) := by
  obtain ⟨env, hread⟩ := ServerSource.exists_ofEnvironment hloaded
  have hnew := Settings.exists_new_eq_ok_iff (positiveProblem?_of_ofEnvironment hread).2
    (.ofDisabled settings.disabled) []
  rw [status, extractor_start, hloaded]
  cases hscheduler : Scheduler.new (.ofDisabled settings.disabled) settings.intervalMs [] with
  | ok s => exact absurd (hnew.mp ⟨s, hscheduler⟩) hfits
  | error fault =>
    obtain rfl := fault_of_new_eq_error hscheduler
    exact Extractor.status_start_of_new_eq_error hserves hconnects hscheduler

end Start

theorem Reachable.upright {around : Surroundings} {source : ServerSource} {s : Server}
    (h : Reachable around source s) (hstart : (start around source).Upright) : s.Upright := by
  induction h with
  | initial => exact hstart
  | step _ hstep ih => exact ih.step hstep

end Server

/-! ## The boundary -/

/-- A broker to which the network connects or does not, and then says why. Closing the connection
may come to anything. -/
def Broker.reached (files : Files) (refusal? : BusAccess → Option Text)
    (close : Option Fault × List Line) : Broker where
  connect access :=
    match access.login files with
    | .error cause => (.error (.config cause), [])
    | .ok (_, lines) =>
      match refusal? access with
      | some detail => (.error (.config (.unreachableBus access.address detail)), lines)
      | none =>
        (.ok Connection.new.bus, lines ++ [.log ("[nats] Connected to " ++ access.address)])
  close := close

namespace Broker

variable {files : Files} {refusal? : BusAccess → Option Text} {close : Option Fault × List Line}

/-- A broker that the network makes something of is one whose closing does not fail. -/
theorem of_eq_reached (files : Files) (reach : Reach) :
    of files reach =
      reached files (fun access => reach.detail access.address) (none, Connection.new.close.2) := by
  simp only [of, reached, mk.injEq, and_true]
  funext access
  unfold connectBus
  cases access.login files with
  | error cause => rfl
  | ok login => cases hdetail : reach.detail access.address <;> simp

theorem isFresh_reached : (reached files refusal? close).IsFresh := by
  intro access bus hconnect
  simp only [reached] at hconnect
  split at hconnect
  · cases hconnect
  · split at hconnect <;> cases hconnect
    rfl

/-- No attempt to connect fails with anything but a fault of the configuration. -/
theorem exists_of_connect_reached {access : BusAccess} {fault : Fault}
    (h : ((reached files refusal? close).connect access).1 = .error fault) :
    ∃ cause, fault = .config cause := by
  simp only [reached] at h
  split at h
  · cases h
    exact ⟨_, rfl⟩
  · split at h <;> cases h
    exact ⟨_, rfl⟩

end Broker

/-- The surroundings with another broker. -/
def Surroundings.withBroker (around : Surroundings) (broker : Broker) : Surroundings :=
  { around with broker }

/-- Nothing but a fault of the configuration reaches the boundary of the process. -/
structure OnlyConfigFaults (around : Surroundings) (source : ServerSource) : Prop where
  /-- Whatever happens to the server, it is ended by nothing else. -/
  status : ∀ s, Server.Reachable around source s → ∀ fault, s.status = .rejected fault →
    ∃ cause, fault = .config cause
  /-- The loop does not fail either where everything takes its time. -/
  loop : ∀ settings, (source.loaded around).outcome = .ok settings →
    ∀ turns c, (Lifetime.of settings turns).phase.course? = some c →
      ∀ fault, c.scheduler.loop ≠ .failed fault

/-- **The boundary.** Nothing but a fault of the configuration reaches it exactly if the interval
that is loaded fits, or the program ends before it comes to it; and that an interval fits is what
the scheduler checks. -/
theorem onlyConfigFaults_iff (around : Surroundings) (files : Files)
    (refusal? : BusAccess → Option Text) (close : Option Fault × List Line)
    (source : ServerSource) :
    (OnlyConfigFaults (around.withBroker (.reached files refusal? close)) source ↔
      ∀ settings, (source.loaded around).outcome = .ok settings →
        (around.withBroker (.reached files refusal? close)).serves settings = true →
        (around.withBroker (.reached files refusal? close)).connects settings = true →
          settings.FitsInterval) ∧
      ∀ env settings, Settings.ofEnvironment env = .ok settings →
        ((∃ s, Scheduler.new (.ofDisabled settings.disabled) settings.intervalMs [] = .ok s) ↔
          settings.FitsInterval) := by
  refine ⟨⟨fun h settings hloaded hserves hconnects => ?_, fun h => ⟨?_, ?_⟩⟩,
    fun env settings hread =>
      Settings.exists_new_eq_ok_iff (positiveProblem?_of_ofEnvironment hread).2 _ _⟩
  · -- The scheduler of a server that has just been started would refuse its interval.
    by_contra hfits
    obtain ⟨cause, hcause⟩ := h.status _ .initial _
      (Server.status_start_of_not_fitsInterval hloaded hserves hconnects hfits)
    cases hcause
  · intro s hreachable fault hstatus
    refine (hreachable.upright (Server.upright_start Broker.isFresh_reached ?_ h)).status hstatus
    exact fun access fault => Broker.exists_of_connect_reached
  · intro settings _ turns c hc fault hloop
    have hcalm := (Lifetime.tame_of settings turns c hc).calm.loop
    rw [hloop] at hcalm
    exact hcalm

/-- The milliseconds of so many seconds overflow. -/
def Environment.endless : Environment :=
  ⟨[("RPC_COOKIE_FILE", "/var/lib/node/.cookie"), ("QUERY_INTERVAL_SECONDS", "1e306")]⟩

/-- Surroundings in which the network connects to the bus. -/
def Surroundings.connected : Surroundings :=
  Surroundings.still.withBroker (.reached ⟨[], []⟩ (fun _ => none) (none, []))

theorem not_onlyConfigFaults_endless :
    ¬ OnlyConfigFaults .connected ⟨⟨[], []⟩, .endless, none⟩ := by
  intro h
  have hread : ((ServerSource.loaded ⟨⟨[], []⟩, .endless, none⟩ .connected).outcome.toOption.map
      fun settings => (Surroundings.connected.serves settings,
        Surroundings.connected.connects settings,
        Decimal.rational? settings.intervalMs)) = some (true, true, none) := by decide +kernel
  cases hloaded : (ServerSource.loaded ⟨⟨[], []⟩, .endless, none⟩ .connected).outcome with
  | error cause =>
    rw [hloaded] at hread
    cases hread
  | ok settings =>
    rw [hloaded, Except.toOption, Option.map_some, Option.some_inj, Prod.mk.injEq,
      Prod.mk.injEq] at hread
    obtain ⟨hserves, hconnects, hnone⟩ := hread
    obtain ⟨env, henv⟩ := ServerSource.exists_ofEnvironment hloaded
    have hfits := (Settings.rational?_intervalMs_eq_none_iff
      (positiveProblem?_of_ofEnvironment henv).2).mp hnone
    obtain ⟨cause, hcause⟩ := h.status _ .initial _
      (Server.status_start_of_not_fitsInterval hloaded hserves hconnects hfits)
    cases hcause

end NodeProbe
