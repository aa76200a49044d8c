import NodeProbe.Bus.Broker
import NodeProbe.Config.Load
import NodeProbe.Metrics.Server
import NodeProbe.Probe.Basic

/-!
# The extractor

The extractor is the program between its settings and its end. It serves the metrics, connects to
the bus, builds a probe and runs its loop. However that ends, the connection to the bus is closed if
there is one, and behind it the registry is shut down; only when the connection cannot be closed the
registry is left as it is.
-/

namespace NodeProbe

/-- Where the node is. -/
inductive NodeSite where
  /-- It is reached through a client, with these files; every request comes to the same exchange. -/
  | remote (files : Files) (exchange : Option Exchange)
  /-- Prepared answers stand in for it. -/
  | prepared (lines : Lines Reply)

/-- What surrounds the program. -/
structure Surroundings where
  identity : Identity
  /-- What loads the environment file. -/
  library : EnvLibrary := .standard
  broker : Broker
  node : NodeSite
  /-- Why the system does not let the metrics server listen, if it does not. -/
  occupied : Option Text
  /-- The port of a server that asks for any port. -/
  anyPort : String
  /-- The instant at which the program starts, in milliseconds. -/
  epoch : Rat

namespace Settings

/-- How the node is reached. -/
def nodeAccess (s : Settings) : NodeAccess :=
  ⟨s.rpcHost.text, s.cookieFile, s.rpcUser, s.rpcPassword⟩

/-- How the bus is reached. -/
def busAccess (s : Settings) (identity : Identity) : BusAccess where
  address := s.busAddress.text
  user := s.busUser
  password := s.busPassword
  passwordFile := s.busPasswordFile
  clientName := some (identity.package ++ "@" ++ identity.version)

/-- The time between two ticks, in milliseconds. -/
def intervalMs (s : Settings) : Float :=
  s.intervalSeconds * 1000

end Settings

namespace Surroundings

/-- The port on which the metrics server listens. -/
def boundPort (around : Surroundings) (endpoint : Endpoint) : String :=
  if endpoint.port == 0 then around.anyPort else Decimal.text endpoint.port

/-- Where calls go. -/
def transport (around : Surroundings) (settings : Settings) : Transport :=
  match around.node with
  | .remote files exchange =>
    .node settings.timeoutMs (.new settings.nodeAccess) files exchange
  | .prepared lines => .answers settings.timeoutMs lines

/-- What is printed about the node. -/
def nodeLines (around : Surroundings) (settings : Settings) : List Line :=
  match around.node with
  | .remote _ _ => [.log ("RPC endpoint: " ++ (Client.new settings.nodeAccess).url)]
  | .prepared _ => []

end Surroundings

/-! ## Starting -/

/-- The line that opens a section of the log. -/
def heading (number : Nat) (title : String) : Line :=
  .log ("\n\n=====  [" ++ Decimal.natText number ++ "] " ++ title)

/-- What has been built: a probe or why there is none, whether the bus is connected, and what has
happened meanwhile. -/
structure Buildup where
  result : Except Fault Probe
  isConnected : Bool
  happened : List Happening

/-- Connects to the bus and builds a probe. The sections are numbered from `first` on. -/
def Buildup.of (around : Surroundings) (settings : Settings) (first : Nat) : Buildup :=
  let access := settings.busAccess around.identity
  let (attempt, lines) := around.broker.connect access
  let happened :=
    .printed (heading first "Connecting to NATS...") :: .connecting access ::
      lines.map .printed
  match attempt with
  | .error fault => ⟨.error fault, false, happened⟩
  | .ok bus =>
    let happened :=
      happened ++ (heading (first + 1) "Building extraction pipeline..." ::
        around.nodeLines settings).map .printed
    match Scheduler.new (.ofDisabled settings.disabled) settings.intervalMs [] with
    | .error fault => ⟨.error fault, true, happened⟩
    | .ok scheduler =>
      let transport := around.transport settings
      let probe := Probe.new scheduler transport settings.subjectBase around.epoch
      ⟨.ok { probe with bus }, true,
        happened ++ [.printed (heading (first + 2) "Starting extraction...")]⟩

/-! ## Ending -/

/-- What the registry goes through when it is shut down. -/
def registryEnd (registry : Metrics.Registry) : List Happening :=
  .shutting :: registry.shut.2.map .printed

/-- What happens at the end, and the registry that is left: the connection to the bus is closed
first, if there is one, and then the registry is shut down. -/
def teardown (broker : Broker) (isConnected : Bool) (registry : Metrics.Registry) :
    List Happening × Metrics.Registry :=
  let farewell := Happening.printed (.log "\n\n=== Shutting down gracefully ===")
  if isConnected then
    let (fault, lines) := broker.close
    let closed := farewell :: .closing :: lines.map .printed
    match fault with
    | some fault =>
      (closed ++ [.printed (.error ("Error during shutdown: " ++ fault.logText))], registry)
    | none => (closed ++ registryEnd registry, registry.shut.1)
  else (farewell :: registryEnd registry, registry.shut.1)

/-! ## The whole -/

/-- What is left of a program that ended before it had a probe. -/
structure Remains where
  clock : Time.Clock
  journal : List Record
  registry : Metrics.Registry
  fault : Fault

/-- How far the program is. -/
inductive Progress where
  | failed (remains : Remains)
  | probing (probe : Probe)
  /-- The loop has ended, and everything is closed. -/
  | finished (probe : Probe)

/-- The program once it has been started. -/
structure Extractor where
  around : Surroundings
  settings : Settings
  progress : Progress

namespace Extractor

/-- The journal of what happens in the beginning, the last entry in front. -/
def openingJournal (around : Surroundings) (happened : List Happening) : List Record :=
  (happened.map (⟨around.epoch, none, ·⟩)).reverse

/-- The registry with nothing recorded. -/
def freshRegistry : Metrics.Registry :=
  Metrics.probeRegistry Metrics.standardNamespace

/-- Writes into the journal of a probe what happens to the program. -/
def noteAll (p : Probe) (happened : List Happening) : Probe :=
  happened.foldl (fun p what => p.note none what) p

/-- Everything is closed when the loop has ended. -/
def finish (e : Extractor) : Extractor :=
  match e.progress with
  | .probing p =>
    match p.loopStatus with
    | .pending => e
    | _ =>
      let (happened, registry) := teardown e.around.broker true p.registry
      { e with progress := .finished { noteAll p happened with registry } }
  | _ => e

/-- Runs the loop of a probe that has just been built. If the signal was raised before, it was for
the given reason. -/
def begin (p : Probe) (raised : Option Text) : Probe :=
  let p := match raised with
    | some reason => p.raise reason
    | none => p
  p.run.settle

/-- Starts the program. The sections of its log are numbered from `first` on, and the signal may
have been raised already. -/
def start (around : Surroundings) (settings : Settings) (first : Nat)
    (raised : Option Text) : Extractor :=
  let opening :=
    Happening.printed (heading first "Initializing Prometheus metrics registry...")
  match Metrics.listen (some settings.metricsAddress.text) around.occupied with
  | .error fault =>
    ⟨around, settings,
      .failed ⟨.startedAt around.epoch, openingJournal around [opening], freshRegistry,
        .config fault⟩⟩
  | .ok endpoint =>
    let lines :=
      Metrics.listening endpoint.host (around.boundPort endpoint) settings.bearerToken
    let buildup := Buildup.of around settings (first + 1)
    let happened := opening :: (lines.map .printed ++ buildup.happened)
    match buildup.result with
    | .error fault =>
      let (more, registry) := teardown around.broker buildup.isConnected freshRegistry
      ⟨around, settings,
        .failed ⟨.startedAt around.epoch, openingJournal around (happened ++ more), registry,
          fault⟩⟩
    | .ok p =>
      finish ⟨around, settings,
        .probing (begin { p with journal := openingJournal around happened } raised)⟩

/-! ## Looking at it -/

/-- The probe, if there is one. -/
def probe? (e : Extractor) : Option Probe :=
  match e.progress with
  | .failed _ => none
  | .probing p | .finished p => some p

/-- What has happened, the last entry in front. -/
def journal (e : Extractor) : List Record :=
  match e.progress with
  | .failed r => r.journal
  | .probing p | .finished p => p.journal

/-- The requests that were sent to the node, the last one in front. -/
def requests (e : Extractor) : List Request :=
  match e.probe? with
  | some p => p.requests
  | none => []

/-- Where the program stands. -/
def status (e : Extractor) : Probe.RunStatus :=
  match e.progress with
  | .failed r => .rejected r.fault
  | .probing _ => .pending
  | .finished p => p.loopStatus

/-- The program has not ended yet. -/
def isRunning (e : Extractor) : Bool :=
  match e.progress with
  | .probing _ => true
  | _ => false

/-! ## Steps -/

/-- Something is done to the probe, and everything follows that can follow at once. -/
def onProbe (e : Extractor) (step : Probe → Probe) : Extractor :=
  match e.progress with
  | .failed _ => e
  | .probing p => finish { e with progress := .probing (step p) }
  | .finished p => { e with progress := .finished (step p) }

/-- Raises the signal. -/
def raise (e : Extractor) (reason : Text) : Extractor :=
  e.onProbe fun p => (p.raise reason).settle

/-- The bus fails from now on, or works again. -/
def setBus (e : Extractor) (fault : Option Fault) : Extractor :=
  e.onProbe (·.setBus fault)

/-- Answers a request to the metrics server. -/
def respond (e : Extractor) (inquiry : Metrics.Inquiry) : Extractor × Metrics.Response :=
  let ask (registry : Metrics.Registry) : Metrics.Registry × Metrics.Response :=
    registry.respond e.around.identity.package e.settings.bearerToken inquiry
  match e.progress with
  | .failed r =>
    let (registry, response) := ask r.registry
    ({ e with progress := .failed { r with registry } }, response)
  | .probing p =>
    let (registry, response) := ask p.registry
    ({ e with progress := .probing { p with registry } }, response)
  | .finished p =>
    let (registry, response) := ask p.registry
    ({ e with progress := .finished { p with registry } }, response)

/-- The clock of the program. -/
def clock (e : Extractor) : Time.Clock :=
  match e.progress with
  | .failed r => r.clock
  | .probing p | .finished p => p.clock

/-- Moves the clock. -/
def moveTo (e : Extractor) (time : Rat) : Extractor :=
  { e with progress :=
      match e.progress with
      | .failed r => .failed { r with clock := { r.clock with now := time } }
      | .probing p => .probing (Time.Timed.moveTo p time)
      | .finished p => .finished (Time.Timed.moveTo p time) }

instance : Time.Timed Extractor where
  now e := e.clock.now
  moveTo := moveTo
  alarms e := match e.probe? with
    | some p => p.alarms
    | none => []
  ring e alarm := e.onProbe (·.ring alarm)
  bound e target := match e.probe? with
    | some p => Time.Timed.bound p target
    | none => 0

end Extractor

end NodeProbe
