import NodeProbe.Extractor

/-!
# The server

The server is the program from its environment on: it loads the settings, starts the extractor and
hands the signals of the process to it. The first signal is the reason of the shutdown; those that
follow are only answered with a line.
-/

namespace NodeProbe

/-- A server: what was printed in front of the extractor, and the extractor or why there is none. -/
structure Server where
  printed : List Line
  extractor : Except ConfigFault Extractor

/-- What a server starts from. -/
structure ServerSource where
  files : Files
  environment : Environment
  /-- The environment file that the user names. -/
  configFile : Option Text

namespace Server

/-- Loads the settings and starts the extractor. An empty name of a file counts as none. -/
def start (around : Surroundings) (source : ServerSource) : Server :=
  let loaded := loadSettings around.library around.identity source.files source.environment
    ⟨source.configFile.filter (!·.isEmpty), false⟩
  let printed := heading 1 "Loading configuration..." :: loaded.printed
  match loaded.outcome with
  | .error fault => ⟨printed, .error fault⟩
  | .ok settings => ⟨printed, .ok (Extractor.start around settings 2 none)⟩

/-- The process has handlers for its signals while the extractor runs. -/
def hasHandlers (s : Server) : Bool :=
  match s.extractor with
  | .ok e => e.isRunning
  | .error _ => false

/-- A handler prints what it makes of a signal, and hands on the first one. -/
def handle (signal : Text) (p : Probe) : Probe :=
  if p.scheduler.signal.isRaised then
    p.note none (.printed (.log "Already shutting down, please wait..."))
  else (p.note none (.printed (.log ("\nReceived " ++ signal)))).raise signal

/-- Signals reach the process one after the other, before anything else happens. -/
def receive (s : Server) (signals : List Text) : Server :=
  match s.extractor with
  | .ok e =>
    if e.isRunning then
      { s with
        extractor :=
          .ok (e.onProbe fun p => (signals.foldl (fun p signal => handle signal p) p).settle) }
    else s
  | .error _ => s

/-- Where the server stands. -/
def status (s : Server) : Probe.RunStatus :=
  match s.extractor with
  | .ok e => e.status
  | .error fault => .rejected (.config fault)

/-- The line of an entry of the journal, if it is one. -/
def lineOf? (r : Record) : Option Line :=
  match r.what with
  | .printed line => some line
  | _ => none

/-- Everything that was printed, in order. -/
def lines (s : Server) : List Line :=
  s.printed ++
    match s.extractor with
    | .ok e => e.journal.reverse.filterMap lineOf?
    | .error _ => []

end Server

end NodeProbe
