import NodeProbe.Fault
import NodeProbe.Output

/-!
# What the scheduler says

Every line that the scheduler prints, by its cause. Some are about one call, the others about the
scheduler as a whole.
-/

namespace NodeProbe.Scheduler

/-- A reason to print a line. -/
inductive Notice where
  | starting (intervalMs : Float) (enabled size : Nat)
  | listed (spec : Method) (cadence : Nat)
  /-- The program was held up for so long that ticks were dropped. -/
  | lagged (missed : Int)
  | waiting (methods : List Method)
  | stopped
  | busy (method : Method)
  | failed (method : Method) (kind : FailureKind) (elapsedMs : Float) (message : Text)
  | unpublished (method : Method) (message : Text)
  | unexpected (method : Method) (message : Text)

namespace Notice

/-- The call that a notice is about. -/
def about : Notice → Option Method
  | starting _ _ _ | listed _ _ | lagged _ | waiting _ | stopped => none
  | busy m | failed m _ _ _ | unpublished m _ | unexpected m _ => some m

/-- The text of a notice. -/
def text : Notice → Text
  | starting intervalMs enabled size =>
    "[scheduler] Starting with base interval " ++ Decimal.text (intervalMs / 1000) ++ "s, " ++
      Decimal.natText enabled ++ " of " ++ Decimal.natText size ++ " methods enabled"
  | listed m cadence =>
    "  - " ++ m.name ++ " every " ++ Decimal.text (Decimal.ofInt cadence) ++ " tick(s)"
  | lagged missed =>
    "[scheduler] Event loop lagged, skipping " ++ Decimal.text (Decimal.ofInt missed) ++ " tick(s)"
  | waiting methods =>
    "[scheduler] Shutdown requested, waiting for " ++ Decimal.natText methods.length ++
      " in-flight call(s): " ++ ", ".intercalate (methods.map (·.name))
  | stopped => "[scheduler] Stopped"
  | busy m =>
    "[scheduler] " ++ m.name ++ " is due but its previous call is still running, skipping"
  | failed m kind elapsedMs message =>
    "[scheduler] " ++ m.name ++ " fetch failed (" ++ kind.name ++ ") after " ++
      Decimal.text (Decimal.roundHalfUp elapsedMs) ++ "ms: " ++ message
  | unpublished _ message => "[scheduler] " ++ message
  | unexpected m message =>
    "[scheduler] Unexpected error while extracting " ++ m.name ++ ": " ++ message

/-- The level of a notice. -/
def level : Notice → Level
  | starting _ _ _ | listed _ _ | waiting _ | stopped => .log
  | lagged _ | busy _ | failed _ _ _ _ => .warn
  | unpublished _ _ | unexpected _ _ => .error

/-- The line of a notice. -/
def line (n : Notice) : Line :=
  ⟨n.level, n.text⟩

end Notice

end NodeProbe.Scheduler
