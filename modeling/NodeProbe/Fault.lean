import NodeProbe.Method

/-!
# What can go wrong

Faults are told apart by their causes; `message` gives the wording of each. A failed call belongs to
one of five kinds, which are counted and logged where they occur. Only a `ConfigFault` ends the
program. A `Fault` is anything that may be thrown, also a bare value, which need not have a text.
-/

namespace NodeProbe

/-! ## Failed calls -/

/-- The kinds of failed calls. -/
inductive FailureKind where
  | network
  | auth
  | decode
  | timeout
  | rpc
  deriving DecidableEq, Repr

/-- The name of a kind. -/
def FailureKind.name : FailureKind → String
  | network => "network"
  | auth => "auth"
  | decode => "decode"
  | timeout => "timeout"
  | rpc => "rpc"

/-- The node could not be reached or did not finish its answer. -/
inductive NetworkCause where
  | unreachable (host detail : Text)
  | dropped (detail : Text)
  | reported (text : Text)

/-- The credentials are missing or were rejected. -/
inductive AuthCause where
  | unreadableCookie (file detail : Text)
  | malformedCookie (file : Text)
  | noCredentials
  | rejected (status : Nat)
  | reported (text : Text) (status : Option Float)

/-- The answer is not what it should be. -/
inductive DecodeCause where
  | notJson (status : Nat)
  | notEnvelope (status : Nat)
  /-- The result has the wrong shape; the first issue is named. -/
  | wrongShape (issues : List Issue)
  | reported (text : Text)

/-- Why a call failed. -/
inductive CallFailure where
  | network (cause : NetworkCause)
  | auth (cause : AuthCause)
  | decode (cause : DecodeCause)
  /-- No answer within so many milliseconds. -/
  | timeout (limit : Option Float)
  /-- The node answered with an error. -/
  | response (code : Option Float) (text : Option Text)

/-- A failed call. -/
structure CallFault where
  method : Text
  failure : CallFailure

/-- Where an issue is, as text. -/
def Issue.place (issue : Issue) : Text :=
  let place := Text.joined "." issue.path
  if place = "" then "<root>" else place

/-- The wording of a network failure. -/
def NetworkCause.message : NetworkCause → Text
  | unreachable host detail => "Could not reach " ++ host ++ ": " ++ detail
  | dropped detail => "Connection dropped while reading response: " ++ detail
  | reported text => text

/-- The wording of a failure of the credentials. -/
def AuthCause.message : AuthCause → Text
  | unreadableCookie file detail => "Could not read cookie file " ++ file ++ ": " ++ detail
  | malformedCookie file => "Cookie file " ++ file ++ " is not in <user>:<password> format"
  | noCredentials => "No RPC credentials configured"
  | rejected status => "Node rejected credentials (HTTP " ++ Decimal.natText status ++ ")"
  | reported text _ => text

/-- The wording of a failure to decode. -/
def DecodeCause.message : DecodeCause → Text
  | notJson status => "HTTP " ++ Decimal.natText status ++ ": response body is not JSON"
  | notEnvelope status => "HTTP " ++ Decimal.natText status ++ ": not a JSON-RPC response"
  | wrongShape [] => "Unexpected result shape"
  | wrongShape (issue :: _) =>
    "Unexpected result shape at " ++ issue.place ++ ": " ++ issue.problem.message
  | reported text => text

/-- A detail that may be missing. -/
def detailText (detail : Option Text) : Text :=
  detail.getD "undefined"

namespace CallFault

/-- The kind of a failed call. -/
def kind (f : CallFault) : FailureKind :=
  match f.failure with
  | .network _ => .network
  | .auth _ => .auth
  | .decode _ => .decode
  | .timeout _ => .timeout
  | .response _ _ => .rpc

/-- The name of a failed call. -/
def name (f : CallFault) : String :=
  match f.failure with
  | .network _ => "RpcNetworkError"
  | .auth _ => "RpcAuthError"
  | .decode _ => "RpcDecodeError"
  | .timeout _ => "RpcTimeoutError"
  | .response _ _ => "RpcResponseError"

/-- The wording of a failed call. -/
def message (f : CallFault) : Text :=
  match f.failure with
  | .network cause => cause.message
  | .auth cause => cause.message
  | .decode cause => cause.message
  | .timeout limit =>
    "RPC call " ++ f.method ++ " timed out after " ++ detailText (limit.map (Decimal.text ·)) ++
      "ms"
  | .response code text =>
    "RPC error " ++ detailText (code.map (Decimal.text ·)) ++ " for " ++ f.method ++ ": " ++
      detailText text

/-- The HTTP status with which the credentials were rejected. -/
def status? (f : CallFault) : Option Float :=
  match f.failure with
  | .auth (.rejected status) => some (Decimal.ofInt status)
  | .auth (.reported _ status) => status
  | _ => none

end CallFault

/-! ## Faults of the configuration -/

/-- What is wrong with the value of a variable. -/
inductive ValueProblem where
  | notHostPort
  | portRange
  | notSubject
  | number (problem : Problem)
  deriving DecidableEq, Repr

/-- The wording of a problem with a value. -/
def ValueProblem.message : ValueProblem → String
  | notHostPort => "expected <host>:<port>"
  | portRange => "port must be between 1 and 65535"
  | notSubject => "expected a lowercase dotted subject"
  | number problem => problem.message

/-- A fault of the configuration, or of what it names. -/
inductive ConfigFault where
  | invalidValue (key : Text) (problem : ValueProblem)
  | noCredentials
  | fileNotFound (path : Text)
  | cadence (method : Method) (got : Float)
  | duplicate (method : Method)
  | unreadablePassword (file detail : Text)
  | noPassword (user : Text)
  | unreachableBus (address detail : Text)
  | noMetricsAddress
  | unbindable (address detail : Text)
  | reported (text : Text)

/-- The wording of a fault of the configuration. -/
def ConfigFault.message : ConfigFault → Text
  | invalidValue key problem =>
    "Invalid configuration value for " ++ key ++ ": " ++ problem.message
  | noCredentials =>
    "No RPC credentials configured: set RPC_COOKIE_FILE, or RPC_USER and RPC_PASSWORD"
  | fileNotFound path => "Config file not found at provided path: " ++ path
  | cadence method got =>
    "Cadence multiplier for " ++ method.name ++ " must be an integer >= 1, got " ++
      Decimal.text got
  | duplicate method => "Duplicate catalog entry for " ++ method.name
  | unreadablePassword file detail => "Could not read NATS password file " ++ file ++ ": " ++ detail
  | noPassword user =>
    "No NATS password supplied for user=" ++ user ++ " (set NATS_PASSWORD or NATS_PASSWORD_FILE)"
  | unreachableBus address detail =>
    "Could not connect to NATS server " ++ address ++ ": " ++ detail
  | noMetricsAddress => "No metrics address configured"
  | unbindable address detail => "Could not bind metrics server to " ++ address ++ ": " ++ detail
  | reported text => text

/-! ## Events that did not get through -/

/-- Why an event was not put on the bus. -/
inductive PublishFault where
  | failed (method subject detail : Text)
  | reported (subject : Option Text) (text : Text)

namespace PublishFault

/-- The subject of the event. -/
def subject? : PublishFault → Option Text
  | failed _ subject _ => some subject
  | reported subject _ => subject

/-- The wording of a failure to publish. -/
def message : PublishFault → Text
  | failed method subject detail =>
    "Failed to publish " ++ method ++ " event on " ++ subject ++ ": " ++ detail
  | reported _ text => text

end PublishFault

/-- The bus refused a message. -/
inductive BusRefusal where
  | connectionClosed
  | badSubject
  deriving DecidableEq, Repr

/-- The code of a refusal, which is also its wording. -/
def BusRefusal.code : BusRefusal → String
  | connectionClosed => "CONNECTION_CLOSED"
  | badSubject => "BAD_SUBJECT"

/-! ## Anything that may be thrown -/

/-- Anything that may be thrown. -/
inductive Fault where
  | call (fault : CallFault)
  | publish (fault : PublishFault)
  | config (fault : ConfigFault)
  | bus (refusal : BusRefusal)
  /-- A time that is no instant. -/
  | invalidTime
  /-- The base interval of a scheduler is not positive. -/
  | interval (got : Float)
  /-- A scheduler is run a second time. -/
  | alreadyRun
  /-- The signal of a call was raised. -/
  | aborted
  /-- A value that has no text was to be shown. -/
  | textless
  /-- The metrics were to be read when the registry was shut down already. -/
  | registryShut
  /-- Another error with a name. -/
  | error (name : String) (text : Text)
  /-- A bare value. -/
  | value (v : Json)

namespace Fault

/-- The name of the error. -/
def name : Fault → String
  | call fault => fault.name
  | publish _ => "PublishError"
  | config _ => "FatalConfigError"
  | bus _ => "NatsError"
  | invalidTime => "RangeError"
  | interval _ | alreadyRun | aborted | registryShut => "Error"
  | textless => "TypeError"
  | error name _ => name
  | value _ => "thrown"

/-- The wording of the error, or the text of the bare value. A value without a text is a fault of
its own. -/
def message : Fault → Except Fault Text
  | call fault => .ok fault.message
  | publish fault => .ok fault.message
  | config fault => .ok fault.message
  | bus refusal => .ok refusal.code
  | invalidTime => .ok "Invalid time value"
  | interval got => .ok ("Base interval must be positive, got " ++ Decimal.text got)
  | alreadyRun => .ok "Scheduler is already running or has stopped"
  | aborted => .ok "This operation was aborted"
  | textless => .ok "Cannot convert object to primitive value"
  | registryShut => .ok "MetricReader is shutdown"
  | error _ text => .ok text
  | value v =>
    match v.plain? with
    | some text => .ok text
    | none => .error textless

/-- The fault as a part of a log line: an error with its name, a bare value by itself. -/
def logText (fault : Fault) : Text :=
  match fault, fault.message with
  | value _, .ok text => text
  | _, .ok text => fault.name ++ ": " ++ text
  | _, .error _ => "[object Object]"

/-- The kind under which the fault counts if a call ends with it. -/
def kind : Fault → FailureKind
  | call fault => fault.kind
  | _ => .network

end Fault

end NodeProbe
