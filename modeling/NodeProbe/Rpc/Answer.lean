import NodeProbe.Fault
import NodeProbe.Json.Parser
import NodeProbe.Text.Utf8

/-!
# Answers of the node

What came back for a request is looked at in stages, and the first stage that fails decides: the
request itself, the status of rejected credentials, the reading of the body, its text as JSON, the
form of the envelope, and an error that the node reports.
-/

namespace NodeProbe

/-- What became of a request. -/
inductive Exchange where
  | answered (status : Nat) (body : Bytes)
  /-- The body could not be read to its end. -/
  | broken (status : Nat) (fault : Fault)
  /-- The request failed, perhaps because of another error. -/
  | rejected (fault : Fault) (cause : Option Fault)

/-- A status as sixteen bits hold it. -/
def statusOf (x : Float) : Nat :=
  match Decimal.rational? x with
  | some q => ((if q < 0 then -(-q).floor else q.floor) % 65536).toNat
  | none => 0

/-- The statuses of answers that cannot have a body. -/
def bodiless : List Nat :=
  [204, 205, 304]

/-- Why there is no answer with this status, if there can be none. -/
def statusFault? (status : Nat) : Option Fault :=
  if status < 200 ∨ 599 < status then
    some (.error "RangeError" "init[\"status\"] must be in the range of 200 to 599, inclusive.")
  else if bodiless.contains status then
    some (.error "TypeError"
      ("Response constructor: Invalid response status code " ++ Decimal.natText status))
  else none

/-- An answer with a body, or with what the reading of the body failed with. One that cannot have
its status is no answer. -/
def Exchange.ofAnswer (status : Float) (body : Except Fault Bytes) : Exchange :=
  match statusFault? (statusOf status), body with
  | some fault, _ => .rejected fault none
  | none, .ok octets => .answered (statusOf status) octets
  | none, .error fault => .broken (statusOf status) fault

/-- The error that a failed request is put down to: its cause, if that is an error. -/
def Exchange.blame (fault : Fault) (cause : Option Fault) : Fault :=
  match fault, cause with
  | .value _, _ => fault
  | _, none | _, some (.value _) => fault
  | _, some cause => cause

/-- The envelope of an answer: its result, if there is one, and the error that the node reports. -/
structure Envelope where
  result : Option Json
  error : Option (Float × Text)

namespace Envelope

/-- The number of an answer is a number, a text or `null`, and must be there. -/
def hasId (v : Json) : Bool :=
  match v.field? "id" with
  | some (.number _) | some (.string _) | some .null => true
  | _ => false

/-- Reads the error: it may be absent or `null`; else it has a code and a message. -/
def error? (v : Json) : Option (Option (Float × Text)) :=
  match v.field? "error" with
  | none | some .null => some none
  | some e =>
    match e.field? "code", e.field? "message" with
    | some (.number code), some (.string message) =>
      some (some (code, message))
    | _, _ => none

/-- Reads an envelope. -/
def ofJson? (v : Json) : Option Envelope :=
  match error? v with
  | some error => if hasId v then some ⟨v.field? "result", error⟩ else none
  | none => none

end Envelope

/-- The status of an answer that rejects the credentials. -/
def rejectsCredentials (status : Nat) : Bool :=
  status = 401 || status = 403

/-- What an answer says about the call. -/
def readAnswer (status : Nat) (body : Bytes) : Except CallFailure (Option Json) :=
  match Json.parse? (Text.Utf8.decodeUnmarked body) with
  | none => .error (.decode (.notJson status))
  | some v =>
    match Envelope.ofJson? v with
    | none => .error (.decode (.notEnvelope status))
    | some { error := some (code, message), .. } => .error (.response (some code) (some message))
    | some { result, error := none } => .ok result

/-- How a call fails if a fault is put down to the network. If the fault has no text, that is what
the call fails with. -/
def Exchange.networkFault (method : Text) (cause : Text → NetworkCause) (fault : Fault) : Fault :=
  match fault.message with
  | .ok detail => .call ⟨method, .network (cause detail)⟩
  | .error without => without

/-- What an exchange says about the call. -/
def Exchange.read (host method : Text) : Exchange → Except Fault (Option Json)
  | .rejected fault cause => .error (networkFault method (.unreachable host) (blame fault cause))
  | .answered status body =>
    if rejectsCredentials status then .error (.call ⟨method, .auth (.rejected status)⟩)
    else (readAnswer status body).mapError fun failure => .call ⟨method, failure⟩
  | .broken status fault =>
    if rejectsCredentials status then .error (.call ⟨method, .auth (.rejected status)⟩)
    else .error (networkFault method .dropped fault)

end NodeProbe
