import NodeProbe.Fault
import NodeProbe.Json.Printer
import NodeProbe.Text.Base64
import NodeProbe.Time.Instant

/-!
# Events on the bus

The result of a call goes to the bus as an event: one message on the subject of the call, whose text
is an envelope with the name of the call, the time, and the result in Base64. Publishing is tried
once; the envelope is made before the bus is asked.
-/

namespace NodeProbe

/-- A message on the bus. -/
structure Message where
  subject : Text
  payload : Bytes

/-- A bus: which subjects it refuses, and why, and what it has delivered so far, the last message in
front. -/
structure Bus where
  refusal : Text → Option Fault
  delivered : List Message

namespace Bus

/-- A bus that takes everything. -/
def accepting : Bus :=
  ⟨fun _ => none, []⟩

/-- From now on the bus refuses everything, or takes everything. -/
def setRefusal (bus : Bus) (fault : Option Fault) : Bus :=
  { bus with refusal := fun _ => fault }

/-- Hands a message to the bus. -/
def send (bus : Bus) (message : Message) : Except Fault Bus :=
  match bus.refusal message.subject with
  | some fault => .error fault
  | none => .ok { bus with delivered := message :: bus.delivered }

/-- The number of messages delivered on a subject. -/
def count (bus : Bus) (subject : Text) : Nat :=
  (bus.delivered.filter (·.subject = subject)).length

end Bus

/-- The result of a call. -/
structure Event where
  method : Text
  payload : Bytes
  /-- The time of the result, if it is an instant. -/
  time : Option Time.Instant

/-- The subject of a call: its name in lower case, below the base if there is one. -/
def subjectOf (base : Option Text) (method : Text) : Text :=
  match base.filter (!·.isEmpty) with
  | some base => base ++ "." ++ method.lower
  | none => method.lower

namespace Event

/-- The envelope of an event at an instant. -/
def envelope (event : Event) (time : Time.Instant) : Json :=
  .object [("method", .string event.method), ("timestamp", .string time.text),
    ("payload", .string (Text.Base64.encode event.payload))]

/-- The bytes of the envelope. -/
def encode (event : Event) : Except Fault Bytes :=
  match event.time with
  | some time => .ok (Text.Utf8.encode (event.envelope time).print)
  | none => .error .invalidTime

/-- Encodes the event and hands it to the bus. -/
def send (event : Event) (base : Option Text) (bus : Bus) : Except Fault Bus :=
  match event.encode with
  | .ok payload => bus.send ⟨subjectOf base event.method, payload⟩
  | .error fault => .error fault

/-- Puts the event on the bus; if it does not get there, says why. A reason that has no text makes
the publishing itself fail. -/
def publish (event : Event) (base : Option Text) (bus : Bus) :
    Bus × Except Fault (Option PublishFault) :=
  match event.send base bus with
  | .ok bus => (bus, .ok none)
  | .error fault =>
    (bus, fault.message.map fun detail =>
      some (.failed event.method (subjectOf base event.method) detail))

end Event

end NodeProbe
