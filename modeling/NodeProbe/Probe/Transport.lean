import NodeProbe.Fetch.Race
import NodeProbe.Rpc.Client

/-!
# Where calls go

A call is made to the node through a client, or to a line of prepared answers. A prepared answer may
also stand for a whole fetch, with its outcome. Each call takes the next answer of its line; the
last one is taken over and over.
-/

namespace NodeProbe

/-- A line of answers for each call. -/
structure Lines (α : Type) where
  entries : List (Method × List α)

namespace Lines

variable {α : Type}

/-- The next answer for a call, and the lines without it unless it is the last one. -/
def next (lines : Lines α) (method : Method) : Option α × Lines α :=
  match lines.entries.lookup method with
  | some (answer :: second :: rest) =>
    (some answer,
      ⟨lines.entries.map fun e => if e.1 = method then (method, second :: rest) else e⟩)
  | some [answer] => (some answer, lines)
  | _ => (none, lines)

/-- A new line for a call. -/
def set (lines : Lines α) (method : Method) (answers : List α) : Lines α :=
  ⟨(method, answers) :: lines.entries.filter (·.1 ≠ method)⟩

end Lines

/-- The outcome of a fetch, at once or after a delay; the fetch may also throw. -/
structure Prepared where
  delay : Option (Option Rat)
  result : Except Fault Outcome

/-- Where calls go. -/
inductive Transport where
  | answers (limit : Float) (lines : Lines Reply)
  /-- The node; every request comes to the same exchange, or to none until it is aborted. -/
  | node (limit : Float) (client : Client) (files : Files) (exchange : Option Exchange)
  | outcomes (lines : Lines Prepared)

/-- There is no answer for a call. -/
def noResponder (method : Method) : Fault :=
  .error "Error" ("No responder for " ++ method.name)

/-- How the other side answers a request that comes to an exchange, or to none. -/
def Client.reply (client : Client) (method : Method) (exchange : Option Exchange) : Reply :=
  match exchange with
  | some exchange => .immediate (client.settle method.name exchange)
  | none =>
    match client.settle method.name (.rejected .aborted none) with
    | .error fault => .silent (some fault)
    | .ok _ => .silent none

/-- A call under way. -/
inductive Flight where
  | race (r : Race)
  | prepared (method : Method) (alarm : Option Time.Alarm) (result : Except Fault Outcome)

namespace Flight

/-- The call of a flight. -/
def method : Flight → Method
  | race r => r.method
  | prepared m _ _ => m

/-- The alarms that have not rung. -/
def alarms : Flight → List Time.Alarm
  | race r => r.alarms
  | prepared _ alarm _ => alarm.toList

/-- An alarm rings. -/
def ring (alarm : Time.Alarm) (clock : Time.Clock) : Flight → Flight
  | race r => .race (r.ring alarm clock)
  | prepared m own result => .prepared m (own.filter (· ≠ alarm)) result

/-- Answers that are there are taken. -/
def settle (clock : Time.Clock) : Flight → Flight
  | race r => .race (r.settle clock)
  | flight => flight

/-- The call fails before it is under way. -/
def isRefused : Flight → Bool
  | race r => r.isRefused
  | prepared _ _ _ => false

/-- What the call came to, if it is over. -/
def result? : Flight → Option (Except Fault Outcome)
  | race r => r.outcome
  | prepared _ none result => some result
  | prepared _ (some _) _ => none

/-- How often the call was aborted. -/
def abortCount : Flight → Nat
  | race r => r.aborts.length
  | prepared _ _ _ => 0

end Flight

/-- Makes a call: the flight, and the request that was sent, if one was. -/
def Transport.call (t : Transport) (clock : Time.Clock) (method : Method) :
    Transport × Time.Clock × Flight × Option Request :=
  match t with
  | answers limit lines =>
    let (reply, lines) := lines.next method
    let (clock, race) :=
      Race.launch clock method limit (reply.getD (.refused (noResponder method)))
    (.answers limit lines, clock, .race race, none)
  | node limit client files exchange =>
    match client.prepare files method.name true with
    | (client, .ok request) =>
      let (clock, race) := Race.launch clock method limit (client.reply method exchange)
      (.node limit client files exchange, clock, .race race, some request)
    | (client, .error fault) =>
      let (clock, race) := Race.launch clock method limit (.refused (.call fault))
      (.node limit client files exchange, clock, .race race, none)
  | outcomes lines =>
    match lines.next method with
    | (some ⟨some delay, result⟩, lines) =>
      let (clock, alarm) := clock.arm delay
      (.outcomes lines, clock, .prepared method (some alarm) result, none)
    | (some ⟨none, result⟩, lines) => (.outcomes lines, clock, .prepared method none result, none)
    | (none, lines) =>
      (.outcomes lines, clock, .prepared method none (.error (noResponder method)), none)

end NodeProbe
