import NodeProbe.Bus.Event
import NodeProbe.Files
import NodeProbe.Output
import NodeProbe.Text.Blank

/-!
# Connecting to the bus

The bus is reached under an address, with a user and a password if a user is named; the password
may stand in a file. What the network makes of the attempt comes from outside, as a `Reach`. A
connection takes messages until it is closed; a message without a subject is refused.

Why an attempt failed and why a message was refused is worded by the client for the bus, here as
`nats` words it in the version 2 (`Reach.detail`, `BusRefusal.code`). Other versions may have other
words.
-/

namespace NodeProbe

/-- How the bus is to be reached. -/
structure BusAccess where
  address : Text
  user : Option Text
  password : Option Text
  passwordFile : Option Text
  /-- What the client calls itself. -/
  clientName : Option Text

/-- What the client tells the bus. -/
structure BusLogin where
  server : Text
  clientName : Option Text
  user : Option Text
  password : Option Text

namespace BusAccess

/-- Reads the password from its file. -/
def readPassword (files : Files) (user file : Text) : Except ConfigFault (Text × List Line) :=
  match files.readText file with
  | .error fault => .error (.unreadablePassword file fault.message)
  | .ok content =>
    .ok (.ofChars (Text.trimChars content.toList),
      [.log ("[nats] Using NATS user=" ++ user ++ " with password from file " ++ file)])

/-- The password: the one that is given, else the one in the file, if there is one of the two. -/
def findPassword (files : Files) (access : BusAccess) (user : Text) :
    Except ConfigFault (Option Text × List Line) :=
  match access.password, access.passwordFile.filter (!·.isEmpty) with
  | some password, _ => .ok (some password, [])
  | none, some file => do
    let (password, lines) ← readPassword files user file
    return (some password, lines)
  | none, none => .ok (none, [])

/-- Prepares the login, and prints how. -/
def login (files : Files) (access : BusAccess) : Except ConfigFault (BusLogin × List Line) :=
  let clientName := access.clientName.filter (!·.isEmpty)
  match access.user.filter (!·.isEmpty) with
  | none =>
    .ok (⟨access.address, clientName, none, none⟩,
      [.log ("[nats] Connecting to NATS server at " ++ access.address ++
        " without authentication")])
  | some user => do
    let (password, lines) ← access.findPassword files user
    match password with
    | none => .error (.noPassword user)
    | some password =>
      return (⟨access.address, clientName, some user, some password⟩,
        lines ++ [.log ("[nats] Connecting to NATS server " ++ access.address ++ " with user=" ++
          user ++ " and password=***")])

end BusAccess

/-- What the network makes of an attempt to connect. -/
inductive Reach where
  | accepted
  /-- Nothing listens under the address. -/
  | refused
  /-- The server does not accept the login. -/
  | rejected
  /-- There is no network. -/
  | noRoute
  deriving DecidableEq, Repr

/-- Why an attempt failed. -/
def Reach.detail (address : Text) : Reach → Option Text
  | accepted => none
  | refused => some "CONNECTION_REFUSED"
  | rejected => some "'Authorization Violation'"
  | noRoute => some ("connect ENETUNREACH " ++ address ++ " - Local (0.0.0.0:0)")

/-- Connects to the bus: the login with which it was done or why it failed, and what was printed. -/
def connectBus (files : Files) (reach : Reach) (access : BusAccess) :
    Except ConfigFault BusLogin × List Line :=
  match access.login files with
  | .error fault => (.error fault, [])
  | .ok (login, lines) =>
    match reach.detail access.address with
    | some detail => (.error (.unreachableBus access.address detail), lines)
    | none => (.ok login, lines ++ [.log ("[nats] Connected to " ++ access.address)])

/-- A connection to the bus. -/
structure Connection where
  isOpen : Bool
  bus : Bus

namespace Connection

/-- An open connection refuses a message without a subject. -/
def new : Connection :=
  ⟨true, ⟨fun subject => if subject.isEmpty then some (.bus .badSubject) else none, []⟩⟩

/-- Sends a message. That the connection is closed is seen first. -/
def send (c : Connection) (message : Message) : Except Fault Connection :=
  if c.isOpen then
    match c.bus.send message with
    | .ok bus => .ok { c with bus }
    | .error fault => .error fault
  else .error (.bus .connectionClosed)

/-- Closes the connection, which is printed once. -/
def close (c : Connection) : Connection × List Line :=
  if c.isOpen then
    ({ c with isOpen := false }, [.log "[nats] Connection drained and closed"])
  else (c, [])

end Connection

end NodeProbe
