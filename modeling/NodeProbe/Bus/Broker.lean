import NodeProbe.Bus.Connection

/-!
# The broker

The broker is the server of the bus, as far as the program sees it: what an attempt to connect comes
to, and whether the connection can be closed. `Broker.of` is a broker that the network makes
something of; `Broker.scripted` fails as it is told to.
-/

namespace NodeProbe

/-- The server of the bus. -/
structure Broker where
  /-- What an attempt to connect comes to, and what it prints. -/
  connect : BusAccess → Except Fault Bus × List Line
  /-- Why the connection cannot be closed, if so, and what closing it prints. -/
  close : Option Fault × List Line

namespace Broker

/-- A broker that the network makes this of. Closing a connection to it does not fail. -/
def of (files : Files) (reach : Reach) : Broker where
  connect access :=
    match connectBus files reach access with
    | (.error fault, lines) => (.error (.config fault), lines)
    | (.ok _, lines) => (.ok Connection.new.bus, lines)
  close := (none, Connection.new.close.2)

/-- A broker that prints nothing, and fails as it is told to. -/
def scripted (connectFault closeFault : Option Fault) : Broker where
  connect _ :=
    match connectFault with
    | some fault => (.error fault, [])
    | none => (.ok .accepting, [])
  close := (closeFault, [])

end Broker

end NodeProbe
