import NodeProbe.Shape
import NodeProbe.Text.Casing

/-!
# The diagnostics

The nine calls that a node answers about itself, in the order of the catalog, and for each of them
its name, the switch that turns it off, how often it is asked for, and the shape of its result.
-/

namespace NodeProbe

/-- A diagnostic call. -/
inductive Method where
  | peerInfo
  | mempoolInfo
  | uptime
  | netTotals
  | memoryInfo
  | addrmanInfo
  | chainTxStats
  | networkInfo
  | blockchainInfo
  deriving DecidableEq, Repr

namespace Method

/-- All of them, in catalog order. -/
def all : List Method :=
  [peerInfo, mempoolInfo, uptime, netTotals, memoryInfo, addrmanInfo, chainTxStats, networkInfo,
    blockchainInfo]

/-- The name of a call. -/
def name : Method → String
  | peerInfo => "getpeerinfo"
  | mempoolInfo => "getmempoolinfo"
  | uptime => "uptime"
  | netTotals => "getnettotals"
  | memoryInfo => "getmemoryinfo"
  | addrmanInfo => "getaddrmaninfo"
  | chainTxStats => "getchaintxstats"
  | networkInfo => "getnetworkinfo"
  | blockchainInfo => "getblockchaininfo"

/-- The call of a name. -/
def ofName? (s : Text) : Option Method :=
  all.find? fun m => (m.name : Text) = s

/-- The position in the catalog. -/
def position (m : Method) : Nat :=
  all.idxOf m

/-- The number of ticks between two calls: those that walk the chain are ten times as rare. -/
def cadence : Method → Nat
  | chainTxStats | blockchainInfo => 10
  | _ => 1

/-- The fields of the result that are relied on. -/
def shape : Method → Shape
  | peerInfo => .list (.required [("id", .count), ("addr", .text)])
  | mempoolInfo => .required [("loaded", .flag), ("size", .count), ("bytes", .count)]
  | uptime => .count
  | netTotals =>
    .required [("totalbytesrecv", .count), ("totalbytessent", .count), ("timemillis", .count)]
  | memoryInfo => .required [("locked", .object [])]
  | addrmanInfo =>
    .record (.required [("new", .count), ("tried", .count), ("total", .count)])
  | chainTxStats =>
    .object [("time", false, .count), ("txcount", true, .count),
      ("window_final_block_height", false, .count), ("window_block_count", false, .count)]
  | networkInfo =>
    .required [("version", .count), ("subversion", .text), ("protocolversion", .count)]
  | blockchainInfo =>
    .required [("chain", .text), ("blocks", .count), ("headers", .count), ("bestblockhash", .text)]

end Method

/-- The variable that turns a call off. -/
def switchKey (method : Text) : Text :=
  "DISABLE_" ++ method.upper

end NodeProbe
