import NodeProbe.Fetch.Outcome
import NodeProbe.Rpc.Answer
import NodeProbe.Rpc.Credentials

/-!
# The client of the node

A client makes calls without parameters. Requests are numbered from one; a call whose credentials
cannot be had sends nothing and takes no number.
-/

namespace NodeProbe

/-- A request to the node. -/
structure Request where
  url : Text
  verb : String
  contentType : String
  authorization : String
  body : String
  /-- The request can be aborted. -/
  abortable : Bool

/-- A client and the number of requests that it has sent. -/
structure Client where
  access : NodeAccess
  sent : Nat

namespace Client

/-- A client that has not sent anything. -/
def new (access : NodeAccess) : Client :=
  ⟨access, 0⟩

/-- Where the client sends its requests. -/
def url (c : Client) : Text :=
  "http://" ++ c.access.host ++ "/"

/-- The body of a request. -/
def body (number : Nat) (method : Text) : Json :=
  .object [("jsonrpc", .string "1.0"), ("id", .nat number), ("method", .string method),
    ("params", .array [])]

/-- The request for a call. -/
def request (c : Client) (credentials : Credentials) (method : Text) (abortable : Bool) :
    Request :=
  { url := c.url
    verb := "POST"
    contentType := "application/json"
    authorization := credentials.header
    body := (body (c.sent + 1) method).print
    abortable }

/-- Prepares a call: the request that is sent, or why there is none. -/
def prepare (c : Client) (files : Files) (method : Text) (abortable : Bool) :
    Client × Except CallFault Request :=
  match Credentials.resolve files c.access with
  | .ok credentials =>
    ({ c with sent := c.sent + 1 }, .ok (c.request credentials method abortable))
  | .error cause => (c, .error ⟨method, .auth cause⟩)

/-- How a call ends whose request came to this. -/
def settle (c : Client) (method : Text) (exchange : Exchange) : Settlement :=
  exchange.read c.access.host method

/-- A call whose request comes to `exchange`. -/
def call (c : Client) (files : Files) (method : Text) (abortable : Bool) (exchange : Exchange) :
    Client × Option Request × Settlement :=
  match c.prepare files method abortable with
  | (c, .ok request) => (c, some request, c.settle method exchange)
  | (c, .error fault) => (c, none, .error (.call fault))

end Client

end NodeProbe
