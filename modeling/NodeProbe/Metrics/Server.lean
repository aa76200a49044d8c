import NodeProbe.Config.Address
import NodeProbe.Metrics.Exposition
import NodeProbe.Output

/-!
# The metrics server

The server shows the exposition under two paths to `GET` requests. If it has a token, a request must
carry it, and what a request without it learns depends on nothing but the form of its header.
-/

namespace NodeProbe.Metrics

/-- A request to the server. -/
structure Inquiry where
  verb : Text
  url : Text
  authorization : Option Text

/-- An answer of the server. -/
structure Response where
  status : Nat
  /-- The headers by their lower-case names. -/
  headers : List (String × String)
  body : Text

namespace Response

/-- A plain text. -/
def plain (status : Nat) (body : Text) : Response :=
  ⟨status, [("content-type", "text/plain")], body⟩

/-- The request does not carry the token. -/
def unauthorized (body : Text) : Response :=
  ⟨401, [("content-type", "text/plain"), ("www-authenticate", "Bearer realm=\"Metrics\"")], body⟩

end Response

/-- The token that a header carries. -/
def bearer? (header : Text) : Option Text :=
  let scheme : Text := "Bearer "
  if header.startsWith scheme then some ⟨header.units.drop scheme.length⟩ else none

/-- Why a request is turned away, if it is. Without a token nobody is. -/
def refusal? (token : Option Text) (authorization : Option Text) : Option Response :=
  match token.filter (!·.isEmpty) with
  | none => none
  | some token =>
    match authorization.bind bearer? with
    | none => some (.unauthorized "Unauthorized: Missing or invalid Bearer token")
    | some sent =>
      if sent = token then none else some (.unauthorized "Unauthorized: Invalid Bearer token")

/-- The path of a URL. -/
def pathOf (url : Text) : Text :=
  ⟨url.units.takeWhile (· ≠ Text.unit '?')⟩

/-- The request asks for the exposition. -/
def Inquiry.asksForMetrics (q : Inquiry) : Bool :=
  q.verb = "GET" && (pathOf q.url = "/" || pathOf q.url = "/metrics")

/-- Brings what is reported up to date, unless the registry has been shut down. -/
def Registry.refresh (r : Registry) : Except Fault Registry :=
  if r.isShut then .error .registryShut else .ok r.collect

/-- Answers a request. Only the exposition brings the registry up to date. -/
def Registry.respond (r : Registry) (program : Text) (token : Option Text) (q : Inquiry) :
    Registry × Response :=
  match refusal? token q.authorization with
  | some response => (r, response)
  | none =>
    if q.asksForMetrics then
      match r.refresh with
      | .error fault => (r, .plain 200 ("# failed to export metrics: " ++ fault.logText))
      | .ok r => (r, .plain 200 (r.exposition program))
    else (r, .plain 404 "Not Found")

/-! ## Starting and stopping -/

/-- Where the server listens, or why it does not. The operating system may refuse an address for a
reason of its own, which `occupied` gives. -/
def listen (address : Option Text) (occupied : Option Text) : Except ConfigFault Endpoint :=
  match address.filter (!·.isEmpty) with
  | none => .error .noMetricsAddress
  | some address =>
    let endpoint := Endpoint.of address
    match occupied with
    | some detail => .error (.unbindable address detail)
    | none =>
      if endpoint.portIsUsable then .ok endpoint
      else
        .error (.unbindable address
          ("options.port should be >= 0 and < 65536. Received " ++ Decimal.text endpoint.port))

/-- What is printed when the server listens. -/
def listening (host port : Text) (token : Option Text) : List Line :=
  .log ("[metrics] Prometheus metrics available at http://" ++ host ++ ":" ++ port ++ "/metrics") ::
    if (token.getD "") = "" then []
    else [.log "[metrics]   Authentication: Bearer token required"]

/-- Shuts the registry down. -/
def Registry.shut (r : Registry) : Registry × List Line :=
  ({ r with isShut := true }, [.log "[metrics] Prometheus exporter shut down"])

end NodeProbe.Metrics
