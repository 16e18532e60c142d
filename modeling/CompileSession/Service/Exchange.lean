import CompileSession.Config
import CompileSession.Service.Url
import CompileSession.Session.Desk

/-!
# One request over the network

A request is posted to the endpoint that the settings name, if that is an address to which requests
can be sent at all. What then happens on the network is an `Exchange`: an answer with a status and
a body, or one of the ways in which no whole answer comes. Either becomes one delivery. A body is
text in which ill-formed octets are replaced; it is decoded only if the status tells success, and
any other status is a response of its own, whatever the body.
-/

namespace CompileSession

/-- What the service sees of a request. -/
structure Posted where
  method : String
  target : String
  contentType : String
  body : String
deriving DecidableEq, Repr

/-- What comes of a request on the network. -/
inductive Exchange where
  | answered (status : Nat) (body : List UInt8)
  /-- the body ends before it is complete -/
  | brokenOff
  /-- there is no connection, or it ends before the answer begins -/
  | disconnected
  /-- the time allowed is over before the answer is complete -/
  | overdue
deriving DecidableEq, Repr

/-- A network: what comes of the requests posted to an address. -/
abbrev Network := Url → Posted → Exchange

/-- A network on which nothing is reached. -/
def Network.unreachable : Network := fun _ _ => .disconnected

namespace Exchange

/-- Whether a status tells success. -/
def isSuccess (status : Nat) : Bool := 200 ≤ status && status < 300

/-- The response that a whole answer makes, and the warnings of decoding it. -/
def response (status : Nat) (body : List UInt8) : Response × List Warning :=
  let text := Text.decodeLossy body
  if isSuccess status then Desk.decodeBody text else (.error (.httpStatus status text), [])

/-- The delivery that an exchange with an address makes, and the warnings about it. -/
def delivery (address : Url) : Exchange → Delivery × List Warning
  | .answered status body =>
    let r := response status body
    (.response r.1, r.2)
  | .brokenOff => (.failed (.request "error decoding response body"), [])
  | .disconnected =>
    (.failed (.request ("error sending request for url (" ++ address.render ++ ")")), [])
  | .overdue => (.failed .timeout, [])

end Exchange

namespace Config

/-- What the service sees of a request that is posted to an address. -/
def posted (c : Config) (address : Url) (r : Request) : Posted where
  method := "POST"
  target := address.target
  contentType := c.encoding.contentType
  body := r.body c.encoding

/-- The delivery that comes of sending a request, and the warnings about it. -/
def dispatch (c : Config) (network : Network) (r : Request) : Delivery × List Warning :=
  match (Url.ofText? c.endpoint).map Url.withoutCredentials with
  | none => (.failed (.request "builder error"), [])
  | some address =>
    if address.carriesRequests then (network address (c.posted address r)).delivery address
    else (.failed (.request ("builder error for url (" ++ address.render ++ ")")), [])

end Config

end CompileSession
