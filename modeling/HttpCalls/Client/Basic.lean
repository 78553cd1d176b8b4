-- Clients over HTTP. A client chooses an endpoint for each request, puts the path of
-- the request behind its URL, and hands the request to the network, which answers,
-- breaks or stays silent. What it answers is judged by its length first and by its
-- status then. A closed client chooses no endpoint and sends nothing.
import HttpCalls.Client.Outgoing
import HttpCalls.Client.Platform
import HttpCalls.Dispatch.Transport

namespace HttpCalls

/-! ## The network -/

/-- What comes of a request on the network. -/
inductive Reaction
  | answered (response : Response)
  | broken (cause : String)
  /-- Nothing comes in time. -/
  | silent
deriving DecidableEq

/-- A network; `ω` is its state. -/
structure Network (ω : Type) where
  send : Outgoing → ω → Reaction × ω

/-! ## Where a request goes -/

/-- The path of a request behind the URL of an endpoint, with a slash between where one is due. -/
def behindUrl (url path : List Char) : List Char :=
  let base := withoutFinalSlashes url
  match path with
  | [] | '/' :: _ | '?' :: _ => base ++ path
  | path => base ++ '/' :: path

/-- The security that is in force: only a build that knows requests without TLS sends them. -/
def Security.inForce (insecureBuiltIn : Bool) : Security → Security
  | .tlsOnly => .tlsOnly
  | .allowInsecureHttp => if insecureBuiltIn then .allowInsecureHttp else .tlsOnly

/-- The settings that are in force on a platform. -/
def HttpSettings.on (settings : HttpSettings) (platform : Platform) : HttpSettings :=
  { settings with security := settings.security.inForce platform.insecureBuiltIn }

/-- Lets a URI pass if requests may go there. -/
def Security.admit (s : Security) (uri : RequestUri) : Except TransportError RequestUri :=
  let refused (reason : String) : Except TransportError RequestUri :=
    .error (.invalidScheme (String.ofList uri.scheme) reason)
  if uri.scheme = "https".toList then .ok uri
  else if uri.scheme ≠ "http".toList then refused "only http and https are supported"
  else
    match s with
    | .allowInsecureHttp => .ok uri
    | .tlsOnly => refused "plain HTTP requires TransportSecurity::AllowInsecureHttp"

/-- The URI of a request to an endpoint. -/
def uriAt (security : Security) (endpoint : Endpoint) (path : List Char) :
    Except TransportError RequestUri := do
  let text := behindUrl endpoint.url.text path
  let uri ← (RequestUri.ofText text).mapError fun e => .invalidUri (String.ofList text) e.text
  security.admit uri

/-! ## What is made of an answer -/

/-- How many octets of a body are shown with a failure. -/
def previewLimit : Nat := 8192

/-- The failure that a status reports, with the beginning of the body. -/
def statusFailure (r : Response) : TransportError :=
  .status r.status (Utf8.lossy (r.body.take previewLimit)) r.contentType?

/-- Judges what came of a request. -/
def HttpSettings.judge (s : HttpSettings) : Reaction → Except TransportError Response
  | .silent => .error (.timeout s.requestTimeout)
  | .broken cause => .error (.network cause)
  | .answered r =>
    if s.maxBodySize < r.body.length then .error (.bodyTooLarge s.maxBodySize)
    else if r.status.isFailure then .error (statusFailure r)
    else .ok r

/-- The items that an exchange makes of a response: a value is read, and a blank body has none. -/
def itemsOf (codec : Codec) : ExchangeKind → Except TransportError Response → List Item
  | _, .error e => [.error (.transport e)]
  | .exchange, .ok r => [.ok (.response r)]
  | .retrieve, .ok r =>
    match codec.decode r.body with
    | .ok (some v) => [.ok (.body v)]
    | .ok none => []
    | .error e => [.error (.transport (.codec e))]

/-! ## Clients -/

/-- A client over HTTP. -/
structure HttpClient where
  service : ServiceId
  balancer : Balancer
  codec : Codec
  userAgent : HeaderValue
  settings : HttpSettings
  closed : Bool := false
deriving DecidableEq

namespace HttpClient

/-- Makes a client. Its connections must be prepared, and the name that it sends must be legal. -/
def make (settings : HttpSettings) (service : ServiceId) (balancer : Balancer) (codec : Codec)
    (platform : Platform := {}) : Except TransportError HttpClient := do
  platform.connect settings.roots
  match HeaderValue.ofText? settings.userAgent.toList with
  | some userAgent => .ok { service, balancer, codec, userAgent, settings := settings.on platform }
  | none => .error (.requestBuild .headerValue)

/-- What is sent for a request to an endpoint. -/
def outgoing (c : HttpClient) (r : Request) (endpoint : Endpoint) : Except TransportError Outgoing := do
  let uri ← uriAt c.settings.security endpoint r.uri
  return {
    method := r.method, uri
    headers := filledIn c.userAgent r.body.isSome r.headers
    body := r.body.map c.codec.encode }

/-- Chooses the endpoint of a request; the client's next choice is the one after. -/
def prepare (c : HttpClient) (r : Request) : Except TransportError Outgoing × HttpClient :=
  let (choice, balancer) := c.balancer.select
  (choice.bind (c.outgoing r), { c with balancer })

variable {ω : Type}

/-- Sends a request, unless the client is closed. -/
def send (n : Network ω) (r : Request) (c : HttpClient) (outside : ω) :
    Except TransportError Response × HttpClient × ω :=
  if c.closed then (.error (.closed c.service.text), c, outside)
  else
    match c.prepare r with
    | (.error e, c) => (.error e, c, outside)
    | (.ok out, c) =>
      let (reaction, outside) := n.send out outside
      (c.settings.judge reaction, c, outside)

end HttpClient

/-! ## The transport -/

/-- An exchange that was started. -/
structure HttpTicket where
  kind : ExchangeKind
  request : Request
deriving DecidableEq

namespace HttpTicket

/-- The ticket of an exchange. Who retrieves a value asks for JSON, if for nothing else. -/
def issue : ExchangeKind → Request → HttpTicket
  | .exchange, request => { kind := .exchange, request }
  | .retrieve, request =>
    { kind := .retrieve
      request := { request with headers := Headers.addIfAbsent request.headers .accept .json } }

/-- Runs an exchange on a client. -/
def redeem {ω : Type} (n : Network ω) (t : HttpTicket) (c : HttpClient) (outside : ω) :
    List Item × HttpClient × ω :=
  let (result, c, outside) := c.send n t.request outside
  (itemsOf c.codec t.kind result, c, outside)

end HttpTicket

/-- The transport over HTTP. -/
def httpTransport {ω : Type} (settings : HttpSettings) (n : Network ω)
    (platform : Platform := {}) : Transport HttpClient HttpTicket ω where
  create service balancer codec outside :=
    (HttpClient.make settings service balancer codec platform, outside)
  start kind request outside := (.issue kind request, outside)
  redeem ticket client outside :=
    let (items, client, outside) := ticket.redeem n client outside
    (items.map .item, client, outside)
  close client := (.ok (), { client with closed := true })

end HttpCalls
