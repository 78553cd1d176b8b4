-- Carrying out calls. A call is turned into a request under the path of its client,
-- and its exchange is awaited, left to a future or handed out as a stream, as the
-- shape of its result asks.
import HttpCalls.Dispatch.Awaited
import HttpCalls.Dispatch.Delivery
import HttpCalls.Dispatch.Transport

namespace HttpCalls

/-! ## What a call hands out -/

/-- A future: an exchange that a task carries out when it gets its turn. -/
structure Pending (τ : Type) where
  client : Nat
  ticket : τ
  element : Element
  found : Option Resolved
  params : List Param

/-- A stream: an exchange that runs when the first item is asked for. -/
structure Flow (τ : Type) where
  client : Nat
  ticket : τ
  shape : Delivery → Delivery

/-- The outcome of a call. -/
abbrev CallOutcome (τ : Type) := Outcome (Pending τ) (Flow τ)

/-- What was done on the way: exchanges started, items pulled and fallbacks used. -/
structure Effects where
  started : List (ExchangeKind × Request) := []
  pulled : Nat := 0
  invoked : List Invocation := []

/-- A result, what was done for it, and the session after it. -/
structure Performed (κ ω α : Type) where
  result : α
  effects : Effects := {}
  session : Session κ ω

/-! ## Requests -/

/-- The template of an operation under the path of its client. -/
def operationTemplate (contextPath uri : String) : Template :=
  let base := Template.ofString (if contextPath.isEmpty then "/" else contextPath)
  if uri = "/" then base else base.nest uri.toList

/-- The request of a mapped call. -/
def mappedRequest (contextPath : String) (mapping : Mapping) (params : List Param) : Request :=
  Request.build (operationTemplate contextPath mapping.uri) mapping.method params

/-- The request with the media types that the caller takes, when their text is legal. -/
def withAccept (call : Call) (request : Request) : Request :=
  match HeaderValue.ofText? call.acceptText.toList with
  | some value => { request with headers := request.headers.replace .accept value }
  | none => request

/-- The request of an exchange that is not awaited. -/
def issuedRequest (call : Call) (element : Element) (request : Request) : Request :=
  if element = .noContent then request else withAccept call request

/-- The kind of exchange for an element. -/
def Element.exchangeKind : Element → ExchangeKind
  | .response | .noContent => .exchange
  | .body => .retrieve

/-! ## The dispatcher -/

/-- Carries out calls over a transport with tickets `τ`. -/
structure Dispatcher (τ : Type) where
  resolver : Resolver := {}
  fallbacks : Fallbacks := {}
  transformers : List Transformer := []
  converters : Converters := Converters.standard
  /-- Takes the calls without a mapping. -/
  unmapped : Call → Except DispatchError (CallOutcome τ) := fun call => .ok (.proceed call)

namespace Dispatcher

variable {κ τ ω : Type}

/-- Starts an exchange and awaits it. -/
def awaiting {α : Type} (t : Transport κ τ ω) (client : Nat) (kind : ExchangeKind) (request : Request)
    (settle : List Item → Settled α) (outcome : α → CallOutcome τ) (s : Session κ ω) :
    Performed κ ω (Except DispatchError (CallOutcome τ)) :=
  let (ticket, s) := s.start t kind request
  let (arrivals, s) := s.redeem t client ticket
  let settled := settle (Arrival.items arrivals)
  { result := settled.result.map outcome
    effects := { started := [(kind, request)], pulled := settled.pulled, invoked := settled.invoked }
    session := s }

/-- Starts an exchange that is carried out later. -/
def issuing (t : Transport κ τ ω) (call : Call) (element : Element) (request : Request)
    (outcome : τ → Except DispatchError (CallOutcome τ)) (s : Session κ ω) :
    Performed κ ω (Except DispatchError (CallOutcome τ)) :=
  let request := issuedRequest call element request
  let (ticket, s) := s.start t element.exchangeKind request
  { result := outcome ticket, effects := { started := [(element.exchangeKind, request)] }, session := s }

/-- The stream of an exchange in the shape of a stream type. -/
def flow (d : Dispatcher τ) (call : Call) (client : Nat) (type : String) (ticket : τ) :
    Except DispatchError (CallOutcome τ) := do
  let convert ← d.converters.converter type
  let found := d.fallbacks.find call.operation
  return .stream
    { client, ticket, shape := fun source => applyChain d.transformers found call.params (convert source) }

/-- Carries out the request of a call on a client, as the shape of its result asks. -/
def perform (d : Dispatcher τ) (t : Transport κ τ ω) (call : Call) (client : Nat) (request : Request)
    (s : Session κ ω) : Performed κ ω (Except DispatchError (CallOutcome τ)) :=
  let found := d.fallbacks.find call.operation
  match call.returns with
  | .value => awaiting t client .retrieve request (settleValue found call.params) .value s
  | .optional =>
    awaiting t client .retrieve request (settleValue found call.params) (fun v => .optional (optionalOf v)) s
  | .response => awaiting t client .exchange request settleResponse .response s
  | .noContent => awaiting t client .exchange request (settleEnd found call.params) (fun () => .unit) s
  | .future element =>
    issuing t call element request
      (fun ticket => .ok (.future { client, ticket, element, found, params := call.params })) s
  | .stream type element => issuing t call element request (d.flow call client type) s

/-- Carries out a call. -/
def invoke (d : Dispatcher τ) (t : Transport κ τ ω) (call : Call) (s : Session κ ω) :
    Performed κ ω (Except DispatchError (CallOutcome τ)) :=
  match call.mapping with
  | none => { result := d.unmapped call, session := s }
  | some mapping =>
    match s.register d.resolver t call with
    | (.error e, s) => { result := .error e, session := s }
    | (.ok registration, s) =>
      d.perform t call registration.client
        (mappedRequest registration.contextPath mapping call.params) s

end Dispatcher

/-! ## Using what was handed out -/

/-- Lets the task of a future run; `kept` tells whether the caller still waits for it. -/
def Pending.run {κ τ ω : Type} (t : Transport κ τ ω) (f : Pending τ) (kept : Bool) (s : Session κ ω) :
    Performed κ ω CallResult :=
  let (arrivals, s) := s.redeem t f.client f.ticket
  let start : Completion := {}
  let bridged := bridge f.element f.found f.params (if kept then start else start.drop) arrivals
  { result := bridged.completion.outcome
    effects := { pulled := bridged.pulled, invoked := bridged.invoked }
    session := s }

/-- Collects the items of a stream, at most `limit` of them. A stream that is not asked for
anything never runs its exchange. -/
def Flow.collect {κ τ ω : Type} (t : Transport κ τ ω) (f : Flow τ) (limit : Option Nat)
    (s : Session κ ω) : Performed κ ω (List Item) :=
  if ((f.shape (.ofItems [])).take limit).asked = 0 then
    { result := ((f.shape (.ofItems [])).take limit).items, session := s }
  else
    let (arrivals, s) := s.redeem t f.client f.ticket
    let items := Arrival.items arrivals
    let taken := (f.shape (.ofItems items)).take limit
    { result := taken.items
      effects := { pulled := min taken.asked items.length, invoked := taken.invoked }
      session := s }

end HttpCalls
