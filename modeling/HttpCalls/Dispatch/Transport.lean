-- What a dispatcher needs of a transport. Starting an exchange costs nothing yet: it
-- gives a ticket, and the exchange runs when its ticket is redeemed. Redeeming may
-- change the client, since clients choose endpoints in turn and can be closed.
import HttpCalls.Call.Request
import HttpCalls.Dispatch.Completion
import HttpCalls.Endpoint.Registry

namespace HttpCalls

/-- The two kinds of exchange. -/
inductive ExchangeKind
  /-- Brings the whole response. -/
  | exchange
  /-- Brings the value of the body. -/
  | retrieve
deriving DecidableEq, Repr

/-- A transport with clients `κ` and tickets `τ`; `ω` is what lies outside. -/
structure Transport (κ τ ω : Type) where
  create : Maker κ ω
  /-- Gives the ticket of an exchange. It sees no client: a stream holds on to its client, but asks
  nothing of it before it is polled, so whatever depends on the client, the choice of an endpoint
  included, is left to `redeem`, which sees the client as it is then. -/
  start : ExchangeKind → Request → ω → τ × ω
  redeem : τ → κ → ω → List Arrival × κ × ω
  close : Closer κ

/-- Everything that calls change: the registry and what lies outside. -/
structure Session (κ ω : Type) where
  registry : Registry κ := {}
  outside : ω

namespace Session

variable {κ τ ω : Type}

/-- The registration for a call, made now if there is none. -/
def register (resolver : Resolver) (t : Transport κ τ ω) (call : Call) (s : Session κ ω) :
    Except DispatchError Registration × Session κ ω :=
  let (registration, registry, outside) :=
    s.registry.obtain resolver.resolve t.create call.service call.client s.outside
  (registration, { registry, outside })

/-- Starts an exchange. -/
def start (t : Transport κ τ ω) (kind : ExchangeKind) (request : Request) (s : Session κ ω) :
    τ × Session κ ω :=
  let (ticket, outside) := t.start kind request s.outside
  (ticket, { s with outside })

/-- Runs the exchange of a ticket on a client. -/
def redeem (t : Transport κ τ ω) (client : Nat) (ticket : τ) (s : Session κ ω) :
    List Arrival × Session κ ω :=
  match s.registry.clients[client]? with
  | none => ([], s)
  | some state =>
    let (arrivals, state, outside) := t.redeem ticket state s.outside
    (arrivals, { registry := s.registry.setClient client state, outside })

/-- Removes the registration of a service. -/
def invalidate (t : Transport κ τ ω) (service : ServiceId) (s : Session κ ω) :
    Except TransportError Bool × Session κ ω :=
  let (result, registry) := s.registry.invalidate t.close service
  (result, { s with registry })

/-- Removes all registrations. -/
def close (t : Transport κ τ ω) (s : Session κ ω) : Except TransportError Unit × Session κ ω :=
  let (result, registry) := s.registry.close t.close
  (result, { s with registry })

end Session

end HttpCalls
