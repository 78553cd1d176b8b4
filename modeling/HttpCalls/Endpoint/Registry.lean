-- The clients of services. Each service has at most one registration, made on its
-- first use from what that first call asked for. Clients are known by their numbers
-- in the order in which they were made; a removed registration closes its client.
import HttpCalls.Endpoint.Resolver

namespace HttpCalls

/-- A client of a service, and the path that its operations are nested under. -/
structure Registration where
  /-- The number of the client. -/
  client : Nat
  contextPath : String
deriving DecidableEq, Repr

/-- The shown form of a registration. -/
def Registration.shown (r : Registration) : String :=
  shownPartly "ClientRegistration" [("context_path", Quoted.ofString r.contextPath)]

/-- The path for the operations of a service: an explicit one, else a first segment that is one. -/
def contextPath (service : ServiceId) (options : ClientOptions) : String :=
  match options.path with
  | some path => path
  | none =>
    match service.primary? with
    | some segment => if Text.startsWith ['/'] segment.toList then segment else ""
    | none => ""

/-- Makes a client for a service; `ω` is what lies outside, and a failed try may leave a trace there. -/
abbrev Maker (κ ω : Type) := ServiceId → Balancer → Codec → ω → Except TransportError κ × ω

/-- Closes a client. -/
abbrev Closer (κ : Type) := κ → Except TransportError Unit × κ

/-- The registrations that are held, and all clients ever made. -/
structure Registry (κ : Type) where
  registered : Keyed ServiceId Registration := []
  /-- Every client ever made, in the order of their numbers. -/
  clients : List κ := []
  /-- The numbers of the clients that were closed, in the order of closing. -/
  closings : List Nat := []

namespace Registry

variable {κ ω : Type}

/-- How often a client was closed. -/
def closedTimes (r : Registry κ) (client : Nat) : Nat := r.closings.count client

/-- The registry with one more client. -/
def add (r : Registry κ) (service : ServiceId) (options : ClientOptions) (client : κ) :
    Registration × Registry κ :=
  let registration := { client := r.clients.length, contextPath := contextPath service options }
  (registration,
   { r with
     registered := Keyed.put service registration r.registered
     clients := r.clients ++ [client] })

/-- The registration of a service, made now if there is none. -/
def obtain (resolver : ServiceId → Option Balancer) (make : Maker κ ω) (service : ServiceId)
    (options : ClientOptions) (r : Registry κ) (outside : ω) :
    Except DispatchError Registration × Registry κ × ω :=
  match Keyed.get? service r.registered with
  | some registration => (.ok registration, r, outside)
  | none =>
    match resolver service with
    | none => (.error (.serviceResolution service), r, outside)
    | some balancer =>
      match make service balancer (({} : Codec).withFeatures options.features) outside with
      | (.error e, outside) => (.error (.transport e), r, outside)
      | (.ok client, outside) =>
        let (registration, r) := r.add service options client
        (.ok registration, r, outside)

/-- Changes one client. -/
def setClient (r : Registry κ) (number : Nat) (client : κ) : Registry κ :=
  { r with clients := r.clients.set number client }

/-- Closes the client of a number. -/
def closeClient (close : Closer κ) (r : Registry κ) (number : Nat) :
    Except TransportError Unit × Registry κ :=
  match r.clients[number]? with
  | none => (.ok (), r)
  | some client =>
    let (result, client) := close client
    (result, { r.setClient number client with closings := r.closings ++ [number] })

/-- Removes the registration of a service and closes its client; tells whether there was one. -/
def invalidate (close : Closer κ) (service : ServiceId) (r : Registry κ) :
    Except TransportError Bool × Registry κ :=
  match Keyed.get? service r.registered with
  | none => (.ok false, r)
  | some registration =>
    let r := { r with registered := Keyed.erase service r.registered }
    let (result, r) := r.closeClient close registration.client
    (result.map fun () => true, r)

/-- The first error of two results. -/
def firstError (a b : Except TransportError Unit) : Except TransportError Unit :=
  match a with
  | .error e => .error e
  | .ok () => b

/-- Closes clients one after the other, whatever becomes of them; gives the first error. -/
def closeAll (close : Closer κ) (r : Registry κ) : List Nat → Except TransportError Unit × Registry κ
  | [] => (.ok (), r)
  | number :: more =>
    let (first, r) := r.closeClient close number
    let (rest, r) := closeAll close r more
    (firstError first rest, r)

/-- Removes all registrations and closes their clients. -/
def close (closer : Closer κ) (r : Registry κ) : Except TransportError Unit × Registry κ :=
  closeAll closer { r with registered := [] } (r.registered.map (·.2.client))

/-- Whether a service has a registration. -/
def contains (r : Registry κ) (service : ServiceId) : Bool := Keyed.has service r.registered

end Registry

end HttpCalls
