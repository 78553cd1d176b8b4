-- Endpoints of a service and the choice of one for each request: always the same
-- one, or one after the other in turn. The turn is a word of 64 bits that wraps,
-- and it moves on only when there was something to choose.
import HttpCalls.Call.Error
import HttpCalls.Call.Shown
import HttpCalls.Url.Basic

namespace HttpCalls

/-- A place that requests of a service can go to. -/
structure Endpoint where
  id : String
  url : Url
deriving DecidableEq, Repr

namespace Endpoint

/-- The endpoint that is known by its URL only. -/
def ofUrl (url : Url) : Endpoint := { id := String.ofList url.text, url }

/-- The endpoints of a list under a name, numbered from `i` on. -/
def numberedFrom (name : String) (i : Nat) : List Url → List Endpoint
  | [] => []
  | url :: more => { id := name ++ "-" ++ toString i, url } :: numberedFrom name (i + 1) more

/-- The endpoints of a list under a name. -/
def numbered (name : String) (urls : List Url) : List Endpoint := numberedFrom name 0 urls

theorem numberedFrom_url (name : String) (urls : List Url) (i : Nat) :
    (numberedFrom name i urls).map (·.url) = urls := by
  induction urls generalizing i with
  | nil => rfl
  | cons url more ih => simp [numberedFrom, ih]

theorem numbered_url (name : String) (urls : List Url) : (numbered name urls).map (·.url) = urls :=
  numberedFrom_url name urls 0

end Endpoint

/-! ## Taking turns -/

/-- The state of a choice in turn, for the service it is named after. -/
structure Rotation where
  service : String
  turn : UInt64 := 0
deriving DecidableEq, Repr

namespace Rotation

/-- Chooses the endpoint whose turn it is. -/
def select (r : Rotation) (endpoints : List Endpoint) : Except TransportError Endpoint × Rotation :=
  if h : endpoints = [] then (.error (.noInstance r.service), r)
  else
    have _bound := Nat.mod_lt r.turn.toNat (List.length_pos_iff.2 h)
    (.ok endpoints[r.turn.toNat % endpoints.length], { r with turn := r.turn + 1 })

/-- The shown form of a rotation. -/
def shown (r : Rotation) : String :=
  shownPartly "RoundRobinLoadBalancer" [("service", Quoted.ofString r.service)]

end Rotation

/-! ## Balancers -/

/-- A way of choosing endpoints. -/
inductive Balancer
  /-- Always the same endpoint. -/
  | fixed (endpoint : Endpoint)
  /-- The endpoints of a list in turn. -/
  | rotating (rotation : Rotation) (endpoints : List Endpoint)
deriving DecidableEq, Repr

namespace Balancer

/-- Chooses the endpoint of the next request. -/
def select : Balancer → Except TransportError Endpoint × Balancer
  | .fixed endpoint => (.ok endpoint, .fixed endpoint)
  | .rotating rotation endpoints =>
    let (choice, rotation) := rotation.select endpoints
    (choice, .rotating rotation endpoints)

end Balancer

end HttpCalls
