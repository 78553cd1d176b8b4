-- Services and the endpoints that settings lead them to. The first segment of a service decides:
-- one that begins as a URL stands for that URL, one that begins with a slash for the local server,
-- and any other for the URLs of its name, which are taken in turn.
import HttpCalls.Proofs.Endpoint.FaultyUrls
import HttpCalls.Proofs.Endpoint.Rounds

namespace HttpCalls

/-! ## What a balancer chooses -/

namespace Balancer

/-- What is chosen for so many requests, one after the other. -/
def choices (b : Balancer) : Nat → List (Except TransportError Endpoint)
  | 0 => []
  | m + 1 => b.select.1 :: b.select.2.choices m

section
variable {endpoints : List Endpoint}

end

end Balancer

/-! ## What settings lead to -/

namespace Resolver

section
variable {service : ServiceId} {reference : String} (r : Resolver)

end

end Resolver

namespace Settings

section
variable {s : Settings} {r : Resolver}

end

end Settings

/-! ## The law -/

end HttpCalls
