-- From a service to the balancer of its endpoints. The first segment decides: a URL
-- stands for itself, a path for the local server, and any other word for the list of
-- that name.
import HttpCalls.Endpoint.Balancer
import HttpCalls.Keyed
import HttpCalls.Text.Pieces

namespace HttpCalls

/-- A URL in the settings that cannot be read, and whose it is. -/
structure UrlFault where
  owner : String
  url : String
  reason : Url.Fault
deriving DecidableEq, Repr

/-- The fault in words. -/
def UrlFault.message (f : UrlFault) : String :=
  "Invalid URL '" ++ f.url ++ "' for " ++ f.owner ++ ": " ++ f.reason.text

/-- What services are known. -/
structure Resolver where
  localServer : Option Url := none
  lists : Keyed String (List Endpoint) := []

namespace Resolver

/-- Entries in the order of their names. -/
def byName {α : Type} (entries : List (String × α)) : List (String × α) :=
  entries.mergeSort fun a b => a.1 ≤ b.1

/-- Reads a URL of an owner. -/
def readUrl (owner url : String) : Except UrlFault Url :=
  (Url.parse url.toList).mapError fun reason => { owner, url, reason }

/-- Reads the lists of URLs, each under its name, in the order given. -/
def readLists : List (String × List String) → Except UrlFault (Keyed String (List Endpoint))
  | [] => .ok []
  | (name, urls) :: more => do
    let urls ← urls.mapM (readUrl name)
    let lists ← readLists more
    return (name, Endpoint.numbered name urls) :: lists

/-- Reads the settings: the local server first, then the services by name. -/
def ofSettings (localServer : Option String) (services : List (String × List String)) :
    Except UrlFault Resolver := do
  let localServer ← localServer.mapM (readUrl "local_server_url")
  let lists ← readLists (byName services)
  return { localServer, lists }

/-- The beginnings of a segment that is a URL. -/
def urlBeginnings : List (List Char) := ["http://".toList, "https://".toList]

/-- The balancer of a service, if it names anything that is known. -/
def resolve (r : Resolver) (service : ServiceId) : Option Balancer :=
  match service.primary? with
  | none => none
  | some reference =>
    if urlBeginnings.any (Text.startsWith · reference.toList) then
      match Url.parse reference.toList with
      | .ok url => some (.fixed (.ofUrl url))
      | .error _ => none
    else if Text.startsWith ['/'] reference.toList then
      r.localServer.map fun url => .fixed (.ofUrl url)
    else
      (Keyed.get? reference r.lists).map fun endpoints =>
        .rotating { service := reference } endpoints

end Resolver

end HttpCalls
