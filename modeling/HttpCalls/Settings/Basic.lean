-- All settings, and the layers that they come from. A later layer wins: tables are put
-- together entry by entry, and anything else takes the place of what was there.
import HttpCalls.Endpoint.Resolver
import HttpCalls.Settings.Environment
import HttpCalls.Settings.Http
import HttpCalls.Yaml.Reader

namespace HttpCalls

/-- All settings. -/
structure Settings where
  http : HttpSettings := {}
  /-- The URL of the server for services that are paths. -/
  localServer : Option String := none
  /-- The URLs of each service, in the order of the names. -/
  services : List (String × List String) := []
deriving DecidableEq, Repr

namespace Settings

/-! ## Reading -/

/-- The settings of a service by their names. -/
def serviceFields : List (Datum.Field (List String)) :=
  [{ name := "urls", set := fun v _ => v.asList Datum.asText }]

/-- Reads the settings of a service. -/
def readService (v : Datum) : Typed (List String) := v.asRecord .lenient "ServiceConfig" serviceFields []

/-- All settings by their names. -/
def fields : List (Datum.Field Settings) :=
  [{ name := "http", set := fun v s => return { s with http := ← HttpSettings.ofDatum .lenient v } },
   { name := "local_server_url"
     set := fun v s => return { s with localServer := ← v.asOptional Datum.asText } },
   { name := "services", set := fun v s => return { s with services := ← v.asTable readService } }]

/-- Reads all settings; what is not set keeps its default. -/
def ofDatum (v : Datum) : Typed Settings := v.asRecord .lenient "DispatchConfig" fields {}

/-! ## Writing -/

/-- All settings in JSON. -/
def toJson (s : Settings) : Json :=
  let urls (l : List String) : Json := .array (l.map .string)
  .object
    [("http", s.http.toJson),
     ("local_server_url",
       match s.localServer with
       | some url => .string url
       | none => .null),
     ("services", .object (s.services.map fun (name, l) => (name, .object [("urls", urls l)])))]

/-! ## Layers -/

mutual

/-- A later value over an earlier one. -/
def merged (base : Datum) : Datum → Datum
  | .table entries =>
    match base with
    | .table old => .table (mergedEntries old entries)
    | _ => .table entries
  | v => v

/-- Later entries over earlier ones. -/
def mergedEntries (old : List (String × Datum)) : List (String × Datum) → List (String × Datum)
  | [] => old
  | (name, v) :: more =>
    let v :=
      match old.lookup name with
      | some earlier => merged earlier v
      | none => v
    mergedEntries (Datum.putSorted name v old) more

end

/-- Why settings cannot be loaded. -/
inductive LoadFault
  /-- The document is no table that can be read. -/
  | document
  | misplaced (m : Misplaced)
deriving DecidableEq, Repr

/-- The settings of layers, the last of which counts most. -/
def ofLayers (layers : List Datum) : Except LoadFault Settings :=
  (ofDatum (layers.foldl merged (.table []))).mapError .misplaced

/-- The layer of a document. -/
def documentLayer (yaml : String) : Except LoadFault Datum :=
  match Yaml.table? yaml with
  | some d => .ok d
  | none => .error .document

/-- The settings of a document. -/
def ofYaml (yaml : String) : Except LoadFault Settings := do
  ofLayers [← documentLayer yaml]

/-- The layer of environment variables, the last of which counts most. -/
def environmentLayer (environment : List (String × String)) : Datum :=
  (Environment.settings environment).foldl merged (.table [])

/-- The settings of a document, if there is one, and of environment variables over it. -/
def load (yaml : Option String) (environment : List (String × String)) : Except LoadFault Settings := do
  let layers ← yaml.toList.mapM documentLayer
  ofLayers (layers ++ [environmentLayer environment])

/-- The services that settings name. -/
def resolver (s : Settings) : Except UrlFault Resolver := Resolver.ofSettings s.localServer s.services

end Settings

end HttpCalls
