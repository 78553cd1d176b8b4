-- The settings of the HTTP clients.
import HttpCalls.Json.Writer
import HttpCalls.Time.Spoken
import HttpCalls.Typed.Reading

namespace HttpCalls

/-- Whether requests may go out without TLS. -/
inductive Security
  | tlsOnly | allowInsecureHttp
deriving DecidableEq, Repr

/-- The names of the choices. -/
def Security.names : List (String × Security) :=
  [("tls_only", .tlsOnly), ("allow_insecure_http", .allowInsecureHttp)]

/-- The name of a choice. -/
def Security.name : Security → String
  | .tlsOnly => "tls_only"
  | .allowInsecureHttp => "allow_insecure_http"

/-- Where the certificates come from that are trusted. -/
inductive TlsRoots
  | webpki | native
deriving DecidableEq, Repr

/-- The names of the choices. -/
def TlsRoots.names : List (String × TlsRoots) := [("webpki", .webpki), ("native", .native)]

/-- The name of a choice. -/
def TlsRoots.name : TlsRoots → String
  | .webpki => "webpki"
  | .native => "native"

/-- The settings of the HTTP clients. -/
structure HttpSettings where
  /-- How long a request may take. -/
  requestTimeout : Duration := .ofSeconds 30
  /-- How many octets the body of a response may have. -/
  maxBodySize : Nat := 10485760
  userAgent : String := "modkit-http-dispatch/0.2.8"
  security : Security := .tlsOnly
  roots : TlsRoots := .webpki
  /-- How long a connection may be idle. -/
  idleTimeout : Duration := .ofSeconds 90
  maxIdlePerHost : Nat := 32
deriving DecidableEq, Repr

namespace HttpSettings

/-- Reads a length of time. -/
def readDuration (v : Datum) : Typed Duration := do
  let text ← v.asText
  (Duration.ofSpoken text).mapError fun e => ⟨[], .custom e.text⟩

/-- The settings by their names. -/
def fields (rigour : Rigour) : List (Datum.Field HttpSettings) :=
  [{ name := "request_timeout", set := fun v s => return { s with requestTimeout := ← readDuration v } },
   { name := "max_body_size", set := fun v s => return { s with maxBodySize := ← v.asSize } },
   { name := "user_agent", set := fun v s => return { s with userAgent := ← v.asText } },
   { name := "transport"
     set := fun v s => return { s with security := ← v.asChoice rigour "TransportSecurity" Security.names } },
   { name := "tls_roots"
     set := fun v s => return { s with roots := ← v.asChoice rigour "TlsRootConfig" TlsRoots.names } },
   { name := "pool_idle_timeout", set := fun v s => return { s with idleTimeout := ← readDuration v } },
   { name := "pool_max_idle_per_host", set := fun v s => return { s with maxIdlePerHost := ← v.asSize } }]

/-- Reads the settings; what is not set keeps its default. -/
def ofDatum (rigour : Rigour) (v : Datum) : Typed HttpSettings :=
  v.asRecord rigour "HttpClientConfig" (fields rigour) {}

/-- Reads the settings from JSON. -/
def ofJson (v : Json) : Typed HttpSettings := ofDatum .strict v.datum

/-- The settings in JSON. -/
def toJson (s : HttpSettings) : Json :=
  .object
    [("request_timeout", .string s.requestTimeout.spoken), ("max_body_size", .ofNat s.maxBodySize),
     ("user_agent", .string s.userAgent), ("transport", .string s.security.name),
     ("tls_roots", .string s.roots.name), ("pool_idle_timeout", .string s.idleTimeout.spoken),
     ("pool_max_idle_per_host", .ofNat s.maxIdlePerHost)]

end HttpSettings

end HttpCalls
