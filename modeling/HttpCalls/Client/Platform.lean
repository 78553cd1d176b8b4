-- What clients find where they run: the cryptography for TLS and the certificates of the system,
-- and whether requests without TLS are built in. Connections cannot be prepared if no certificate
-- that is to be trusted can be read, or if the cryptography does not serve.
import HttpCalls.Call.Error
import HttpCalls.Settings.Http

namespace HttpCalls

/-- Where clients run. It stays the same for all of them: the certificates of the system are looked
up once, and other cryptography than the usual one is installed before the first client is made. -/
structure Platform where
  insecureBuiltIn : Bool := true
  /-- The certificates of the system, each with whether it can be read. -/
  certificates : List Bool := [true]
  /-- Why the cryptography that is installed has no safe version of TLS, if it has none. -/
  cryptoFault : Option String := none
deriving DecidableEq, Repr

namespace Platform

/-- Takes the certificates of the system as trusted, those that can be read. -/
def trustSystem (p : Platform) : Except TransportError Unit :=
  if p.certificates = [] then
    .error (.tls "no native root CA certificates found in OS certificate store")
  else if true ∈ p.certificates then .ok ()
  else
    .error (.tls ("none of the " ++ toString p.certificates.length ++
      " native root certificates could be parsed"))

/-- Takes the cryptography that is installed, if it serves. -/
def takeCrypto (p : Platform) : Except TransportError Unit :=
  match p.cryptoFault with
  | some cause => .error (.tls cause)
  | none => .ok ()

/-- Prepares connections. The certificates that are built in can always be read. -/
def connect (p : Platform) (roots : TlsRoots) : Except TransportError Unit := do
  if roots = .native then p.trustSystem
  p.takeCrypto

end Platform

end HttpCalls
