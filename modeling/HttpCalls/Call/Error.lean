-- What can go wrong with a call. Errors are causes; their wording stands in one
-- place. Only a failure of the transport can be made good by a fallback, and one
-- of those, a missing resource, often counts as an empty answer.
import HttpCalls.Call.Basic
import HttpCalls.Http.Response
import HttpCalls.Time.Duration

namespace HttpCalls

/-- Why no request could be made. -/
inductive RequestFault
  | method | headerName | headerValue | status
deriving DecidableEq, Repr

/-- The fault in words. -/
def RequestFault.text : RequestFault → String
  | .method => "invalid HTTP method"
  | .headerName => "invalid HTTP header name"
  | .headerValue => "failed to parse header value"
  | .status => "invalid status code"

/-- A failure of the transport. -/
inductive TransportError
  /-- A response whose status says that the request failed. -/
  | status (status : Status) (preview : List Char) (contentType : Option (List Char))
  | timeout (after : Duration)
  | network (cause : String)
  | tls (cause : String)
  | bodyTooLarge (limit : Nat)
  | codec (cause : Json.Reader.ParseError)
  | requestBuild (cause : RequestFault)
  | invalidUri (url : String) (reason : String)
  | invalidScheme (scheme : String) (reason : String)
  | noInstance (service : String)
  | closed (service : String)
deriving DecidableEq

namespace TransportError

/-- The failure in words. -/
def message : TransportError → String
  | .status s preview _ => "HTTP " ++ s.text ++ ": " ++ String.ofList preview
  | .timeout after => "Request timed out after " ++ after.short
  | .network cause => "Transport error: " ++ cause
  | .tls cause => "TLS error: " ++ cause
  | .bodyTooLarge limit => "Response body too large: limit " ++ toString limit ++ " bytes"
  | .codec cause => "JSON codec failed: " ++ cause.message
  | .requestBuild cause => "Failed to build request: " ++ cause.text
  | .invalidUri url reason => "Invalid URL '" ++ url ++ "': " ++ reason
  | .invalidScheme scheme reason => "URL scheme '" ++ scheme ++ "' not allowed: " ++ reason
  | .noInstance service => "No available instance for service '" ++ service ++ "'"
  | .closed service => "HTTP client for [" ++ service ++ "] is closed"

/-- The messages of the causes behind the failure. -/
def causes : TransportError → List String
  | .network cause | .tls cause => [cause]
  | .codec cause => [cause.message]
  | .requestBuild cause => [cause.text]
  | _ => []

/-- Whether the resource is missing. -/
def isNotFound : TransportError → Bool
  | .status s _ _ => s = .notFound
  | _ => false

end TransportError

/-- Why a call has no result of the wanted shape. -/
inductive DispatchError
  | serviceResolution (service : ServiceId)
  | transport (error : TransportError)
  | unsupportedStreamType (type : String)
  | fallbackInvocation (declaringType : String) (cause : String)
  | unsupportedConversion (target reason : String)
  | interrupted
deriving DecidableEq

namespace DispatchError

/-- The error in words. -/
def message : DispatchError → String
  | .serviceResolution service =>
    "Invalid service reference " ++ service.bracketed ++ " specified to client"
  | .transport e => e.message
  | .unsupportedStreamType type =>
    "Cannot convert response stream to unsupported stream type: " ++ type
  | .fallbackInvocation type cause =>
    "Error invoking fallback for type [" ++ type ++ "]: " ++ cause
  | .unsupportedConversion target reason => "Cannot convert response to " ++ target ++ ": " ++ reason
  | .interrupted => "Call was interrupted before completion"

/-- The messages of the causes behind the error. -/
def causes : DispatchError → List String
  | .transport e => e.causes
  | .fallbackInvocation _ cause => [cause]
  | _ => []

/-- Whether the resource of the call is missing. -/
def isNotFound : DispatchError → Bool
  | .transport e => e.isNotFound
  | _ => false

/-- Whether a fallback may step in. -/
def isRecoverable : DispatchError → Bool
  | .transport _ => true
  | _ => false

end DispatchError

end HttpCalls
