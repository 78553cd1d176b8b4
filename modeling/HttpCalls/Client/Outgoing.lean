-- Requests on their way out, and the headers that they gain there: what a client
-- fills in, and what is added when the request is written.
import HttpCalls.Decimal.Shortest
import HttpCalls.Http.Method
import HttpCalls.Http.RequestUri
import HttpCalls.Http.Response

namespace HttpCalls

/-- A request that is handed to the network. -/
structure Outgoing where
  method : Method
  uri : RequestUri
  headers : Headers
  body : Option Bytes
deriving DecidableEq

/-- The headers with those that a client fills in: who sends the request, and what a body is. -/
def filledIn (userAgent : HeaderValue) (hasBody : Bool) (headers : Headers) : Headers :=
  let headers := Headers.addIfAbsent headers .userAgent userAgent
  if hasBody then Headers.addIfAbsent headers .contentType .json else headers

namespace Outgoing

/-- The headers with a text under a name, unless the name is there or the text is illegal. -/
def withText (name : HeaderName) (text : List Char) (headers : Headers) : Headers :=
  match HeaderValue.ofText? text with
  | some value => Headers.addIfAbsent headers name value
  | none => headers

/-- The host and the port that a request is for. -/
def host (r : Outgoing) : List Char :=
  (r.uri.authority.reverse.takeWhile (· ≠ '@')).reverse

/-- The headers as they are written: with the packings that are understood, the host, and the
length of a body. -/
def writtenHeaders (r : Outgoing) : Headers :=
  let headers := withText .host r.host (Headers.addIfAbsent r.headers .acceptEncoding .packings)
  match r.body with
  | some body => withText .contentLength (Decimal.digits body.length) headers
  | none => headers

end Outgoing

end HttpCalls
