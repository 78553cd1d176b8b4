-- Replies: what one exchange gives, a whole response or the value of its body. An
-- item is a reply or the error that came in its place.
import HttpCalls.Call.Error

namespace HttpCalls

/-- What an exchange gives. -/
inductive Reply
  | response (r : Response)
  | body (v : Json)
deriving DecidableEq

/-- A reply, or an error in its place. -/
abbrev Item := Except DispatchError Reply

namespace Reply

/-- The value of a reply. A response without a single octet is `null`. -/
def value : Reply → Except DispatchError Json
  | .body v => .ok v
  | .response r =>
    if r.body.isEmpty then .ok .null
    else r.json.mapError fun e => .unsupportedConversion "value" e.message

/-- The response of a reply. -/
def toResponse : Reply → Except DispatchError Response
  | .response r => .ok r
  | .body _ => .error (.unsupportedConversion "response" "reply carries a decoded body only")

end Reply

/-! ## Outcomes -/

/-- The result of a call in its wanted shape; `φ` and `σ` are the futures and the streams. -/
inductive Outcome (φ σ : Type)
  | value (v : Json)
  | optional (v : Option Json)
  | response (r : Response)
  | unit
  | future (f : φ)
  | stream (s : σ)
  /-- The call has no mapping to HTTP, and nobody took it. -/
  | proceed (call : Call)

namespace Outcome

variable {φ σ : Type}

/-- What an outcome is, in words. -/
def kind : Outcome φ σ → String
  | .value _ => "outcome is a value"
  | .optional _ => "outcome is an optional value"
  | .response _ => "outcome is a response"
  | .unit => "outcome is empty"
  | .future _ => "outcome is a future"
  | .stream _ => "outcome is a stream"
  | .proceed _ => "call was not dispatched"

/-- The error of an outcome that is not what was asked for. -/
def unlike {α : Type} (o : Outcome φ σ) (target : String) : Except DispatchError α :=
  .error (.unsupportedConversion target o.kind)

/-- The value of an outcome; none is `null`. -/
def toValue : Outcome φ σ → Except DispatchError Json
  | .value v => .ok v
  | .optional v => .ok (v.getD .null)
  | o => o.unlike "value"

/-- The optional value of an outcome; a value `null` is none. -/
def toOptional : Outcome φ σ → Except DispatchError (Option Json)
  | .optional v => .ok v
  | .value .null => .ok none
  | .value v => .ok (some v)
  | o => o.unlike "optional"

/-- The response of an outcome. -/
def toResponse : Outcome φ σ → Except DispatchError Response
  | .response r => .ok r
  | o => o.unlike "response"

/-- The future of an outcome. -/
def toFuture : Outcome φ σ → Except DispatchError φ
  | .future f => .ok f
  | o => o.unlike "future"

/-- The stream of an outcome. -/
def toStream : Outcome φ σ → Except DispatchError σ
  | .stream s => .ok s
  | o => o.unlike "stream"

end Outcome

end HttpCalls
