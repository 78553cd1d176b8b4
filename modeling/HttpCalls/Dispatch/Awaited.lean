-- Awaiting an exchange: pulling as many items as the wanted shape takes, and no
-- more, and keeping count of them. A failure may then be made good: a missing
-- resource is an empty value, and other failures have their fallback.
import HttpCalls.Dispatch.Fallback

namespace HttpCalls

/-- What came of awaiting, and how many items were pulled for it. -/
structure Awaited (α : Type) where
  result : Except DispatchError α
  pulled : Nat

/-- Awaits the response of an exchange: the first item decides. -/
def awaitResponse : List Item → Awaited Response
  | [] => ⟨.error (.unsupportedConversion "response" "transport completed without a response"), 0⟩
  | .ok reply :: _ => ⟨reply.toResponse, 1⟩
  | .error e :: _ => ⟨.error e, 1⟩

/-- Awaits the end of an exchange, up to the first error. -/
def awaitEnd : List Item → Awaited Unit
  | [] => ⟨.ok (), 0⟩
  | .ok _ :: more =>
    let rest := awaitEnd more
    ⟨rest.result, rest.pulled + 1⟩
  | .error e :: _ => ⟨.error e, 1⟩

/-- Awaits the value of an exchange: the first item decides, and none is `null`. -/
def awaitValue : List Item → Awaited Json
  | [] => ⟨.ok .null, 0⟩
  | .ok reply :: _ => ⟨reply.value, 1⟩
  | .error e :: _ => ⟨.error e, 1⟩

/-! ## Settling -/

/-- How an awaited call ends: its result, the items pulled and the fallbacks used. -/
structure Settled (α : Type) where
  result : Except DispatchError α
  pulled : Nat
  invoked : List Invocation := []

/-- The value of an exchange. A missing resource is `null`, and a fallback may help out. -/
def settleValue (found : Option Resolved) (params : List Param) (items : List Item) : Settled Json :=
  let awaited := awaitValue items
  match awaited.result with
  | .ok v => { result := .ok v, pulled := awaited.pulled }
  | .error e =>
    if e.isNotFound then { result := .ok .null, pulled := awaited.pulled }
    else
      let t := recover found params e
      { result := t.result.bind Reply.value, pulled := awaited.pulled, invoked := t.invoked }

/-- The end of an exchange. A fallback may help out, whatever it answers. -/
def settleEnd (found : Option Resolved) (params : List Param) (items : List Item) : Settled Unit :=
  let awaited := awaitEnd items
  match awaited.result with
  | .ok () => { result := .ok (), pulled := awaited.pulled }
  | .error e =>
    let t := recover found params e
    { result := t.result.map fun _ => (), pulled := awaited.pulled, invoked := t.invoked }

/-- The response of an exchange. No fallback helps out. -/
def settleResponse (items : List Item) : Settled Response :=
  let awaited := awaitResponse items
  { result := awaited.result, pulled := awaited.pulled }

namespace Settled

/-- The same end with another result. -/
def map {α β : Type} (f : α → β) (s : Settled α) : Settled β :=
  { result := s.result.map f, pulled := s.pulled, invoked := s.invoked }

end Settled

/-- The optional value of a value: `null` is none. -/
def optionalOf (v : Json) : Option Json := if v.isNull then none else some v

end HttpCalls
