-- The meeting point of a running exchange and the caller who waits for it. The
-- exchange may lay down one reply and completes the call once; the caller holds a
-- future, which ends with that completion or, if none came, with an interruption.
import HttpCalls.Dispatch.Fallback

namespace HttpCalls

/-- How a future ends: a reply, no reply, or an error. -/
abbrev CallResult := Except DispatchError (Option Reply)

/-- A call that is under way. -/
structure Completion where
  /-- The reply that was laid down. -/
  buffered : Option Reply := none
  /-- Whether the call was completed. -/
  completed : Bool := false
  /-- Whether the caller still holds the future. -/
  awaited : Bool := true
  /-- The result that reached the future. -/
  delivered : Option CallResult := none

namespace Completion

/-- Lays down a reply; only the first one is taken. -/
def offer (c : Completion) (reply : Reply) : Bool × Completion :=
  match c.buffered with
  | some _ => (false, c)
  | none => (true, { c with buffered := some reply })

/-- Completes the call; only the first completion counts, and a dropped future misses it. -/
def complete (c : Completion) (result : CallResult) : Bool × Completion :=
  if c.completed then (false, c)
  else (true, { c with completed := true, delivered := if c.awaited then some result else none })

/-- Whether nobody waits any more, or nothing is left to wait for. -/
def isAbandoned (c : Completion) : Bool := c.completed || !c.awaited

/-- The caller gives up the future. -/
def drop (c : Completion) : Completion := { c with awaited := false }

/-- How the future ends when the exchange is over. -/
def outcome (c : Completion) : CallResult := c.delivered.getD (.error .interrupted)

end Completion

/-! ## The bridge -/

/-- What a running exchange brings: an item, or its own death. -/
inductive Arrival
  | item (i : Item)
  | crash

/-- The items that arrive before a death. -/
def Arrival.items : List Arrival → List Item
  | .item i :: more => i :: items more
  | _ => []

/-- A bridged call: its completion, the items pulled and the fallbacks used. -/
structure Bridged where
  completion : Completion
  pulled : Nat
  invoked : List Invocation := []

/-- How a bridged call ends when its exchange failed. -/
def bridgeError (found : Option Resolved) (params : List Param) (error : DispatchError) :
    Traced CallResult :=
  if error.isNotFound then { result := .ok none }
  else
    let t := recover found params error
    { result := t.result.map some, invoked := t.invoked }

/-- Carries the first item of an exchange to the future, with a fallback for a failure. -/
def bridge (element : Element) (found : Option Resolved) (params : List Param) (c : Completion) :
    List Arrival → Bridged
  | [] => { completion := (c.complete (.ok c.buffered)).2, pulled := 0 }
  | .crash :: _ => { completion := c, pulled := 1 }
  | .item i :: _ =>
    if c.isAbandoned then { completion := c, pulled := 1 }
    else
      match i with
      | .ok reply =>
        let c := if element = .noContent then c else (c.offer reply).2
        { completion := (c.complete (.ok c.buffered)).2, pulled := 1 }
      | .error e =>
        let t := bridgeError found params e
        { completion := (c.complete t.result).2, pulled := 1, invoked := t.invoked }

end HttpCalls
