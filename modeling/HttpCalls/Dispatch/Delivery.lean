-- Streams of items that are handed on one by one. A step of a delivery is an item
-- with what it cost: how often the source had to be asked for it, and which
-- fallbacks were used. Converters shape a stream; transformers work on its items.
import HttpCalls.Dispatch.Fallback

namespace HttpCalls

/-- An item that is handed on, and its cost. -/
structure Step where
  item : Item
  /-- How often the source is asked for this item. -/
  asked : Nat := 1
  invoked : List Invocation := []

/-- The steps of a stream, and how often the source is asked to find that there are no more. -/
structure Delivery where
  steps : List Step
  ending : Nat := 0

/-- How often the source is asked for some steps. -/
def askedFor : List Step → Nat
  | [] => 0
  | step :: more => step.asked + askedFor more

namespace Delivery

/-- The items of a source as they come. -/
def ofItems (items : List Item) : Delivery := { steps := items.map fun item => { item }, ending := 1 }

/-- How often the source is asked when all steps are taken. -/
def total (d : Delivery) : Nat := askedFor d.steps + d.ending

/-! ## Shapes -/

/-- At most the first item. -/
def atMostOne (d : Delivery) : Delivery :=
  match d.steps with
  | [] => d
  | step :: _ => { steps := [step] }

/-- Exactly one item; an error if there is none. -/
def exactlyOne (d : Delivery) : Delivery :=
  match d.steps with
  | [] =>
    { steps := [{ item := .error (.unsupportedConversion "single" "stream completed without an item")
                  asked := d.ending }] }
  | step :: _ => { steps := [step] }

/-- No item, without asking the source. -/
def nothing (_ : Delivery) : Delivery := { steps := [] }

/-- The items behind the first one, which is asked for all the same. -/
def withoutFirst (d : Delivery) : Delivery :=
  match d.steps with
  | [] => d
  | [first] => { steps := [], ending := first.asked + d.ending }
  | first :: second :: more =>
    { d with steps := { second with asked := first.asked + second.asked } :: more }

/-- All items in reverse order, the whole source being asked for the first of them. -/
def reversed (d : Delivery) : Delivery :=
  match d.steps.reverse with
  | [] => { steps := [], ending := d.ending }
  | last :: more =>
    { steps := { last with asked := d.total } :: more.map fun step => { step with asked := 0 } }

/-! ## Items -/

/-- The steps with their items changed, each change leaving its own trace. -/
def mapItems (f : Item → Traced Item) (d : Delivery) : Delivery :=
  { d with
    steps := d.steps.map fun step =>
      let t := f step.item
      { step with item := t.result, invoked := step.invoked ++ t.invoked } }

/-! ## Taking -/

/-- What a reader of a stream has: items, what they cost and the fallbacks used. -/
structure Taken where
  items : List Item
  asked : Nat
  invoked : List Invocation

/-- Takes at most `limit` items, all of them without a limit. -/
def take (d : Delivery) (limit : Option Nat) : Taken :=
  let steps :=
    match limit with
    | some n => d.steps.take n
    | none => d.steps
  let reachesEnd : Bool :=
    match limit with
    | some n => d.steps.length < n
    | none => true
  { items := steps.map (·.item)
    asked := askedFor steps + if reachesEnd then d.ending else 0
    invoked := steps.flatMap (·.invoked) }

end Delivery

/-! ## Converters -/

/-- A way of shaping a stream. -/
abbrev Converter := Delivery → Delivery

/-- Converters by the names of their stream types. -/
abbrev Converters := Keyed String Converter

namespace Converters

/-- The stream types that are always there. -/
def standard : Converters :=
  [("stream", id), ("single", Delivery.exactlyOne), ("maybe", Delivery.atMostOne)]

/-- The converters with one more, in the place of an older one of its name. -/
def register (c : Converters) (type : String) (converter : Converter) : Converters :=
  Keyed.put type converter c

/-- Whether there is a converter for a type. -/
def supports (c : Converters) (type : String) : Bool := Keyed.has type c

/-- The converter for a type. -/
def converter (c : Converters) (type : String) : Except DispatchError Converter :=
  match Keyed.get? type c with
  | some f => .ok f
  | none => .error (.unsupportedStreamType type)

end Converters

/-! ## Transformers -/

/-- A way of working on the items of a stream, with the fallback and the parameters of the call. -/
abbrev Transformer := Option Resolved → List Param → Delivery → Delivery

/-- Puts the answer of the fallback in the place of each failure but a missing resource. -/
def fallbackTransformer : Transformer := fun found params d =>
  d.mapItems fun item =>
    match item with
    | .error e => if e.isNotFound then { result := .error e } else recover found params e
    | .ok reply => { result := .ok reply }

/-- All transformers of a chain, one after the other. -/
def applyChain (chain : List Transformer) (found : Option Resolved) (params : List Param)
    (d : Delivery) : Delivery :=
  chain.foldl (fun d t => t found params d) d

end HttpCalls
