-- Calls that are seen through to their end. A call hands out a future or a stream
-- before its exchange has run. Here the future runs while its caller waits, and the
-- stream is collected, after whatever else has happened to the session meanwhile.
import HttpCalls.Dispatch.Dispatcher

namespace HttpCalls

variable {κ τ ω : Type}

/-! ## The end of a call -/

/-- What the caller of a call has in the end. -/
inductive Ending (τ : Type)
  /-- The outcome of an awaited call. -/
  | outcome (o : CallOutcome τ)
  /-- The reply that a future came to. -/
  | resolved (reply : Option Reply)
  /-- The items of a stream. -/
  | collected (items : List Item)

/-- How a call ends: with what its caller has, or with an error. -/
abbrev Ended (τ : Type) := Except DispatchError (Ending τ)

/-- What was done first, and what was done then. -/
def Effects.andThen (first next : Effects) : Effects :=
  { started := first.started ++ next.started
    pulled := first.pulled + next.pulled
    invoked := first.invoked ++ next.invoked }

/-- Carries out a call and sees it through. What it hands out is used after `meanwhile`. -/
def Dispatcher.seeThrough (d : Dispatcher τ) (t : Transport κ τ ω)
    (meanwhile : Session κ ω → Session κ ω) (call : Call) (s : Session κ ω) :
    Performed κ ω (Ended τ) :=
  let begun := d.invoke t call s
  match begun.result with
  | .ok (.future f) =>
    let ran := f.run t true (meanwhile begun.session)
    { result := ran.result.map .resolved
      effects := begun.effects.andThen ran.effects
      session := ran.session }
  | .ok (.stream f) =>
    let taken := f.collect t none (meanwhile begun.session)
    { result := .ok (.collected taken.result)
      effects := begun.effects.andThen taken.effects
      session := taken.session }
  | .ok o => { result := .ok (.outcome o), effects := begun.effects, session := begun.session }
  | .error e => { result := .error e, effects := begun.effects, session := begun.session }

/-- One exchange on its own: it is started, and it runs after `between`. -/
def exchanged (t : Transport κ τ ω) (between : Session κ ω → Session κ ω) (client : Nat)
    (kind : ExchangeKind) (request : Request) (s : Session κ ω) : List Arrival × Session κ ω :=
  let (ticket, s) := s.start t kind request
  (between s).redeem t client ticket

/-- The session changes before the exchange of a shape runs only if nobody awaits it. -/
def ReturnShape.between (shape : ReturnShape) (meanwhile : Session κ ω → Session κ ω) :
    Session κ ω → Session κ ω :=
  if shape.isNonBlocking then meanwhile else id

@[simp]
theorem items_map_item (items : List Item) : Arrival.items (items.map .item) = items := by
  induction items with
  | nil => rfl
  | cons item more ih => simp [Arrival.items, ih]

/-- A transport that brings the same items to every exchange. -/
def Transport.bringing (items : List Item) : Transport Unit Unit Unit where
  create _ _ _ _ := (.ok (), ())
  start _ _ _ := ((), ())
  redeem _ _ _ := (items.map .item, (), ())
  close _ := (.ok (), ())

/-! ## What a call comes to -/

section
variable {d : Dispatcher τ} {t : Transport κ τ ω} {meanwhile : Session κ ω → Session κ ω}
  {call : Call} {mapping : Mapping} {registration : Registration} {e : DispatchError}
  {s s' : Session κ ω}

theorem invoke_unregistered (hm : call.mapping = some mapping)
    (hr : s.register d.resolver t call = (.error e, s')) :
    d.invoke t call s = { result := .error e, session := s' } := by
  simp [Dispatcher.invoke, hm, hr]

theorem invoke_registered (hm : call.mapping = some mapping)
    (hr : s.register d.resolver t call = (.ok registration, s')) :
    d.invoke t call s = d.perform t call registration.client
      (mappedRequest registration.contextPath mapping call.params) s' := by
  simp [Dispatcher.invoke, hm, hr]

theorem seeThrough_unregistered (hm : call.mapping = some mapping)
    (hr : s.register d.resolver t call = (.error e, s')) :
    d.seeThrough t meanwhile call s = { result := .error e, session := s' } := by
  simp [Dispatcher.seeThrough, invoke_unregistered hm hr]

/-- An awaited call ends with what was settled on the items of its one exchange. -/
theorem seeThrough_awaiting {α : Type} {client : Nat} {kind : ExchangeKind} {request : Request}
    {settle : List Item → Settled α} {outcome : α → CallOutcome τ}
    (hp : d.invoke t call s = Dispatcher.awaiting t client kind request settle outcome s')
    (hf : ∀ a f, outcome a ≠ .future f) (hs : ∀ a f, outcome a ≠ .stream f) :
    d.seeThrough t meanwhile call s =
      let exchange := exchanged t id client kind request s'
      let settled := settle (Arrival.items exchange.1)
      { result := settled.result.map fun a => .outcome (outcome a)
        effects := {
          started := [(kind, request)], pulled := settled.pulled, invoked := settled.invoked }
        session := exchange.2 } := by
  have hsettle : settle (Arrival.items (exchanged t id client kind request s').1) =
      settle (Arrival.items ((s'.start t kind request).2.redeem t client
        (s'.start t kind request).1).1) := rfl
  unfold Dispatcher.seeThrough
  rw [hp]
  simp only [Dispatcher.awaiting, hsettle]
  rcases hr : (settle _).result with e | a
  · rfl
  · simp only [Except.map]
    split
    · rename_i f hof
      simp only [Except.ok.injEq] at hof
      exact absurd hof (hf a f)
    · rename_i f hof
      simp only [Except.ok.injEq] at hof
      exact absurd hof (hs a f)
    · rename_i o _ _ ho
      simp only [Except.ok.injEq] at ho
      rw [← ho]
      rfl
    · rename_i he
      cases he

/-- A future comes to what the bridge carries over from its one exchange. -/
theorem seeThrough_future {client : Nat} {element : Element} {request : Request}
    {found : Option Resolved} {params : List Param}
    (hp : d.invoke t call s = Dispatcher.issuing t call element request
      (fun ticket => .ok (.future { client, ticket, element, found, params })) s') :
    d.seeThrough t meanwhile call s =
      let sent := issuedRequest call element request
      let exchange := exchanged t meanwhile client element.exchangeKind sent s'
      let bridged := bridge element found params {} exchange.1
      { result := bridged.completion.outcome.map .resolved
        effects := {
          started := [(element.exchangeKind, sent)]
          pulled := bridged.pulled, invoked := bridged.invoked }
        session := exchange.2 } := by
  unfold Dispatcher.seeThrough
  rw [hp]
  simp [Dispatcher.issuing, Pending.run, Effects.andThen, exchanged]

/-- A stream comes to the items of its one exchange in their shape, unless nothing is asked for. -/
theorem seeThrough_stream {client : Nat} {element : Element} {request : Request}
    {shape : Delivery → Delivery}
    (hp : d.invoke t call s = Dispatcher.issuing t call element request
      (fun ticket => .ok (.stream { client, ticket, shape })) s')
    (ha : ((shape (.ofItems [])).take none).asked ≠ 0) :
    d.seeThrough t meanwhile call s =
      let sent := issuedRequest call element request
      let exchange := exchanged t meanwhile client element.exchangeKind sent s'
      let items := Arrival.items exchange.1
      let taken := (shape (.ofItems items)).take none
      { result := .ok (.collected taken.items)
        effects := {
          started := [(element.exchangeKind, sent)]
          pulled := min taken.asked items.length, invoked := taken.invoked }
        session := exchange.2 } := by
  unfold Dispatcher.seeThrough
  rw [hp]
  simp [Dispatcher.issuing, Flow.collect, ha, Effects.andThen, exchanged]

theorem flow_eq {convert : Converter} {type : String} (client : Nat) (ticket : τ)
    (hc : d.converters.converter type = .ok convert) :
    d.flow call client type ticket = .ok (.stream
      { client, ticket
        shape := fun source =>
          applyChain d.transformers (d.fallbacks.find call.operation) call.params
            (convert source) }) := by
  simp [Dispatcher.flow, hc, bind, Except.bind, pure, Except.pure]

end

end HttpCalls
