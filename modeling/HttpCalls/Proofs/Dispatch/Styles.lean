-- One call in its styles. Awaited as a value or as an optional value, left to a future
-- of its body, or collected from a stream of at most one item, a call makes the same
-- thing of the same items. The styles differ in how they show a missing resource.
import HttpCalls.Proofs.Dispatch.FallbackPolicy

namespace HttpCalls

variable {κ τ ω : Type}

/-! ## Agreement -/

/-- The call with its result wanted in another shape. -/
def Call.shaped (call : Call) (shape : ReturnShape) : Call := { call with returns := shape }

section
variable (call : Call) (shape : ReturnShape)

@[simp]
theorem shaped_returns : (call.shaped shape).returns = shape := rfl

@[simp]
theorem shaped_operation : (call.shaped shape).operation = call.operation := rfl

@[simp]
theorem shaped_params : (call.shaped shape).params = call.params := rfl

@[simp]
theorem issuedRequest_shaped (request : Request) :
    issuedRequest (call.shaped shape) .body request = withAccept call request := rfl

end

/-- The results of one call agree, given the items that its exchange brings: `v` of a value,
`o` of an optional value, `f` of a future of the body and `m` of a stream of at most one item. -/
structure StylesAgree (items : List Item) (v : Except DispatchError Json)
    (o : Except DispatchError (Option Json)) (f : CallResult) (m : List Item) : Prop where
  /-- The optional value fails when the value does, and in the same way. -/
  optional_error_iff : ∀ e, o = .error e ↔ v = .error e
  optional_none_iff : o = .ok none ↔ v = .ok .null
  optional_some_iff : ∀ j, o = .ok (some j) ↔ v = .ok j ∧ j ≠ .null
  /-- The value is that of the reply that the future comes to. -/
  value_of_future : v = f.bind valueOf
  empty_iff : m = [] ↔ items = []
  future_of_empty : items = [] → f = .ok none
  reply_iff : ∀ reply, m = [.ok reply] ↔ f = .ok (some reply)
  missing_iff : ∀ e, e.isNotFound = true → (m = [.error e] ↔ items.head? = some (.error e))
  future_of_missing : ∀ e, e.isNotFound = true → items.head? = some (.error e) → f = .ok none
  failure_iff : ∀ e, m = [.error e] ∧ e.isNotFound = false ↔ f = .error e

/-! ## What becomes of the first item -/

/-- What becomes of an item when a fallback may help out. A missing resource stays as it is. -/
def rescued (found : Option Resolved) (params : List Param) : Item → Item
  | .error e => if e.isNotFound then .error e else (recover found params e).result
  | .ok reply => .ok reply

/-- How a future ends on the item that came, if one came. -/
def futureOf : Option Item → CallResult
  | none => .ok none
  | some (.ok reply) => .ok (some reply)
  | some (.error e) => if e.isNotFound then .ok none else .error e

section
variable (found : Option Resolved) (params : List Param) (items : List Item)

/-- Recovering never turns another failure into a missing resource. -/
theorem recover_not_missing {e e' : DispatchError} (h : e.isNotFound = false)
    (hr : (recover found params e).result = .error e') : e'.isNotFound = false := by
  rcases recover_cases found params e with ⟨r, f, -, -, hrec⟩ | ⟨-, hrec⟩
  · rw [hrec] at hr
    obtain ⟨cause, -, rfl⟩ := mapError_eq_error.mp hr
    rfl
  · rw [hrec] at hr
    simp only [Except.error.injEq] at hr
    rw [← hr]
    exact h

theorem rescued_missing_iff {item : Item} {e : DispatchError} (he : e.isNotFound = true) :
    rescued found params item = .error e ↔ item = .error e := by
  rcases item with e' | reply
  · by_cases hn : e'.isNotFound = true
    · simp [rescued, hn]
    · simp only [rescued, hn, if_false, Bool.false_eq_true]
      constructor
      · intro h
        have := recover_not_missing found params (by simpa using hn) h
        simp [he] at this
      · intro h
        simp only [Except.error.injEq] at h
        exact absurd (h ▸ he) hn
  · rfl

theorem settleValue_eq :
    (settleValue found params items).result =
      (futureOf (items.head?.map (rescued found params))).bind valueOf := by
  rcases items with _ | ⟨e | reply, more⟩
  · rfl
  · by_cases hn : e.isNotFound = true
    · simp [settleValue, awaitValue, hn, rescued, futureOf, Except.bind, valueOf]
    · simp only [settleValue, awaitValue, hn, rescued, List.head?_cons, Option.map_some,
        if_false, Bool.false_eq_true]
      rcases hr : (recover found params e).result with e' | reply
      · have := recover_not_missing found params (by simpa using hn) hr
        simp [futureOf, this, Except.bind]
      · rfl
  · rw [settleValue_reply]
    rfl

theorem bridge_body_eq :
    (bridge .body found params {} (items.map .item)).completion.outcome =
      futureOf (items.head?.map (rescued found params)) := by
  rcases items with _ | ⟨e | reply, more⟩
  · rfl
  · simp only [List.map_cons, bridge, Completion.isAbandoned, bridgeError, List.head?_cons,
      Option.map_some, rescued]
    by_cases hn : e.isNotFound = true
    · simp only [hn, if_true, futureOf]
      rfl
    · simp only [hn, if_false, Bool.false_eq_true]
      rcases hr : (recover found params e).result with e' | reply
      · have := recover_not_missing found params (by simpa using hn) hr
        simp only [futureOf, this, if_false, Bool.false_eq_true]
        rfl
      · rfl
  · rfl

theorem atMostOne_asked :
    ((applyChain [fallbackTransformer] found params
      (Delivery.atMostOne (.ofItems []))).take none).asked = 1 := rfl

/-- A stream of at most one item, with its failures left to the fallback. -/
theorem atMostOne_items :
    ((applyChain [fallbackTransformer] found params
      (Delivery.atMostOne (.ofItems items))).take none).items =
      (items.head?.map (rescued found params)).toList := by
  rcases items with _ | ⟨e | reply, more⟩
  · rfl
  · simp only [applyChain, fallbackTransformer, Delivery.mapItems, Delivery.atMostOne,
      Delivery.ofItems, Delivery.take, rescued, List.foldl_cons, List.foldl_nil, List.map_cons,
      List.map_nil, List.head?_cons, Option.map_some, Option.toList_some]
    split <;> rfl
  · rfl

end

/-! ## Reading one style off another -/

section
variable (v : Except DispatchError Json) (first : Option Item)

theorem optional_error_iff (e : DispatchError) : v.map optionalOf = .error e ↔ v = .error e := by
  cases v <;> simp [Except.map]

theorem optional_none_iff : v.map optionalOf = .ok none ↔ v = .ok .null := by
  rcases v with e | j
  · simp [Except.map]
  · cases j <;> simp [Except.map, optionalOf, Json.isNull]

theorem optional_some_iff (j : Json) :
    v.map optionalOf = .ok (some j) ↔ v = .ok j ∧ j ≠ .null := by
  rcases v with e | j'
  · simp [Except.map]
  · cases j' <;> simp [Except.map, optionalOf, Json.isNull] <;> rintro rfl <;> simp

theorem single_reply_iff (reply : Reply) :
    first.toList = [.ok reply] ↔ futureOf first = .ok (some reply) := by
  rcases first with _ | e | reply'
  · simp [futureOf]
  · simp only [futureOf, Option.toList_some]
    split <;> simp
  · simp [futureOf]

theorem single_failure_iff (e : DispatchError) :
    first.toList = [.error e] ∧ e.isNotFound = false ↔ futureOf first = .error e := by
  rcases first with _ | e' | reply
  · simp [futureOf]
  · simp only [futureOf, Option.toList_some]
    by_cases hn : e'.isNotFound = true
    · simp only [hn, if_true]
      refine ⟨?_, fun h => by cases h⟩
      rintro ⟨h, he⟩
      simp only [List.cons.injEq, Except.error.injEq, and_true] at h
      simp [← h, hn] at he
    · simp only [hn, if_false, Bool.false_eq_true]
      refine ⟨fun h => by simpa using h.1, ?_⟩
      intro h
      simp only [Except.error.injEq] at h
      exact ⟨by rw [h], by simpa [← h] using hn⟩
  · simp [futureOf]

end

/-- All styles are read off what becomes of the first item, so they agree. -/
theorem stylesAgree_of_first (found : Option Resolved) (params : List Param) (items : List Item) :
    let first := items.head?.map (rescued found params)
    StylesAgree items ((futureOf first).bind valueOf)
      (((futureOf first).bind valueOf).map optionalOf) (futureOf first) first.toList := by
  intro first
  have hempty : first = none ↔ items = [] := by simp [first]
  refine ⟨optional_error_iff _, optional_none_iff _, optional_some_iff _, rfl, by simp [hempty], ?_,
    single_reply_iff first, ?_, ?_, single_failure_iff first⟩
  · intro h
    rw [hempty.mpr h]
    rfl
  · intro e he
    rcases items with _ | ⟨item, more⟩
    · simp [first]
    · simp [first, rescued_missing_iff found params he]
  · intro e he hh
    have hfirst : first = some (.error e) := by simp [first, hh, rescued, he]
    rw [hfirst]
    simp [futureOf, he]

/-! ## The law -/

section
variable {d : Dispatcher τ} {t : Transport κ τ ω} {meanwhile : Session κ ω → Session κ ω}
  {call : Call} {mapping : Mapping} {registration : Registration} {s s' : Session κ ω}
  {items : List Item}

theorem invoke_shaped (shape : ReturnShape) (hm : call.mapping = some mapping)
    (hr : s.register d.resolver t call = (.ok registration, s')) :
    d.invoke t (call.shaped shape) s =
      d.perform t (call.shaped shape) registration.client
        (mappedRequest registration.contextPath mapping call.params) s' := by
  have hm' : (call.shaped shape).mapping = some mapping := hm
  exact invoke_registered hm' hr

/-- A style that settles a value ends with it, in its own outcome. -/
theorem settled_result (shape : ReturnShape) (outcome : Json → CallOutcome τ)
    (hperf : ∀ request, d.perform t (call.shaped shape) registration.client request s' =
      Dispatcher.awaiting t registration.client .retrieve request
        (settleValue (d.fallbacks.find call.operation) call.params) outcome s')
    (hf : ∀ j f, outcome j ≠ .future f) (hs : ∀ j f, outcome j ≠ .stream f)
    (hm : call.mapping = some mapping)
    (hr : s.register d.resolver t call = (.ok registration, s'))
    (hi : (exchanged t id registration.client .retrieve
      (mappedRequest registration.contextPath mapping call.params) s').1 = items.map .item) :
    (d.seeThrough t meanwhile (call.shaped shape) s).result =
      (settleValue (d.fallbacks.find call.operation) call.params items).result.map
        fun j => .outcome (outcome j) := by
  have hp := invoke_shaped shape hm hr
  rw [hperf] at hp
  rw [seeThrough_awaiting hp hf hs]
  simp only [hi, items_map_item]

theorem future_result (hm : call.mapping = some mapping)
    (hr : s.register d.resolver t call = (.ok registration, s'))
    (hi : (exchanged t meanwhile registration.client .retrieve
      (withAccept call (mappedRequest registration.contextPath mapping call.params)) s').1 =
        items.map .item) :
    (d.seeThrough t meanwhile (call.shaped (.future .body)) s).result =
      (bridge .body (d.fallbacks.find call.operation) call.params {}
        (items.map .item)).completion.outcome.map .resolved := by
  have hp := invoke_shaped (.future .body) hm hr
  simp only [Dispatcher.perform, shaped_returns, shaped_operation, shaped_params] at hp
  rw [seeThrough_future hp]
  simp only [issuedRequest_shaped, Element.exchangeKind, hi]

theorem maybe_result (hc : d.converters = Converters.standard)
    (ht : d.transformers = [fallbackTransformer]) (hm : call.mapping = some mapping)
    (hr : s.register d.resolver t call = (.ok registration, s'))
    (hi : (exchanged t meanwhile registration.client .retrieve
      (withAccept call (mappedRequest registration.contextPath mapping call.params)) s').1 =
        items.map .item) :
    (d.seeThrough t meanwhile (call.shaped (.stream "maybe" .body)) s).result =
      .ok (.collected ((applyChain [fallbackTransformer] (d.fallbacks.find call.operation)
        call.params (Delivery.atMostOne (.ofItems items))).take none).items) := by
  have hconv : d.converters.converter "maybe" = .ok Delivery.atMostOne := by
    rw [hc]
    rfl
  have hp := invoke_shaped (.stream "maybe" .body) hm hr
  have hflow : d.flow (call.shaped (.stream "maybe" .body)) registration.client "maybe" = fun ticket =>
      .ok (.stream {
        client := registration.client, ticket
        shape := fun source => applyChain [fallbackTransformer] (d.fallbacks.find call.operation)
          call.params (Delivery.atMostOne source) }) := by
    funext ticket
    rw [flow_eq _ ticket hconv, ht]
    rfl
  simp only [Dispatcher.perform, shaped_returns, hflow] at hp
  rw [seeThrough_stream hp (by simp [atMostOne_asked])]
  simp only [issuedRequest_shaped, Element.exchangeKind, hi, items_map_item]

end

/-- A mapped call whose registration fails does so in every style. Else, when its exchange
brings the same items in every style, whatever the caller takes, the results agree. -/
theorem the_styles_of_a_call_agree (d : Dispatcher τ) (t : Transport κ τ ω)
    (meanwhile : Session κ ω → Session κ ω) (call : Call) (mapping : Mapping) (s : Session κ ω)
    (hm : call.mapping = some mapping) (hc : d.converters = Converters.standard)
    (ht : d.transformers = [fallbackTransformer]) :
    let result shape := (d.seeThrough t meanwhile (call.shaped shape) s).result
    (∀ e s', s.register d.resolver t call = (.error e, s') → ∀ shape, result shape = .error e) ∧
    (∀ registration s' items, s.register d.resolver t call = (.ok registration, s') →
      let request := mappedRequest registration.contextPath mapping call.params
      (exchanged t id registration.client .retrieve request s').1 = List.map .item items →
      (exchanged t meanwhile registration.client .retrieve (withAccept call request) s').1 =
        items.map .item →
      ∃ v o f m,
        result .value = v.map (fun j => .outcome (.value j)) ∧
        result .optional = o.map (fun j => .outcome (.optional j)) ∧
        result (.future .body) = f.map .resolved ∧
        result (.stream "maybe" .body) = .ok (.collected m) ∧
        StylesAgree items v o f m) := by
  intro result
  refine ⟨?_, ?_⟩
  · intro e s' hr shape
    have hm' : (call.shaped shape).mapping = some mapping := hm
    simp only [result, seeThrough_unregistered hm' hr]
  · intro registration s' items hr request hi hi'
    let found := d.fallbacks.find call.operation
    let first := items.head?.map (rescued found call.params)
    refine ⟨(futureOf first).bind valueOf, ((futureOf first).bind valueOf).map optionalOf,
      futureOf first, first.toList, ?_, ?_, ?_, ?_, stylesAgree_of_first found call.params items⟩
    · rw [← settleValue_eq]
      exact settled_result .value .value (fun _ => rfl) (by simp) (by simp) hm hr hi
    · rw [← settleValue_eq]
      refine (settled_result .optional (fun j => .optional (optionalOf j)) (fun _ => rfl)
        (by simp) (by simp) hm hr hi).trans ?_
      rcases (settleValue found call.params items).result with e | j <;> rfl
    · rw [← bridge_body_eq]
      exact future_result hm hr hi'
    · rw [← atMostOne_items]
      exact maybe_result hc ht hm hr hi'

/-- A user who is missing: the future is empty, and the stream shows the failure. -/
theorem a_missing_user_in_two_styles :
    let missing : Item := .error (.transport (.status .notFound [] none))
    let d : Dispatcher Unit :=
      { resolver := { lists := [("users", [])] }, transformers := [fallbackTransformer] }
    let call : Call :=
      { service := ⟨["users"]⟩, operation := ⟨"UserApi", "get", []⟩, mapping := some ⟨.get, "/users"⟩ }
    let result shape :=
      (d.seeThrough (.bringing [missing]) id (call.shaped shape) { outside := () }).result
    result (.future .body) = .ok (.resolved none) ∧
      result (.stream "maybe" .body) = .ok (.collected [missing]) := by
  intro missing d call result
  obtain ⟨v, o, f, m, -, -, hf, hm, h⟩ :=
    (the_styles_of_a_call_agree d (.bringing [missing]) id call ⟨.get, "/users"⟩ { outside := () }
      rfl rfl rfl).2 ⟨0, ""⟩ _ [missing] rfl rfl rfl
  have hn : DispatchError.isNotFound (.transport (.status .notFound [] none)) = true := by decide
  refine ⟨hf.trans ?_, hm.trans ?_⟩
  · rw [h.future_of_missing _ hn rfl]
    rfl
  · rw [(h.missing_iff _ hn).mpr rfl]

end HttpCalls
