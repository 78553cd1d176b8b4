-- The policy for failed calls. One item decides how a call ends. A fallback is used
-- only when that item is a failure of the transport that the shape of the call does
-- not bear, and then once; in all other cases the call ends as the item says.
import HttpCalls.Proofs.Dispatch.SeenThrough
import HttpCalls.Proofs.Results

namespace HttpCalls

variable {κ τ ω : Type}

/-! ## The policy -/

/-- The item that decides how a call ends: the first one, or the first failure for a call
that only waits for the end of its exchange. -/
def deciding : ReturnShape → List Item → Option Item
  | .noContent, items => items.find? (!·.isOk)
  | _, items => items.head?

/-- A shape that can be empty bears a missing resource. -/
def ReturnShape.bears (shape : ReturnShape) (e : DispatchError) : Prop :=
  (shape = .value ∨ shape = .optional ∨ ∃ element, shape = .future element) ∧ e.isNotFound = true

/-- The value of the reply that came; without one it is `null`. -/
def valueOf : Option Reply → Except DispatchError Json
  | some reply => reply.value
  | none => .ok .null

/-- What a shape makes of the reply that came, or of none. -/
def ReturnShape.made : ReturnShape → Option Reply → Ended τ
  | .value, reply => (valueOf reply).map fun v => .outcome (.value v)
  | .optional, reply => (valueOf reply).map fun v => .outcome (.optional (optionalOf v))
  | .response, some reply => reply.toResponse.map fun r => .outcome (.response r)
  | .response, none =>
    .error (.unsupportedConversion "response" "transport completed without a response")
  | .noContent, _ => .ok (.outcome .unit)
  | .future .noContent, _ => .ok (.resolved none)
  | .future _, reply => .ok (.resolved reply)
  | .stream _ _, reply => .ok (.collected (reply.toList.map .ok))

/-- What a shape makes of the reply of a fallback: a future hands it on, whatever its own replies
hold. -/
def ReturnShape.substituted : ReturnShape → Reply → Ended τ
  | .future _, reply => .ok (.resolved (some reply))
  | shape, reply => shape.made (some reply)

/-- The ways in which a call may end on `items`, with the fallback that was found for it. -/
structure FollowsPolicy (shape : ReturnShape) (found : Option Resolved) (params : List Param)
    (items : List Item) (result : Ended τ)
    (invoked : List Invocation) : Prop where
  /-- No fallback is used, or the one that was found, once, with the parameters of the call. -/
  at_most_once : invoked = [] ∨ ∃ r, found = some r ∧ invoked = [r.invocation params]
  /-- It is used for a failure of the transport that the shape does not bear, and only then. -/
  used_iff : invoked ≠ [] ↔
    (∃ e, deciding shape items = some (.error (.transport e)) ∧ ¬ shape.bears (.transport e)) ∧
      shape ≠ .response ∧ found.isSome
  /-- When the fallback replies, the call ends on its reply. -/
  fallback_replied : ∀ r reply, found = some r → invoked ≠ [] →
    r.fallback.answer params = .ok reply → result = shape.substituted reply
  /-- When the fallback fails in turn, that is how the call fails. -/
  fallback_failed : ∀ r e, found = some r → invoked ≠ [] → r.invoke params = .error e →
    result = .error e
  /-- Without a fallback, the failure that decides is handed out as it is. -/
  failure_kept : ∀ e, deciding shape items = some (.error e) → ¬ shape.bears e → invoked = [] →
    result = .error e
  /-- A missing resource that the shape bears counts as no reply. -/
  missing : ∀ e, deciding shape items = some (.error e) → shape.bears e →
    result = shape.made none
  /-- A reply that decides, or no item at all, makes the result on its own. -/
  replied : ∀ reply : Option Reply, deciding shape items = reply.map .ok →
    result = shape.made reply

/-! ## One way of ending at a time -/

section
variable {shape : ReturnShape} (found : Option Resolved) (params : List Param) {items : List Item}
  {e e' : DispatchError}

theorem failure_unique (h : deciding shape items = some (.error e))
    (h' : deciding shape items = some (.error e')) : e' = e := by
  rw [h] at h'
  simpa using h'.symm

theorem failure_ne_reply (h : deciding shape items = some (.error e)) (reply : Option Reply) :
    deciding shape items ≠ reply.map .ok := by
  rw [h]
  cases reply <;> simp

/-- What the policy asks of a call that used no fallback. -/
theorem followsPolicy_of_unused {result : Ended τ}
    (hunused : ¬((∃ f, deciding shape items = some (.error (.transport f)) ∧
      ¬ shape.bears (.transport f)) ∧ shape ≠ .response ∧ found.isSome))
    (hkept : ∀ e, deciding shape items = some (.error e) → ¬ shape.bears e → result = .error e)
    (hmissing : ∀ e, deciding shape items = some (.error e) → shape.bears e →
      result = shape.made none)
    (hreplied : ∀ reply : Option Reply, deciding shape items = reply.map .ok →
      result = shape.made reply) :
    FollowsPolicy shape found params items result [] :=
  { at_most_once := .inl rfl
    used_iff := ⟨fun hi => absurd rfl hi, fun h => absurd h hunused⟩
    fallback_replied := fun _ _ _ hi => absurd rfl hi
    fallback_failed := fun _ _ _ hi => absurd rfl hi
    failure_kept := fun e he hb _ => hkept e he hb
    missing := hmissing
    replied := hreplied }

theorem followsPolicy_of_reply (reply : Option Reply)
    (h : deciding shape items = reply.map .ok) :
    FollowsPolicy shape found params items
      (shape.made reply : Ended τ) [] := by
  have hno : ∀ e, deciding shape items ≠ some (.error e) := fun e he =>
    failure_ne_reply he reply h
  apply followsPolicy_of_unused
  · rintro ⟨⟨f, hf, _⟩, _⟩
    exact absurd hf (hno _)
  · intro e he
    exact absurd he (hno e)
  · intro e he
    exact absurd he (hno e)
  · intro other ho
    rw [h] at ho
    cases reply <;> cases other <;> simp_all

theorem followsPolicy_of_missing (h : deciding shape items = some (.error e))
    (hb : shape.bears e) :
    FollowsPolicy shape found params items
      (shape.made none : Ended τ) [] := by
  apply followsPolicy_of_unused
  · rintro ⟨⟨f, hf, hnb⟩, _⟩
    exact absurd (failure_unique h hf ▸ hb) hnb
  · intro e' he' hnb
    exact absurd (failure_unique h he' ▸ hb) hnb
  · intro _ _ _
    rfl
  · intro reply hr
    exact absurd hr (failure_ne_reply h reply)

/-- A failure that no fallback is used for, since the shape has none or none is to be had. -/
theorem followsPolicy_of_kept (h : deciding shape items = some (.error e))
    (hb : ¬ shape.bears e)
    (hn : shape = .response ∨ found = none ∨ ∀ f, e ≠ .transport f) :
    FollowsPolicy shape found params items
      (.error e : Ended τ) [] := by
  apply followsPolicy_of_unused
  · rintro ⟨⟨f, hf, _⟩, hs, hsome⟩
    rcases hn with hn | hn | hn
    · exact absurd hn hs
    · simp [hn] at hsome
    · exact absurd (failure_unique h hf).symm (hn f)
  · intro e' he' _
    rw [failure_unique h he']
  · intro e' he' hb'
    exact absurd (failure_unique h he' ▸ hb') hb
  · intro reply hr
    exact absurd hr (failure_ne_reply h reply)

/-- A failure of the transport that the fallback `r` was asked to make good. -/
theorem followsPolicy_of_fallback {r : Resolved} {f : TransportError} {answered : Reply → Ended τ}
    (hanswered : ∀ reply, answered reply = shape.substituted reply)
    (h : deciding shape items = some (.error (.transport f)))
    (hb : ¬ shape.bears (.transport f)) (hs : shape ≠ .response) (hr : found = some r) :
    FollowsPolicy shape found params items ((r.invoke params).bind answered)
      [r.invocation params] where
  at_most_once := .inr ⟨r, hr, rfl⟩
  used_iff := ⟨fun _ => ⟨⟨f, h, hb⟩, hs, by simp [hr]⟩, fun _ => by simp⟩
  fallback_replied r' reply hr' _ hreply := by
    rw [hr, Option.some.injEq] at hr'
    unfold Resolved.invoke
    rw [hr', hreply, ← hanswered]
    rfl
  fallback_failed r' e' hr' _ he' := by
    rw [hr, Option.some.injEq] at hr'
    rw [hr', he']
    rfl
  failure_kept _ _ _ hi := by simp at hi
  missing e' he' hb' := absurd (failure_unique h he' ▸ hb') hb
  replied reply hr := absurd hr (failure_ne_reply h reply)

theorem recover_cases (found : Option Resolved) (params : List Param) (e : DispatchError) :
    (∃ r f, found = some r ∧ e = .transport f ∧
      recover found params e = { result := r.invoke params, invoked := [r.invocation params] }) ∨
    ((found = none ∨ ∀ f, e ≠ .transport f) ∧ recover found params e = { result := .error e }) := by
  unfold recover
  cases e <;> simp only [DispatchError.isRecoverable] <;> rcases found with _ | r <;> simp

/-- What recovering from a failure gives, read by `answered`, is as the policy says. -/
theorem followsPolicy_of_recover {answered : Reply → Ended τ}
    (hanswered : ∀ reply, answered reply = shape.substituted reply)
    (h : deciding shape items = some (.error e)) (hb : ¬ shape.bears e)
    (hs : shape ≠ .response) :
    FollowsPolicy shape found params items ((recover found params e).result.bind answered)
      (recover found params e).invoked := by
  rcases recover_cases found params e with ⟨r, f, hr, rfl, hrec⟩ | ⟨hn, hrec⟩
  · rw [hrec]
    exact followsPolicy_of_fallback found params hanswered h hb hs hr
  · rw [hrec]
    exact followsPolicy_of_kept found params h hb (.inr hn)

end

/-! ## Every shape follows the policy -/

section
variable (found : Option Resolved) (params : List Param) (items : List Item)

theorem reply_value_error {reply : Reply} {e : DispatchError} (h : reply.value = .error e) :
    ∃ reason, e = .unsupportedConversion "value" reason := by
  cases reply with
  | body v => simp [Reply.value] at h
  | response r =>
    simp only [Reply.value] at h
    split at h
    · cases h
    · obtain ⟨f, -, rfl⟩ := mapError_eq_error.mp h
      exact ⟨f.message, rfl⟩

/-- What is settled on a first reply is its value, whether there is one or not. -/
theorem settleValue_reply (reply : Reply) (more : List Item) :
    settleValue found params (.ok reply :: more) = { result := reply.value, pulled := 1 } := by
  simp only [settleValue, awaitValue]
  rcases h : reply.value with e | v
  · obtain ⟨reason, rfl⟩ := reply_value_error h
    simp [DispatchError.isNotFound, recover, DispatchError.isRecoverable, Except.bind]
  · rfl

theorem settleValue_follows (shape : ReturnShape) (outcome : Json → CallOutcome τ)
    (hd : deciding shape items = items.head?) (hs : shape ≠ .response)
    (hb : ∀ e, shape.bears e ↔ e.isNotFound = true)
    (hm : ∀ reply, shape.made reply = (valueOf reply).map fun v => .outcome (outcome v))
    (hf : ∀ reply, shape.substituted reply = (shape.made (some reply) : Ended τ)) :
    FollowsPolicy shape found params items
      ((settleValue found params items).result.map fun v => .outcome (outcome v))
      (settleValue found params items).invoked := by
  rcases items with _ | ⟨e | reply, more⟩
  · have hpol : FollowsPolicy shape found params [] (shape.made none : Ended τ) [] :=
      followsPolicy_of_reply found params none hd
    rwa [hm] at hpol
  · by_cases hnf : e.isNotFound = true
    · have hpol : FollowsPolicy shape found params _ (shape.made none : Ended τ) [] :=
        followsPolicy_of_missing found params hd ((hb e).mpr hnf)
      rw [hm] at hpol
      simp only [settleValue, awaitValue, hnf, if_true]
      exact hpol
    · have hanswered (reply : Reply) : (reply.value.map fun v => .outcome (outcome v)) =
          (shape.substituted reply : Ended τ) := by
        rw [hf, hm]
        rfl
      have hpol := followsPolicy_of_recover found params hanswered hd
        (fun h => hnf ((hb e).mp h)) hs
      simp only [settleValue, awaitValue, hnf, if_false, Bool.false_eq_true]
      rcases hr : (recover found params e).result with e' | r <;> rw [hr] at hpol <;> exact hpol
  · have hpol : FollowsPolicy shape found params _ (shape.made (some reply) : Ended τ) [] :=
      followsPolicy_of_reply found params (some reply) hd
    rw [hm] at hpol
    rw [settleValue_reply]
    exact hpol

theorem settleResponse_follows :
    FollowsPolicy .response found params items
      ((settleResponse items).result.map fun r => .outcome (.response r) : Ended τ) [] := by
  rcases items with _ | ⟨e | reply, more⟩
  · exact followsPolicy_of_reply found params none rfl
  · exact followsPolicy_of_kept found params rfl (by simp [ReturnShape.bears]) (.inl rfl)
  · exact followsPolicy_of_reply found params (some reply) rfl

/-- Awaiting the end of an exchange fails with the first failure among its items. -/
theorem awaitEnd_result :
    (awaitEnd items).result =
      match deciding .noContent items with
      | some (.error e) => .error e
      | _ => .ok () := by
  induction items with
  | nil => rfl
  | cons item more ih =>
    rcases item with e | reply
    · rfl
    · simpa [awaitEnd, deciding, Except.isOk, Except.toBool] using ih

theorem deciding_noContent_ne_reply (reply : Reply) :
    deciding .noContent items ≠ some (.ok reply) := by
  intro h
  have := List.find?_some h
  simp [Except.isOk, Except.toBool] at this

theorem settleEnd_follows :
    FollowsPolicy .noContent found params items
      ((settleEnd found params items).result.map fun () => .outcome .unit : Ended τ)
      (settleEnd found params items).invoked := by
  have hend := awaitEnd_result items
  unfold settleEnd
  rcases hd : deciding .noContent items with _ | e | reply
  · rw [hd] at hend
    simp only [hend]
    exact followsPolicy_of_reply found params none hd
  · rw [hd] at hend
    simp only [hend]
    have hanswered (reply : Reply) : (.ok (.outcome .unit) : Ended τ) =
        ReturnShape.noContent.substituted reply := rfl
    have hpol := followsPolicy_of_recover found params hanswered hd
      (by simp [ReturnShape.bears]) (by simp)
    rcases hr : (recover found params e).result with e' | r <;> rw [hr] at hpol <;> exact hpol
  · exact absurd hd (deciding_noContent_ne_reply items reply)

theorem bridge_follows (element : Element) :
    FollowsPolicy (.future element) found params items
      ((bridge element found params {} (items.map .item)).completion.outcome.map .resolved : Ended τ)
      (bridge element found params {} (items.map .item)).invoked := by
  rcases items with _ | ⟨e | reply, more⟩
  · have hd : deciding (.future element) [] = (none : Option Reply).map .ok := rfl
    cases element <;> exact followsPolicy_of_reply found params none hd
  · have hd : deciding (.future element) (.error e :: more) = some (.error e) := rfl
    simp only [List.map_cons, bridge, Completion.isAbandoned, bridgeError]
    by_cases hnf : e.isNotFound = true
    · simp only [hnf, if_true]
      have hb : ReturnShape.bears (.future element) e := ⟨.inr (.inr ⟨element, rfl⟩), hnf⟩
      cases element <;> exact followsPolicy_of_missing found params hd hb
    · have hanswered (reply : Reply) : (.ok (.resolved (some reply)) : Ended τ) =
          (ReturnShape.future element).substituted reply := rfl
      have hpol := followsPolicy_of_recover found params hanswered hd (fun h => hnf h.2) (by simp)
      simp only [hnf, if_false, Bool.false_eq_true]
      rcases hr : (recover found params e).result with e' | r <;> rw [hr] at hpol <;> exact hpol
  · have hd : deciding (.future element) (.ok reply :: more) = (some reply).map .ok := rfl
    cases element <;> exact followsPolicy_of_reply found params (some reply) hd

end

/-! ## The law -/

/-- A call for a registered client starts one exchange in the session `s'`, does nothing else
to the session, and ends as the policy says on the items that this exchange brings. -/
def EndsOnOneExchange (d : Dispatcher τ) (t : Transport κ τ ω)
    (meanwhile : Session κ ω → Session κ ω) (call : Call) (client : Nat)
    (s s' : Session κ ω) : Prop :=
  ∃ kind request,
    let exchange := exchanged t (call.returns.between meanwhile) client kind request s'
    let ended := d.seeThrough t meanwhile call s
    (d.invoke t call s).effects.started = [(kind, request)] ∧
    ended.effects.started = [(kind, request)] ∧
    ended.session = exchange.2 ∧
    ∀ items : List Item, exchange.1 = items.map .item →
      FollowsPolicy call.returns (d.fallbacks.find call.operation) call.params items
        ended.result ended.effects.invoked

section
variable {d : Dispatcher τ} {t : Transport κ τ ω} {meanwhile : Session κ ω → Session κ ω}
  {call : Call} {client : Nat} {s s' : Session κ ω}

theorem awaited_ends_on_one_exchange {α : Type} {kind : ExchangeKind} {request : Request}
    {settle : List Item → Settled α} {outcome : α → CallOutcome τ}
    (hp : d.invoke t call s = Dispatcher.awaiting t client kind request settle outcome s')
    (hf : ∀ a f, outcome a ≠ .future f) (hs : ∀ a f, outcome a ≠ .stream f)
    (hb : call.returns.isNonBlocking = false)
    (hpol : ∀ items, FollowsPolicy call.returns (d.fallbacks.find call.operation) call.params items
      ((settle items).result.map fun a => .outcome (outcome a)) (settle items).invoked) :
    EndsOnOneExchange d t meanwhile call client s s' := by
  have hbetween : call.returns.between meanwhile = id := by simp [ReturnShape.between, hb]
  refine ⟨kind, request, ?_⟩
  rw [seeThrough_awaiting hp hf hs, hp, hbetween]
  refine ⟨rfl, rfl, rfl, ?_⟩
  intro items hitems
  simp only [hitems, items_map_item]
  exact hpol items

theorem future_ends_on_one_exchange {element : Element} {request : Request}
    (hr : call.returns = .future element)
    (hp : d.invoke t call s = Dispatcher.issuing t call element request
      (fun ticket => .ok (.future { client, ticket, element, found := d.fallbacks.find call.operation,
                                    params := call.params })) s') :
    EndsOnOneExchange d t meanwhile call client s s' := by
  have hbetween : call.returns.between meanwhile = meanwhile := by
    simp [ReturnShape.between, hr, ReturnShape.isNonBlocking]
  refine ⟨element.exchangeKind, issuedRequest call element request, ?_⟩
  rw [seeThrough_future hp, hp, hbetween, hr]
  refine ⟨rfl, rfl, rfl, ?_⟩
  intro items hitems
  simp only [hitems]
  exact bridge_follows _ _ items element

end

/-- A call that is no stream starts no exchange and uses no fallback if it has no mapping or its
registration fails. Else it starts one exchange, and a fallback is used, once and with the
parameters of the call, exactly for a failure of the transport that its shape does not bear. -/
theorem a_fallback_is_used_only_for_a_failed_exchange (d : Dispatcher τ) (t : Transport κ τ ω)
    (meanwhile : Session κ ω → Session κ ω) (call : Call) (s : Session κ ω)
    (hshape : call.returns.streamType? = none) :
    (call.mapping = none →
      (d.invoke t call s).effects.started = [] ∧ (d.invoke t call s).effects.invoked = [] ∧
      (d.invoke t call s).session = s) ∧
    (∀ mapping e s', call.mapping = some mapping →
      s.register d.resolver t call = (.error e, s') →
      (d.invoke t call s).effects.started = [] ∧ (d.invoke t call s).effects.invoked = [] ∧
      (d.invoke t call s).session = s' ∧ (d.seeThrough t meanwhile call s).result = .error e) ∧
    (∀ mapping registration s', call.mapping = some mapping →
      s.register d.resolver t call = (.ok registration, s') →
      EndsOnOneExchange d t meanwhile call registration.client s s') := by
  refine ⟨?_, ?_, ?_⟩
  · intro hm
    simp [Dispatcher.invoke, hm]
  · intro mapping e s' hm hr
    simp [invoke_unregistered hm hr, seeThrough_unregistered hm hr]
  · intro mapping registration s' hm hr
    have hp := invoke_registered hm hr
    cases hc : call.returns with
    | value =>
      simp only [Dispatcher.perform, hc] at hp
      refine awaited_ends_on_one_exchange hp (by simp) (by simp) (by rw [hc]; rfl) ?_
      intro items
      rw [hc]
      exact settleValue_follows _ _ items .value .value rfl (by simp)
        (fun e => by simp [ReturnShape.bears]) (fun _ => rfl) (fun _ => rfl)
    | optional =>
      simp only [Dispatcher.perform, hc] at hp
      refine awaited_ends_on_one_exchange hp (by simp) (by simp) (by rw [hc]; rfl) ?_
      intro items
      rw [hc]
      exact settleValue_follows _ _ items .optional (fun v => .optional (optionalOf v)) rfl
        (by simp) (fun e => by simp [ReturnShape.bears]) (fun _ => rfl) (fun _ => rfl)
    | response =>
      simp only [Dispatcher.perform, hc] at hp
      refine awaited_ends_on_one_exchange hp (by simp) (by simp) (by rw [hc]; rfl) ?_
      intro items
      rw [hc]
      exact settleResponse_follows _ _ items
    | noContent =>
      simp only [Dispatcher.perform, hc] at hp
      refine awaited_ends_on_one_exchange hp (by simp) (by simp) (by rw [hc]; rfl) ?_
      intro items
      rw [hc]
      exact settleEnd_follows _ _ items
    | future element =>
      simp only [Dispatcher.perform, hc] at hp
      exact future_ends_on_one_exchange hc hp
    | stream type element => simp [hc, ReturnShape.streamType?] at hshape

/-- A service that is too busy, called for a future: the fallback of the operation is used. -/
theorem a_busy_service_leaves_the_call_to_its_fallback :
    let key : OperationKey := ⟨"UserApi", "get", []⟩
    let cached : Fallback := { label := "cached", answer := fun _ => .ok (.body .null) }
    let busy : TransportError := .status ⟨503, by decide⟩ [] none
    let d : Dispatcher Unit :=
      { resolver := { lists := [("users", [])] }, fallbacks := ({} : Fallbacks).register key cached }
    let call : Call :=
      { service := ⟨["users"]⟩, operation := key, mapping := some ⟨.get, "/users"⟩
        params := [⟨"id", .path, .bool true⟩], returns := .future .body }
    let ended := d.seeThrough (.bringing [.error (.transport busy)]) id call { outside := () }
    ended.effects.invoked = [⟨"cached", call.params⟩] ∧
      ended.result = .ok (.resolved (some (.body .null))) := by
  intro key cached busy d call ended
  obtain ⟨kind, request, -, -, -, h⟩ :=
    (a_fallback_is_used_only_for_a_failed_exchange d (.bringing [.error (.transport busy)]) id call
      { outside := () } rfl).2.2 ⟨.get, "/users"⟩ ⟨0, ""⟩ _ rfl rfl
  have hp := h [.error (.transport busy)] rfl
  have hused := hp.used_iff.mpr ⟨⟨busy, rfl, fun hb => absurd hb.2 (by decide)⟩, by simp [call], rfl⟩
  rcases hp.at_most_once with hi | ⟨r, hr, hi⟩
  · exact absurd hi hused
  · have hresult := hp.fallback_replied r (.body .null) hr hused
    cases hr
    exact ⟨hi, hresult rfl⟩

end HttpCalls
