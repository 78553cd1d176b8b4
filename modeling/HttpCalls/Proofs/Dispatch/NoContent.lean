-- Calls for no content. Awaited, such a call has nothing to show but that it ended, whatever
-- its exchange brings and whatever a fallback answers. A future of no content holds back the
-- replies of its exchange and a missing resource alike. It lets through what a fallback answers.
import HttpCalls.Proofs.Dispatch.Styles

namespace HttpCalls

variable {κ τ ω : Type}

/-! ## How a future of no content ends -/

/-- The first arrival is a failure of the transport other than a missing resource. -/
def FailsFirst (arrivals : List Arrival) : Prop :=
  ∃ e more, arrivals = .item (.error (.transport e)) :: more ∧ e.isNotFound = false

theorem not_failsFirst_nil : ¬FailsFirst [] := by
  simp [FailsFirst]

theorem not_failsFirst_reply {reply : Reply} {more : List Arrival} :
    ¬FailsFirst (.item (.ok reply) :: more) := by
  simp [FailsFirst]

theorem not_failsFirst_crash {more : List Arrival} : ¬FailsFirst (.crash :: more) := by
  simp [FailsFirst]

theorem failsFirst_error {e : DispatchError} {more : List Arrival} :
    FailsFirst (.item (.error e) :: more) ↔ ∃ f, e = .transport f ∧ f.isNotFound = false := by
  simp [FailsFirst]

/-- The two ways in which a future of no content ends, with the fallback that was found for it. -/
inductive NoContentEnd (found : Option Resolved) (params : List Param) (arrivals : List Arrival) :
    CallResult → List Invocation → Prop
  /-- No fallback is used, and no reply gets through. -/
  | plain {result} : (∀ reply, result ≠ .ok (some reply)) → (FailsFirst arrivals → found = none) →
      NoContentEnd found params arrivals result []
  /-- What the fallback answers gets through. -/
  | helped {r} : FailsFirst arrivals → found = some r →
      NoContentEnd found params arrivals ((r.invoke params).map some) [r.invocation params]

section
variable (found : Option Resolved) (params : List Param)

theorem bridge_noContent (arrivals : List Arrival) :
    NoContentEnd found params arrivals
      (bridge .noContent found params {} arrivals).completion.outcome
      (bridge .noContent found params {} arrivals).invoked := by
  rcases arrivals with _ | ⟨⟨e | reply⟩ | _, more⟩
  · refine .plain (fun reply hresult => ?_) (fun h => absurd h not_failsFirst_nil)
    cases hresult
  · simp only [bridge, Completion.isAbandoned, bridgeError]
    by_cases hmissing : e.isNotFound = true
    · simp only [hmissing, if_true]
      refine .plain (fun reply hresult => ?_) fun h => ?_
      · cases hresult
      · obtain ⟨f, rfl, hf⟩ := failsFirst_error.mp h
        exact absurd (hmissing.symm.trans hf) (by decide)
    · simp only [hmissing, if_false, Bool.false_eq_true]
      rcases recover_cases found params e with ⟨r, f, hr, rfl, hrec⟩ | ⟨hn, hrec⟩
      · rw [hrec]
        have hother : f.isNotFound = false := Bool.eq_false_iff.mpr hmissing
        exact .helped (failsFirst_error.mpr ⟨f, rfl, hother⟩) hr
      · rw [hrec]
        refine .plain (fun reply hresult => ?_) fun h => ?_
        · cases hresult
        · obtain ⟨f, heq, -⟩ := failsFirst_error.mp h
          exact hn.resolve_right fun hno => hno f heq
  · refine .plain (fun other hresult => ?_) (fun h => absurd h not_failsFirst_reply)
    cases hresult
  · refine .plain (fun reply hresult => ?_) (fun h => absurd h not_failsFirst_crash)
    cases hresult

end

namespace NoContentEnd

variable {found : Option Resolved} {params : List Param} {arrivals : List Arrival}
  {result : CallResult} {invoked : List Invocation}

theorem replies_iff (h : NoContentEnd found params arrivals result invoked) (reply : Reply) :
    result = .ok (some reply) ↔
      ∃ r, found = some r ∧ invoked = [r.invocation params] ∧ r.invoke params = .ok reply := by
  cases h with
  | plain hno _ => simp [hno reply]
  | @helped r _ hr =>
    constructor
    · intro hresult
      refine ⟨r, hr, rfl, ?_⟩
      cases hanswer : r.invoke params with
      | error e =>
        rw [hanswer] at hresult
        cases hresult
      | ok other =>
        rw [hanswer] at hresult
        cases hresult
        rfl
    · rintro ⟨r', hr', -, hanswer⟩
      cases hr.symm.trans hr'
      rw [hanswer]
      rfl

theorem none_of_unused (h : NoContentEnd found params arrivals result []) {reply : Option Reply}
    (hresult : result = .ok reply) : reply = none := by
  cases h with
  | plain hno _ =>
    cases reply with
    | none => rfl
    | some reply => exact absurd hresult (hno reply)

theorem used_iff (h : NoContentEnd found params arrivals result invoked) :
    invoked ≠ [] ↔ FailsFirst arrivals ∧ found.isSome := by
  cases h with
  | plain _ hunused =>
    refine ⟨fun hused => absurd rfl hused, ?_⟩
    rintro ⟨hfails, hsome⟩
    simp [hunused hfails] at hsome
  | helped hfails hr => simp [hfails, hr]

end NoContentEnd

section
variable (found : Option Resolved) (params : List Param)

/-- Awaiting the end of an exchange keeps nothing of what a fallback answers. -/
theorem settleEnd_helped (items : List Item) (h : (settleEnd found params items).invoked ≠ []) :
    ∃ r, found = some r ∧
      (settleEnd found params items).result = (r.invoke params).map fun _ => () := by
  unfold settleEnd at h ⊢
  rcases hend : (awaitEnd items).result with e | _
  · simp only [hend] at h ⊢
    rcases recover_cases found params e with ⟨r, f, hr, rfl, hrec⟩ | ⟨-, hrec⟩
    · exact ⟨r, hr, by rw [hrec]⟩
    · simp [hrec] at h
  · simp [hend] at h

end

/-! ## The law -/

theorem resolved_iff {result : CallResult} {reply : Option Reply} :
    (result.map .resolved : Ended τ) = .ok (.resolved reply) ↔ result = .ok reply := by
  cases result <;> simp [Except.map]

theorem eq_of_settled {settled : Except DispatchError Unit} {ending : Ending τ}
    (h : (settled.map fun () => .outcome .unit) = .ok ending) : ending = .outcome .unit := by
  cases settled with
  | error e => cases h
  | ok =>
    cases h
    rfl

section
variable {d : Dispatcher τ} {t : Transport κ τ ω} (meanwhile : Session κ ω → Session κ ω)
  {call : Call} {mapping : Mapping} {registration : Registration} {s s' : Session κ ω}

theorem seeThrough_noContentFuture (hm : call.mapping = some mapping)
    (hr : s.register d.resolver t call = (.ok registration, s')) :
    let found := d.fallbacks.find call.operation
    let arrivals := (exchanged t meanwhile registration.client .exchange
      (mappedRequest registration.contextPath mapping call.params) s').1
    let ended := d.seeThrough t meanwhile (call.shaped (.future .noContent)) s
    ∃ result, ended.result = result.map .resolved ∧
      NoContentEnd found call.params arrivals result ended.effects.invoked := by
  have hp := invoke_shaped (.future .noContent) hm hr
  simp only [Dispatcher.perform, shaped_returns, shaped_operation, shaped_params] at hp
  rw [seeThrough_future hp]
  exact ⟨_, rfl, bridge_noContent _ _ _⟩

theorem seeThrough_noContent (hm : call.mapping = some mapping)
    (hr : s.register d.resolver t call = (.ok registration, s')) :
    let ended := d.seeThrough t meanwhile (call.shaped .noContent) s
    (∀ ending, ended.result = .ok ending → ending = .outcome .unit) ∧
    (ended.effects.invoked ≠ [] → ∃ r, d.fallbacks.find call.operation = some r ∧
      ended.result = (r.invoke call.params).map fun _ => .outcome .unit) := by
  have hp := invoke_shaped .noContent hm hr
  simp only [Dispatcher.perform, shaped_returns, shaped_operation, shaped_params] at hp
  rw [seeThrough_awaiting hp (by simp) (by simp)]
  constructor
  · exact fun ending => eq_of_settled
  · intro hused
    obtain ⟨r, hfound, hanswer⟩ := settleEnd_helped _ _ _ hused
    refine ⟨r, hfound, ?_⟩
    simp only [hanswer]
    cases r.invoke call.params <;> rfl

end

/-- A call for no content, left to a future, comes to a reply exactly when a fallback is used for it
and replies, which takes a failure of the transport that is no missing resource. In all other cases
in which it succeeds it comes to no reply. Awaited, the same call has no reply in any case. -/
theorem only_a_fallback_replies_to_a_call_for_no_content (d : Dispatcher τ) (t : Transport κ τ ω)
    (meanwhile : Session κ ω → Session κ ω) (call : Call) (mapping : Mapping) (s : Session κ ω)
    (hm : call.mapping = some mapping) :
    let found := d.fallbacks.find call.operation
    let future := d.seeThrough t meanwhile (call.shaped (.future .noContent)) s
    let awaited := d.seeThrough t meanwhile (call.shaped .noContent) s
    (∀ reply, future.result = .ok (.resolved (some reply)) ↔
      ∃ r, found = some r ∧ future.effects.invoked = [r.invocation call.params] ∧
        r.invoke call.params = .ok reply) ∧
    (future.effects.invoked = [] → ∀ ending, future.result = .ok ending →
      ending = .resolved none) ∧
    (future.effects.invoked ≠ [] ↔ ∃ registration s',
      s.register d.resolver t call = (.ok registration, s') ∧
      FailsFirst (exchanged t meanwhile registration.client .exchange
        (mappedRequest registration.contextPath mapping call.params) s').1 ∧ found.isSome) ∧
    (∀ ending, awaited.result = .ok ending → ending = .outcome .unit) ∧
    (awaited.effects.invoked ≠ [] → ∃ r, found = some r ∧
      awaited.result = (r.invoke call.params).map fun _ => .outcome .unit) := by
  intro found future awaited
  rcases hr : s.register d.resolver t call with ⟨e | registration, s'⟩
  · have hfuture : future = { result := .error e, session := s' } :=
      seeThrough_unregistered (by exact hm) hr
    have hawaited : awaited = { result := .error e, session := s' } :=
      seeThrough_unregistered (by exact hm) hr
    rw [hfuture, hawaited]
    simp
  · obtain ⟨result, hresult, hend⟩ := seeThrough_noContentFuture meanwhile hm hr
    obtain ⟨hunit, hused⟩ := seeThrough_noContent meanwhile hm hr
    refine ⟨fun reply => ?_, fun hunused ending hending => ?_, ?_, hunit, hused⟩
    · rw [← hend.replies_iff reply]
      exact (congrArg (· = _) hresult).to_iff.trans resolved_iff
    · have hmap := hresult.symm.trans hending
      have hend' : NoContentEnd found call.params _ result [] := hunused ▸ hend
      cases result with
      | error e => cases hmap
      | ok reply =>
        cases hmap
        rw [hend'.none_of_unused rfl]
    · rw [hend.used_iff]
      constructor
      · exact fun h => ⟨registration, s', rfl, h⟩
      · rintro ⟨_, _, heq, h⟩
        cases heq
        exact h

/-- A service that is too busy to remove a user: the answer of the fallback reaches a caller who
holds a future, and a caller who waits has none. -/
theorem a_busy_service_and_a_fallback_with_an_answer :
    let key : OperationKey := ⟨"UserApi", "remove", []⟩
    let cached : Fallback := { label := "cached", answer := fun _ => .ok (.body (.bool true)) }
    let busy : TransportError := .status ⟨503, by decide⟩ [] none
    let d : Dispatcher Unit :=
      { resolver := { lists := [("users", [])] }, fallbacks := ({} : Fallbacks).register key cached }
    let delete : Method := ⟨"DELETE".toList, by decide⟩
    let call : Call :=
      { service := ⟨["users"]⟩, operation := key, mapping := some ⟨delete, "/users"⟩ }
    let result shape :=
      (d.seeThrough (.bringing [.error (.transport busy)]) id (call.shaped shape)
        { outside := () }).result
    result (.future .noContent) = .ok (.resolved (some (.body (.bool true)))) ∧
      ∀ ending, result .noContent = .ok ending → ending = .outcome .unit := by
  intro key cached busy d delete call result
  obtain ⟨hreplies, -, -, hunit, -⟩ :=
    only_a_fallback_replies_to_a_call_for_no_content d (.bringing [.error (.transport busy)]) id call
      ⟨delete, "/users"⟩ { outside := () } rfl
  exact ⟨(hreplies _).mpr ⟨_, rfl, rfl, rfl⟩, hunit⟩

end HttpCalls
