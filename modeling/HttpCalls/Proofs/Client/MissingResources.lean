-- Missing resources. A shape that can be empty bears a response whose status says that the
-- resource is missing, whatever its headers and its body, as long as the body is no longer
-- than the client takes. A longer one fails as that: its length is judged before its status.
import HttpCalls.Client.Basic
import HttpCalls.Proofs.Dispatch.FallbackPolicy
import HttpCalls.Proofs.Results

namespace HttpCalls

variable {ω : Type}

/-! ## On one client -/

/-- A request gets through to the server, which answers it with a whole response. -/
structure HttpClient.Answered (n : Network ω) (c : HttpClient) (request : Request) (outside : ω)
    (r : Response) : Prop where
  opened : c.closed = false
  sent : ∃ out, (c.prepare request).1 = .ok out ∧ (n.send out outside).1 = .answered r

/-- What a missing resource fails as. -/
def HttpSettings.missing (s : HttpSettings) (r : Response) : TransportError :=
  if s.maxBodySize < r.body.length then .bodyTooLarge s.maxBodySize else statusFailure r

section
variable {s : HttpSettings} {r : Response}

theorem missing_of_fits (h : r.body.length ≤ s.maxBodySize) : s.missing r = statusFailure r :=
  if_neg (Nat.not_lt.mpr h)

theorem missing_of_long (h : s.maxBodySize < r.body.length) :
    s.missing r = .bodyTooLarge s.maxBodySize :=
  if_pos h

theorem judge_missing (h : r.status = .notFound) :
    s.judge (.answered r) = .error (s.missing r) := by
  have hfailure : r.status.isFailure = true := by
    rw [h]
    rfl
  unfold HttpSettings.missing
  simp only [HttpSettings.judge]
  split <;> rfl

end

section
variable {n : Network ω} {c : HttpClient} {request : Request} {outside : ω} {r : Response}

theorem send_answered (h : c.Answered n request outside r) :
    (c.send n request outside).1 = c.settings.judge (.answered r) := by
  obtain ⟨out, hout, hreaction⟩ := h.sent
  unfold HttpClient.send
  rw [h.opened]
  rcases hp : c.prepare request with ⟨result, c'⟩
  have hkept : c'.settings = c.settings := by
    have hc' : c' = (c.prepare request).2 := by rw [hp]
    rw [hc']
    rfl
  rw [hp] at hout
  cases hout
  simp only [Bool.false_eq_true, if_false, hreaction, hkept]

theorem redeem_missing {kind : ExchangeKind}
    (h : c.Answered n (HttpTicket.issue kind request).request outside r)
    (hmissing : r.status = .notFound) :
    ((HttpTicket.issue kind request).redeem n c outside).1 =
      [.error (.transport (c.settings.missing r))] := by
  have hresult := send_answered h
  rw [judge_missing hmissing] at hresult
  unfold HttpTicket.redeem
  simp only [hresult, itemsOf]

end

/-! ## On one exchange of a call -/

/-- What the shapes that can be empty are for a missing resource. -/
def ReturnShape.empty? {τ : Type} : ReturnShape → Option (Ending τ)
  | .value => some (.outcome (.value .null))
  | .optional => some (.outcome (.optional none))
  | .future _ => some (.resolved none)
  | _ => none

section
variable {κ τ : Type} {shape : ReturnShape} {ending : Ending τ}

theorem made_of_empty (h : shape.empty? = some ending) : shape.made none = .ok ending := by
  cases shape <;> cases h
  · rfl
  · rfl
  · rename_i element
    cases element <;> rfl

theorem bears_of_empty {e : DispatchError} (h : shape.empty? = some ending)
    (he : e.isNotFound = true) : shape.bears e := by
  cases shape <;> cases h
  · exact ⟨.inl rfl, he⟩
  · exact ⟨.inr (.inl rfl), he⟩
  · exact ⟨.inr (.inr ⟨_, rfl⟩), he⟩

theorem deciding_of_empty {item : Item} (h : shape.empty? = some ending) :
    deciding shape [item] = some item := by
  cases shape <;> cases h <;> rfl

/-- A call whose result can be empty ends on the items of one exchange. -/
theorem empty_ends_on_one_exchange {d : Dispatcher τ} {t : Transport κ τ ω}
    {meanwhile : Session κ ω → Session κ ω} {call : Call} {mapping : Mapping}
    {registration : Registration} {s s' : Session κ ω} (hshape : call.returns.empty? = some ending)
    (hm : call.mapping = some mapping)
    (hr : s.register d.resolver t call = (.ok registration, s')) :
    EndsOnOneExchange d t meanwhile call registration.client s s' := by
  have hp := invoke_registered hm hr
  cases hc : call.returns <;> rw [hc] at hshape <;> cases hshape <;>
    simp only [Dispatcher.perform, hc] at hp
  case value =>
    refine awaited_ends_on_one_exchange hp (by simp) (by simp) (by rw [hc]; rfl) fun items => ?_
    rw [hc]
    exact settleValue_follows _ _ items .value .value rfl (by simp)
      (fun e => by simp [ReturnShape.bears]) (fun _ => rfl) fun _ => rfl
  case optional =>
    refine awaited_ends_on_one_exchange hp (by simp) (by simp) (by rw [hc]; rfl) fun items => ?_
    rw [hc]
    exact settleValue_follows _ _ items .optional (fun v => .optional (optionalOf v)) rfl (by simp)
      (fun e => by simp [ReturnShape.bears]) (fun _ => rfl) fun _ => rfl
  case future element => exact future_ends_on_one_exchange hc hp

end

/-! ## The law -/

/-- A call reaches the server, which answers with a whole response. `client` is what the client
of the call has become when its exchange runs. -/
def ReachesServer (d : Dispatcher HttpTicket) (t : Transport HttpClient HttpTicket ω)
    (n : Network ω) (meanwhile : Session HttpClient ω → Session HttpClient ω) (call : Call)
    (s : Session HttpClient ω) (client : HttpClient) (r : Response) : Prop :=
  ∃ registration s' kind request,
    s.register d.resolver t call = (.ok registration, s') ∧
    (d.invoke t call s).effects.started = [(kind, request)] ∧
    let running := call.returns.between meanwhile s'
    running.registry.clients[registration.client]? = some client ∧
    client.Answered n (HttpTicket.issue kind request).request running.outside r

/-- A missing resource whose notice is no longer than the client takes is an empty result, and no
fallback is used for it. A longer notice is a failure that is not told from other failures. -/
theorem a_missing_resource_is_empty_unless_its_notice_is_too_long (d : Dispatcher HttpTicket)
    (settings : HttpSettings) (n : Network ω) (platform : Platform)
    (meanwhile : Session HttpClient ω → Session HttpClient ω) (call : Call)
    (s : Session HttpClient ω) (client : HttpClient) (r : Response) (ending : Ending HttpTicket)
    (hshape : call.returns.empty? = some ending)
    (hreached : ReachesServer d (httpTransport settings n platform) n meanwhile call s client r)
    (hmissing : r.status = .notFound) :
    let ended := d.seeThrough (httpTransport settings n platform) meanwhile call s
    let limit := client.settings.maxBodySize
    (r.body.length ≤ limit → ended.result = .ok ending ∧ ended.effects.invoked = []) ∧
    (limit < r.body.length →
      FollowsPolicy call.returns (d.fallbacks.find call.operation) call.params
        [.error (.transport (.bodyTooLarge limit))] ended.result ended.effects.invoked) := by
  intro ended limit
  obtain ⟨registration, s', kind, request, hr, hstarted, hclient, hanswered⟩ := hreached
  obtain ⟨mapping, hm⟩ : ∃ mapping, call.mapping = some mapping := by
    cases hm : call.mapping with
    | some mapping => exact ⟨mapping, rfl⟩
    | none => simp [Dispatcher.invoke, hm] at hstarted
  have hone : EndsOnOneExchange d (httpTransport settings n platform) meanwhile call
      registration.client s s' := empty_ends_on_one_exchange hshape hm hr
  obtain ⟨kind', request', hstarted', -, -, hends⟩ := hone
  -- a call starts one exchange, so the one it ends on is the one that reached the server
  obtain ⟨rfl, rfl⟩ : kind = kind' ∧ request = request' := by
    rw [hstarted] at hstarted'
    simpa using hstarted'
  have hpolicy := hends [.error (.transport (client.settings.missing r))] (by
    rw [← redeem_missing hanswered hmissing]
    unfold exchanged Session.redeem
    simp only [Session.start, httpTransport, hclient])
  constructor
  · intro hfits
    rw [missing_of_fits hfits] at hpolicy
    have hbears : call.returns.bears (.transport (statusFailure r)) :=
      bears_of_empty hshape (by simp [DispatchError.isNotFound, statusFailure,
        TransportError.isNotFound, hmissing])
    constructor
    · rw [← made_of_empty hshape]
      exact hpolicy.missing _ (deciding_of_empty hshape) hbears
    · rcases hpolicy.at_most_once with hunused | ⟨fallback, -, hused⟩
      · exact hunused
      · obtain ⟨⟨e, hdecides, hnot⟩, -⟩ := hpolicy.used_iff.mp (by simp [hused])
        exact absurd (failure_unique (deciding_of_empty hshape) hdecides ▸ hbears) hnot
  · intro hlong
    rwa [missing_of_long hlong] at hpolicy

/-- One and the same notice is an empty value to a client that takes twelve octets, and leaves the
call to its fallback with one that takes four. -/
theorem a_missing_user_under_two_limits :
    let url : Url := { scheme := "https".toList, authority := some "users.example".toList,
                       path := ['/'], query := none, fragment := none }
    let key : OperationKey := ⟨"UserApi", "get", []⟩
    let cached : Fallback := { label := "cached", answer := fun _ => .ok (.body (.bool true)) }
    let notice : Response :=
      { status := .notFound, headers := [], body := Utf8.ofString "no such user" }
    let n : Network Unit := { send := fun _ _ => (.answered notice, ()) }
    let d : Dispatcher HttpTicket := { fallbacks := ({} : Fallbacks).register key cached }
    let call : Call := { service := ⟨["users"]⟩, operation := key, mapping := some ⟨.get, "/7"⟩ }
    let client (maxBodySize : Nat) : HttpClient :=
      { service := ⟨["users"]⟩, balancer := .fixed (.ofUrl url), codec := {}, userAgent := .json
        settings := { maxBodySize } }
    let ended (maxBodySize : Nat) := d.seeThrough (httpTransport {} n) id call
      { registry := { registered := [(⟨["users"]⟩, ⟨0, ""⟩)], clients := [client maxBodySize] }
        outside := () }
    (ended 12).result = .ok (.outcome (.value .null)) ∧
      (ended 4).effects.invoked = [⟨"cached", []⟩] := by
  intro url key cached notice n d call client ended
  have hlaw (maxBodySize : Nat)
      (hsent : ((client maxBodySize).prepare
        (HttpTicket.issue .retrieve (mappedRequest "" ⟨.get, "/7"⟩ [])).request).1.toOption.isSome) :=
    a_missing_resource_is_empty_unless_its_notice_is_too_long d {} n {} id call
      { registry := { registered := [(⟨["users"]⟩, ⟨0, ""⟩)], clients := [client maxBodySize] }
        outside := () }
      (client maxBodySize) notice _ rfl
      ⟨⟨0, ""⟩, _, .retrieve, _, rfl, rfl, rfl, rfl,
        (Option.isSome_iff_exists.mp hsent).imp fun _ hout => ⟨toOption_eq_some.mp hout, rfl⟩⟩ rfl
  constructor
  · exact ((hlaw 12 (by decide +kernel)).1 (by decide)).1
  · have hpolicy := (hlaw 4 (by decide +kernel)).2 (by decide)
    have hused := hpolicy.used_iff.mpr
      ⟨⟨_, rfl, fun hbears => absurd hbears.2 (by decide)⟩, by decide, rfl⟩
    rcases hpolicy.at_most_once with hunused | ⟨fallback, hfound, hinvoked⟩
    · exact absurd hunused hused
    · exact hinvoked.trans (by cases hfound; rfl)

end HttpCalls
