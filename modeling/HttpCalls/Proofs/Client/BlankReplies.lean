-- The two readings of a body. What a server sends is read by the codec of its client; what a
-- fallback replies is read off its response. They come to the same value for every body but one
-- kind: one that is blank and not empty has no value to the codec, and is refused in a response.
import HttpCalls.Proofs.Client.Answers
import HttpCalls.Proofs.Client.SharedClients
import HttpCalls.Proofs.Json.ReadBack

namespace HttpCalls

/-! ## Blank bodies -/

/-- A body of blank space, with at least one octet of it. -/
def IsBlankText (body : Bytes) : Prop := body ≠ [] ∧ ∀ b ∈ body, Blank.isAscii b = true

instance (body : Bytes) : Decidable (IsBlankText body) :=
  decidable_of_iff (body ≠ [] ∧ body.all Blank.isAscii = true) (by rw [List.all_eq_true, IsBlankText])

namespace Json.Reader

/-- Of ASCII blank space JSON skips all but what begins with a form feed. -/
theorem skipBlank_ascii {s : Bytes} (h : ∀ b ∈ s, Blank.isAscii b = true) :
    skipBlank s = [] ∨ ∃ rest, skipBlank s = 0x0C :: rest := by
  induction s with
  | nil => exact .inl rfl
  | cons b rest ih =>
    by_cases hjson : Blank.isJson b = true
    · rw [skipBlank, List.dropWhile_cons_of_pos hjson]
      exact ih fun c hc => h c (List.mem_cons_of_mem b hc)
    · have hfeed : b = 0x0C := by simpa [Blank.isAscii, hjson] using h b List.mem_cons_self
      rw [skipBlank, List.dropWhile_cons_of_neg hjson, hfeed]
      exact .inr ⟨rest, rfl⟩

theorem parse_blank {s : Bytes} (h : ∀ b ∈ s, Blank.isAscii b = true) : ∃ e, parse s = .error e := by
  obtain ⟨nested, hvalue⟩ := value_eq maxDepth
  have hrefused : ∃ fault, valueWith nested s = .error fault := by
    unfold valueWith
    rcases skipBlank_ascii h with hnone | ⟨rest, hfeed⟩
    · rw [hnone]
      exact ⟨_, rfl⟩
    · rw [hfeed]
      exact ⟨_, rfl⟩
  obtain ⟨fault, hfault⟩ := hrefused
  refine ⟨fault.locate s, ?_⟩
  rw [parse, document, hvalue, hfault]
  rfl

end Json.Reader

/-! ## The two readings -/

/-- What the codec of a client without features reads in a body. No value is `null`, and a failure
is told as that of a conversion. -/
def decodedValue (body : Bytes) : Except DispatchError Json :=
  match ({} : Codec).decode body with
  | .ok v => .ok (v.getD .null)
  | .error e => .error (.unsupportedConversion "value" e.message)

theorem decode_blank {body : Bytes} (h : ∀ b ∈ body, Blank.isAscii b = true) :
    ({} : Codec).decode body = .ok none := by
  unfold Codec.decode
  rw [List.all_eq_true.mpr h]
  rfl

theorem decode_full {body : Bytes} (h : ¬ ∀ b ∈ body, Blank.isAscii b = true) :
    ({} : Codec).decode body = (Json.parse body).map some := by
  have hfull : body.all Blank.isAscii = false := by
    rw [← Bool.not_eq_true, List.all_eq_true]
    exact h
  have hkept : ({} : Codec).unwrapped = id := by
    funext v
    unfold Codec.unwrapped
    split <;> rfl
  unfold Codec.decode
  rw [hfull, hkept]
  rfl

theorem value_full {r : Response} (h : r.body ≠ []) :
    (Reply.response r).value =
      (Json.parse r.body).mapError fun e => .unsupportedConversion "value" e.message := by
  have hsome : r.body.isEmpty = false := List.isEmpty_eq_false_iff.mpr h
  rw [Reply.value, hsome]
  rfl

theorem value_eq_decodedValue {r : Response} (h : ¬ IsBlankText r.body) :
    (Reply.response r).value = decodedValue r.body := by
  by_cases hbody : r.body = []
  · simp [Reply.value, decodedValue, hbody, Codec.decode]
  · have hfull : ¬ ∀ b ∈ r.body, Blank.isAscii b = true := fun hall => h ⟨hbody, hall⟩
    rw [value_full hbody, decodedValue, decode_full hfull]
    cases Json.parse r.body with
    | ok v => rfl
    | error e => rfl

/-- A response of blank space is refused. -/
theorem value_blankText {r : Response} (h : IsBlankText r.body) :
    ∃ reason, (Reply.response r).value = .error (.unsupportedConversion "value" reason) := by
  obtain ⟨e, he⟩ := Json.Reader.parse_blank h.2
  refine ⟨e.message, ?_⟩
  rw [value_full h.1, he]
  rfl

/-! ## Awaited values -/

variable {κ τ τ' ω ω' : Type}

def ReturnShape.IsValued (shape : ReturnShape) : Prop := shape = .value ∨ shape = .optional

/-- What an awaited call is settled on, as its caller has it. -/
def ReturnShape.settled (shape : ReturnShape) (v : Except DispatchError Json) : Ended τ :=
  v.bind fun v => shape.made (some (.body v))

/-- A call for a value ends with what is settled on the items of its one exchange. -/
theorem seeThrough_valued {d : Dispatcher τ} {t : Transport κ τ ω} {call : Call}
    {mapping : Mapping} {registration : Registration} {s s' : Session κ ω}
    (meanwhile : Session κ ω → Session κ ω) (hshape : call.returns.IsValued)
    (hm : call.mapping = some mapping)
    (hr : s.register d.resolver t call = (.ok registration, s')) :
    let request := mappedRequest registration.contextPath mapping call.params
    let settled := settleValue (d.fallbacks.find call.operation) call.params
      (Arrival.items (exchanged t id registration.client .retrieve request s').1)
    let ended := d.seeThrough t meanwhile call s
    (d.invoke t call s).effects.started = [(.retrieve, request)] ∧
      ended.result = call.returns.settled settled.result ∧
      ended.effects.invoked = settled.invoked := by
  intro request settled ended
  have hp := invoke_registered hm hr
  unfold ended
  rcases hshape with hshape | hshape
  all_goals
    simp only [Dispatcher.perform, hshape] at hp
    rw [seeThrough_awaiting hp (by simp) (by simp), hp, hshape]
    refine ⟨rfl, ?_, rfl⟩
    show settled.result.map _ = _
    cases settled.result <;> rfl

/-- What a fallback that is used replies is the value of the call. -/
theorem settleValue_used {found : Option Resolved} {params : List Param} {items : List Item}
    (h : (settleValue found params items).invoked ≠ []) :
    ∃ resolved, found = some resolved ∧
      (settleValue found params items).result = (resolved.invoke params).bind Reply.value := by
  rcases items with _ | ⟨e | reply, more⟩
  · exact absurd rfl h
  · by_cases hmissing : e.isNotFound = true
    · simp [settleValue, awaitValue, hmissing] at h
    · simp only [settleValue, awaitValue, hmissing, if_false, Bool.false_eq_true] at h ⊢
      rcases recover_cases found params e with ⟨resolved, -, hfound, -, hrecover⟩ | ⟨-, hrecover⟩
      · exact ⟨resolved, hfound, by rw [hrecover]⟩
      · rw [hrecover] at h
        exact absurd rfl h
  · rw [settleValue_reply] at h
    exact absurd rfl h

/-! ## On one exchange -/

/-- The fallback of a call, if it has one, replies with a response of this body. -/
def Dispatcher.RepliesWith (d : Dispatcher τ) (call : Call) (body : Bytes) : Prop :=
  ∀ found, d.fallbacks.find call.operation = some found →
    ∃ r, found.fallback.answer call.params = .ok (.response r) ∧ r.body = body

theorem Dispatcher.RepliesWith.value {d : Dispatcher τ} {call : Call} {body : Bytes}
    (h : d.RepliesWith call body) {found : Resolved}
    (hfound : d.fallbacks.find call.operation = some found) :
    ∃ r, r.body = body ∧ (found.invoke call.params).bind Reply.value = (Reply.response r).value := by
  obtain ⟨r, hanswer, hbody⟩ := h found hfound
  refine ⟨r, hbody, ?_⟩
  rw [Resolved.invoke, hanswer]
  rfl

theorem exchanged_http {settings : HttpSettings} {n : Network ω} {platform : Platform}
    {between : Session HttpClient ω → Session HttpClient ω} {client : Nat} {state : HttpClient}
    {s : Session HttpClient ω} (kind : ExchangeKind) (request : Request)
    (h : (between s).registry.clients[client]? = some state) :
    (exchanged (httpTransport settings n platform) between client kind request s).1 =
      ((HttpTicket.issue kind request).redeem n state (between s).outside).1.map .item := by
  unfold exchanged Session.redeem
  simp only [Session.start, httpTransport, h]

theorem redeem_retrieved {n : Network ω} {c : HttpClient} {request : Request} {outside : ω}
    {r : Response} (h : c.Answered n (HttpTicket.issue .retrieve request).request outside r)
    (hfits : r.body.length ≤ c.settings.maxBodySize) (hstatus : r.status.isFailure = false) :
    ((HttpTicket.issue .retrieve request).redeem n c outside).1 =
      itemsOf c.codec .retrieve (.ok r) := by
  have hresult := (send_answered h).trans (judge_fits hfits)
  rw [hstatus] at hresult
  have hcodec : (c.send n (HttpTicket.issue .retrieve request).request outside).2.1.codec = c.codec := by
    rw [HttpClient.send_moves, HttpClient.moved]
    split <;> rfl
  unfold HttpTicket.redeem
  simp only [hresult, hcodec]
  rfl

theorem itemsOf_retrieve (codec : Codec) (r : Response) :
    itemsOf codec .retrieve (.ok r) =
      match codec.decode r.body with
      | .ok (some v) => [.ok (.body v)]
      | .ok none => []
      | .error e => [.error (.transport (.codec e))] :=
  rfl

/-- What is settled on a body that the codec read, if a fallback could only reply with that body. -/
theorem settleValue_served {d : Dispatcher τ} {call : Call} {r : Response}
    (hreplies : d.RepliesWith call r.body) :
    let settled := settleValue (d.fallbacks.find call.operation) call.params
      (itemsOf {} .retrieve (.ok r))
    (∀ v, decodedValue r.body = .ok v → settled.result = .ok v) ∧
      ∀ e, decodedValue r.body = .error e → ∃ e', settled.result = .error e' := by
  intro settled
  unfold settled decodedValue
  rw [itemsOf_retrieve]
  cases hdecoded : ({} : Codec).decode r.body with
  | ok decoded =>
    refine ⟨?_, nofun⟩
    rintro v ⟨⟩
    cases decoded <;> rfl
  | error cause =>
    refine ⟨nofun, ?_⟩
    rintro e -
    cases hfound : d.fallbacks.find call.operation with
    | none => exact ⟨_, rfl⟩
    | some found =>
      -- the codec refuses no blank body, so the fallback is read as the codec read the server
      have hfull : ¬ IsBlankText r.body := by
        intro hblank
        rw [decode_blank hblank.2] at hdecoded
        cases hdecoded
      obtain ⟨r', hbody, hvalue⟩ := hreplies.value hfound
      rw [← hbody] at hfull hdecoded
      rw [value_eq_decodedValue hfull, decodedValue, hdecoded] at hvalue
      exact ⟨_, hvalue⟩

/-! ## How calls end -/

/-- A server answers a call with a body that its client takes, and a fallback that the call may
have replies with that body, too. -/
def IsServed (d : Dispatcher HttpTicket) (t : Transport HttpClient HttpTicket ω) (n : Network ω)
    (meanwhile : Session HttpClient ω → Session HttpClient ω) (call : Call)
    (s : Session HttpClient ω) (body : Bytes) : Prop :=
  ∃ client r, ReachesServer d t n meanwhile call s client r ∧ r.body = body ∧
    r.status.isFailure = false ∧ body.length ≤ client.settings.maxBodySize ∧ client.codec = {} ∧
    d.RepliesWith call body

/-- A fallback is used for a call and replies with a response of this body. -/
def IsHelped (d : Dispatcher τ) (t : Transport κ τ ω) (meanwhile : Session κ ω → Session κ ω)
    (call : Call) (s : Session κ ω) (body : Bytes) : Prop :=
  (∃ mapping, call.mapping = some mapping) ∧
    (d.seeThrough t meanwhile call s).effects.invoked ≠ [] ∧ d.RepliesWith call body

theorem result_of_served {d : Dispatcher HttpTicket} {settings : HttpSettings} {n : Network ω}
    {platform : Platform} {meanwhile : Session HttpClient ω → Session HttpClient ω} {call : Call}
    {s : Session HttpClient ω} {body : Bytes} (hshape : call.returns.IsValued)
    (h : IsServed d (httpTransport settings n platform) n meanwhile call s body) :
    let ended := d.seeThrough (httpTransport settings n platform) meanwhile call s
    (∀ v, decodedValue body = .ok v → ended.result = call.returns.settled (.ok v)) ∧
      ∀ e, decodedValue body = .error e → ∃ e', ended.result = .error e' := by
  intro ended
  obtain ⟨client, r, hreached, rfl, hstatus, hfits, hcodec, hreplies⟩ := h
  obtain ⟨registration, s', kind, request, hr, hstarted, hclient, hanswered⟩ := hreached
  obtain ⟨mapping, hm⟩ : ∃ mapping, call.mapping = some mapping := by
    cases hm : call.mapping with
    | some mapping => exact ⟨mapping, rfl⟩
    | none => simp [Dispatcher.invoke, hm] at hstarted
  obtain ⟨hstarted', hresult, -⟩ := seeThrough_valued meanwhile hshape hm hr
  obtain ⟨rfl, rfl⟩ : kind = .retrieve ∧
      request = mappedRequest registration.contextPath mapping call.params := by
    rw [hstarted] at hstarted'
    simpa using hstarted'
  have hawaited : call.returns.between meanwhile = id := by
    rcases hshape with h | h <;> rw [h] <;> rfl
  rw [hawaited] at hclient hanswered
  rw [exchanged_http .retrieve _ hclient, redeem_retrieved hanswered hfits hstatus, hcodec,
    items_map_item] at hresult
  obtain ⟨hvalue, herror⟩ := settleValue_served hreplies
  constructor
  · intro v hv
    rw [← hvalue v hv]
    exact hresult
  · intro e he
    obtain ⟨e', he'⟩ := herror e he
    rw [he'] at hresult
    exact ⟨e', hresult⟩

theorem result_of_helped {d : Dispatcher τ} {t : Transport κ τ ω}
    {meanwhile : Session κ ω → Session κ ω} {call : Call} {s : Session κ ω} {body : Bytes}
    (hshape : call.returns.IsValued) (h : IsHelped d t meanwhile call s body) :
    ∃ r, r.body = body ∧ (d.seeThrough t meanwhile call s).result =
      call.returns.settled (Reply.response r).value := by
  obtain ⟨⟨mapping, hm⟩, hused, hreplies⟩ := h
  rcases hr : s.register d.resolver t call with ⟨e | registration, s'⟩
  · rw [seeThrough_unregistered hm hr] at hused
    exact absurd rfl hused
  · obtain ⟨-, hresult, hinvoked⟩ := seeThrough_valued meanwhile hshape hm hr
    rw [hinvoked] at hused
    obtain ⟨found, hfound, hsettled⟩ := settleValue_used hused
    obtain ⟨r, hbody, hvalue⟩ := hreplies.value hfound
    exact ⟨r, hbody, by rw [hresult, hsettled, hvalue]⟩

/-! ## The law -/

/-- Two calls of a shape end with the same value, or both fail. -/
inductive EndAlike (shape : ReturnShape) (ended : Ended τ) (other : Ended τ') : Prop
  | value (v : Json) (h : ended = shape.settled (.ok v)) (h' : other = shape.settled (.ok v))
  | failure (e e' : DispatchError) (h : ended = .error e) (h' : other = .error e')

/-- How a call of a shape can end that a server answers with a body. -/
def ReturnShape.EndsServed (shape : ReturnShape) (body : Bytes) (result : Ended HttpTicket) : Prop :=
  ∃ (ω : Type) (d : Dispatcher HttpTicket) (settings : HttpSettings) (n : Network ω)
    (platform : Platform) (meanwhile : Session HttpClient ω → Session HttpClient ω) (call : Call)
    (s : Session HttpClient ω),
    let t := httpTransport settings n platform
    call.returns = shape ∧ IsServed d t n meanwhile call s body ∧
      (d.seeThrough t meanwhile call s).result = result

/-- How a call of a shape can end that a fallback helps with a response of a body. -/
def ReturnShape.EndsHelped (shape : ReturnShape) (body : Bytes) (result : Ended τ) : Prop :=
  ∃ (κ ω : Type) (d : Dispatcher τ) (t : Transport κ τ ω)
    (meanwhile : Session κ ω → Session κ ω) (call : Call) (s : Session κ ω),
    call.returns = shape ∧ IsHelped d t meanwhile call s body ∧
      (d.seeThrough t meanwhile call s).result = result

/-- A body is read in a response as the codec reads it, and both ways to its value end alike. -/
structure ReadAlike (body : Bytes) : Prop where
  read : ∀ r : Response, r.body = body → (Reply.response r).value = decodedValue body
  ended : ∀ {τ : Type} (shape : ReturnShape) (answered : Ended HttpTicket) (replied : Ended τ),
    shape.IsValued → shape.EndsServed body answered → shape.EndsHelped body replied →
      EndAlike shape answered replied

/-- The codec reads no value in a body, whereas a response of that body is refused. -/
structure RefusedInReplies (body : Bytes) : Prop where
  decoded : ({} : Codec).decode body = .ok none
  refused : ∀ r : Response, r.body = body →
    ∃ reason, (Reply.response r).value = .error (.unsupportedConversion "value" reason)
  answered : ∀ (shape : ReturnShape) (answered : Ended HttpTicket),
    shape.IsValued → shape.EndsServed body answered → answered = shape.settled (.ok .null)
  replied : ∀ {τ : Type} (shape : ReturnShape) (replied : Ended τ),
    shape.IsValued → shape.EndsHelped body replied →
      ∃ reason, replied = .error (.unsupportedConversion "value" reason)

theorem readAlike_of_full {body : Bytes} (h : ¬ IsBlankText body) : ReadAlike body := by
  have hread : ∀ r : Response, r.body = body → (Reply.response r).value = decodedValue body := by
    rintro r rfl
    exact value_eq_decodedValue h
  refine ⟨hread, ?_⟩
  rintro τ _ _ _ hshape ⟨ω, d, settings, n, platform, meanwhile, call, s, rfl, hserved, rfl⟩
    ⟨κ, ω', d', t, meanwhile', call', s', hsame, hhelped, rfl⟩
  obtain ⟨hvalue, herror⟩ := result_of_served hshape hserved
  obtain ⟨r, hbody, hreplied⟩ := result_of_helped (hsame ▸ hshape) hhelped
  rw [hsame, hread r hbody] at hreplied
  cases hdecoded : decodedValue body with
  | ok v =>
    rw [hdecoded] at hreplied
    exact .value v (hvalue v hdecoded) hreplied
  | error e =>
    obtain ⟨e', he'⟩ := herror e hdecoded
    rw [hdecoded] at hreplied
    exact .failure e' e he' hreplied

theorem refusedInReplies_of_blank {body : Bytes} (h : IsBlankText body) : RefusedInReplies body := by
  have hnone := decode_blank h.2
  have hnull : decodedValue body = .ok .null := by
    rw [decodedValue, hnone]
    rfl
  have hrefused : ∀ r : Response, r.body = body →
      ∃ reason, (Reply.response r).value = .error (.unsupportedConversion "value" reason) := by
    rintro r rfl
    exact value_blankText h
  refine ⟨hnone, hrefused, ?_, ?_⟩
  · rintro _ _ hshape ⟨ω, d, settings, n, platform, meanwhile, call, s, rfl, hserved, rfl⟩
    exact (result_of_served hshape hserved).1 .null hnull
  · rintro τ _ _ hshape ⟨κ, ω, d, t, meanwhile, call, s, rfl, hhelped, rfl⟩
    obtain ⟨r, hbody, hreplied⟩ := result_of_helped hshape hhelped
    obtain ⟨reason, hreason⟩ := hrefused r hbody
    rw [hreason] at hreplied
    exact ⟨reason, hreplied⟩

/-- A fallback that replies with a response is read as a server that sends the same body, unless
the body is blank and not empty. Then the server gives no value, and the fallback fails. -/
theorem a_reply_is_read_like_an_answer_unless_it_is_blank (body : Bytes) :
    if IsBlankText body then RefusedInReplies body else ReadAlike body := by
  split
  · rename_i h
    exact refusedInReplies_of_blank h
  · rename_i h
    exact readAlike_of_full h

/-- A user from the server and from a fallback for a server that is down, and a line end in the
place of the user. -/
theorem a_user_and_a_line_end_from_a_fallback :
    let url : Url := { scheme := "https".toList, authority := some "users.example".toList,
                       path := ['/'], query := none, fragment := none }
    let key : OperationKey := ⟨"UserApi", "get", []⟩
    let answer (body : Bytes) : Response := { status := .ok, headers := [], body }
    let cached (body : Bytes) : Fallback :=
      { label := "cached", answer := fun _ => .ok (.response (answer body)) }
    let d (body : Bytes) : Dispatcher HttpTicket :=
      { fallbacks := ({} : Fallbacks).register key (cached body) }
    let call : Call := { service := ⟨["users"]⟩, operation := key, mapping := some ⟨.get, "/7"⟩ }
    let client : HttpClient :=
      { service := ⟨["users"]⟩, balancer := .fixed (.ofUrl url), codec := {}, userAgent := .json
        settings := {} }
    let ended (body : Bytes) (reaction : Reaction) :=
      (d body).seeThrough (httpTransport {} { send := fun _ (_ : Unit) => (reaction, ()) }) id call
        { registry := { registered := [(⟨["users"]⟩, ⟨0, ""⟩)], clients := [client] }, outside := () }
    let user := Utf8.ofString "\x7b\"id\": 7\x7d\n"
    let lineEnd := Utf8.ofString "\r\n"
    EndAlike .value (ended user (.answered (answer user))).result (ended user .silent).result ∧
      (ended lineEnd (.answered (answer lineEnd))).result = .ok (.outcome (.value .null)) ∧
      ∃ reason, (ended lineEnd .silent).result = .error (.unsupportedConversion "value" reason) := by
  intro url key answer cached d call client ended user lineEnd
  have hsent : (client.prepare
      (HttpTicket.issue .retrieve (mappedRequest "" ⟨.get, "/7"⟩ [])).request).1.toOption.isSome := by
    decide +kernel
  have hreplies (body : Bytes) : (d body).RepliesWith call body := by
    intro found hfound
    cases hfound
    exact ⟨answer body, rfl, rfl⟩
  have hserved (body : Bytes) (hfits : body.length ≤ client.settings.maxBodySize) :
      ReturnShape.value.EndsServed body (ended body (.answered (answer body))).result :=
    ⟨Unit, d body, {}, _, {}, id, call, _, rfl,
      ⟨client, answer body, ⟨⟨0, ""⟩, _, .retrieve, _, rfl, rfl, rfl, rfl,
        (Option.isSome_iff_exists.mp hsent).imp fun _ hout => ⟨toOption_eq_some.mp hout, rfl⟩⟩,
        rfl, rfl, hfits, rfl, hreplies body⟩, rfl⟩
  have hhelped (body : Bytes) (hused : (ended body .silent).effects.invoked ≠ []) :
      ReturnShape.value.EndsHelped body (ended body .silent).result :=
    ⟨_, _, d body, _, id, call, _, rfl, ⟨⟨_, rfl⟩, hused, hreplies body⟩, rfl⟩
  have hread : ReadAlike user := by
    have h := a_reply_is_read_like_an_answer_unless_it_is_blank user
    rwa [if_neg (by decide)] at h
  have hrefused : RefusedInReplies lineEnd := by
    have h := a_reply_is_read_like_an_answer_unless_it_is_blank lineEnd
    rwa [if_pos (by decide)] at h
  refine ⟨?_, ?_, ?_⟩
  · exact hread.ended .value _ _ (.inl rfl) (hserved user (by decide)) (hhelped user (by decide +kernel))
  · exact hrefused.answered .value _ (.inl rfl) (hserved lineEnd (by decide))
  · exact hrefused.replied .value _ (.inl rfl) (hhelped lineEnd (by decide +kernel))

end HttpCalls
