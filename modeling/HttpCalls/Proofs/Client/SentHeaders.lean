-- The headers of requests on their way out. What the parameters of a call send goes out as it was
-- built, all values of a name in their order. A client adds its own name, and the format of a
-- body, only where there is none. What a call accepts is replaced or added as the shape of its
-- result says. No other header comes in.
import HttpCalls.Client.Basic
import HttpCalls.Proofs.Call.HeaderParams
import HttpCalls.Proofs.Client.SharedClients
import HttpCalls.Proofs.Dispatch.SeenThrough

namespace HttpCalls

variable {ω : Type}

/-! ## What goes out -/

/-- The types that a caller takes, in one text. -/
inductive Call.Takes (call : Call) : List Char → Prop
  | json : call.consumes = [] → call.Takes "application/json".toList
  | listed : call.consumes ≠ [] →
      call.Takes (Text.joined ", ".toList (call.consumes.map String.toList))

/-- The shapes that are not awaited, with replies that hold something. -/
def ReturnShape.Negotiates : ReturnShape → Prop
  | .future element | .stream _ element => element ≠ .noContent
  | _ => False

/-- The shapes that are made of the value of a body. -/
def ReturnShape.Retrieves : ReturnShape → Prop
  | .value | .optional => True
  | .future element | .stream _ element => element = .body
  | _ => False

/-- A call asks for the types that its caller takes, whatever its parameters say. Text that is no
legal value replaces nothing. -/
def Call.Replaces (call : Call) (value : HeaderValue) : Prop :=
  call.returns.Negotiates ∧ call.Takes value.text

/-- What a call accepts on its way out, where its parameters accept `built`. -/
inductive AcceptedAs (call : Call) (built : List HeaderValue) : List HeaderValue → Prop
  | replaced {value} : call.Replaces value → AcceptedAs call built [value]
  | added : (∀ value, ¬call.Replaces value) → call.returns.Retrieves → built = [] →
      AcceptedAs call built [.json]
  | kept : (∀ value, ¬call.Replaces value) → (call.returns.Retrieves → built ≠ []) →
      AcceptedAs call built built

/-- What goes out carries the headers that were built, and what had to be added or replaced. -/
structure CarriesHeaders (call : Call) (built : Headers) (userAgent : HeaderValue)
    (out : Outgoing) : Prop where
  user_agent : out.headers.values .userAgent =
    if built.values .userAgent = [] then [userAgent] else built.values .userAgent
  content_type : out.headers.values .contentType =
    if out.body.isSome ∧ built.values .contentType = [] then [.json]
    else built.values .contentType
  accept : AcceptedAs call (built.values .accept) (out.headers.values .accept)
  others : ∀ name, name ≠ .userAgent → name ≠ .contentType → name ≠ .accept →
    out.headers.values name = built.values name

/-- Where a client would send a request. -/
def HttpClient.target (c : HttpClient) (r : Request) : Except TransportError RequestUri :=
  c.balancer.select.1.bind fun endpoint => uriAt c.settings.security endpoint r.uri

/-- What a client hands to the network for a request of a call: nothing if it is closed or has no
place to send it to, and else one request. -/
inductive HandsOver (call : Call) (request : Request) : Option HttpClient → List Outgoing → Prop
  | unheld : HandsOver call request none []
  | refused {c} : (c.closed = true ∨ ∃ e, c.target request = .error e) →
      HandsOver call request (some c) []
  | sent {c out} : c.closed = false → c.target request = .ok out.uri →
      out.method = request.method → out.body = request.body.map c.codec.encode →
      CarriesHeaders call request.headers c.userAgent out → HandsOver call request (some c) [out]

/-- What the client of a number has handed over for a request of a call from one session to
another. -/
def HandedOver (call : Call) (request : Request) (number : Nat)
    (s s' : Session HttpClient (ω × List Outgoing)) : Prop :=
  ∃ sent, s'.outside.2 = s.outside.2 ++ sent ∧
    HandsOver call request s.registry.clients[number]? sent

/-! ## Values under a name -/

namespace Headers

variable (headers : Headers) (name other : HeaderName) (value : HeaderValue)

theorem has_eq_false : has headers name = false ↔ values headers name = [] := by
  unfold has values
  rw [List.any_eq_false, List.filterMap_eq_nil_iff]
  apply forall_congr'
  intro header
  apply imp_congr_right
  intro _
  by_cases h : header.1 = name <;> simp [h]

theorem values_addIfAbsent : values (addIfAbsent headers name value) other =
    if name = other ∧ values headers other = [] then [value] else values headers other := by
  unfold addIfAbsent
  by_cases hname : name = other
  · subst hname
    cases hhas : has headers name with
    | false =>
      have hnone := (has_eq_false headers name).mp hhas
      simp [values_add, hnone]
    | true =>
      have hsome : values headers name ≠ [] := by
        intro hnone
        rw [(has_eq_false headers name).mpr hnone] at hhas
        cases hhas
      simp [hsome]
  · split <;> simp [values_add, hname]

end Headers

section
variable (userAgent : HeaderValue) (hasBody : Bool) (headers : Headers)

theorem userAgent_filledIn : (filledIn userAgent hasBody headers).values .userAgent =
    if headers.values .userAgent = [] then [userAgent] else headers.values .userAgent := by
  have hother : HeaderName.contentType ≠ .userAgent := by decide
  cases hasBody <;> simp [filledIn, Headers.values_addIfAbsent, hother]

theorem contentType_filledIn : (filledIn userAgent hasBody headers).values .contentType =
    if hasBody = true ∧ headers.values .contentType = [] then [.json]
    else headers.values .contentType := by
  have hother : HeaderName.userAgent ≠ .contentType := by decide
  cases hasBody <;> simp [filledIn, Headers.values_addIfAbsent, hother]

theorem other_filledIn {name : HeaderName} (hagent : name ≠ .userAgent)
    (htype : name ≠ .contentType) :
    (filledIn userAgent hasBody headers).values name = headers.values name := by
  cases hasBody <;> simp [filledIn, Headers.values_addIfAbsent, hagent.symm, htype.symm]

end

/-! ## Requests that are ready -/

/-- A request that is ready to be sent: what it accepts is settled, and nothing else is changed. -/
structure MadeReady (call : Call) (request ready : Request) : Prop where
  method : ready.method = request.method
  uri : ready.uri = request.uri
  body : ready.body = request.body
  accept : AcceptedAs call (request.headers.values .accept) (ready.headers.values .accept)
  others : ∀ name, name ≠ .accept → ready.headers.values name = request.headers.values name

section
variable {call : Call} {request : Request}

theorem takes_iff {text : List Char} : call.Takes text ↔ text = call.acceptText.toList := by
  unfold Call.acceptText joinStrings
  cases hconsumes : call.consumes with
  | nil =>
    constructor
    · rintro (h | h)
      · rfl
      · exact absurd hconsumes h
    · rintro rfl
      exact .json hconsumes
  | cons type more =>
    have hne : call.consumes ≠ [] := by rw [hconsumes]; exact List.cons_ne_nil _ _
    rw [List.isEmpty_cons, if_neg nofun, String.toList_ofList, ← hconsumes]
    constructor
    · rintro (h | h)
      · exact absurd h hne
      · rfl
    · rintro rfl
      exact .listed hne

/-- The header value of a text is the one that has this text. -/
theorem ofText?_eq_some_iff {text : List Char} {value : HeaderValue} :
    HeaderValue.ofText? text = some value ↔ value.text = text := by
  rw [HeaderValue.ofText?_eq_some]
  constructor
  · exact And.right
  · rintro rfl
    exact ⟨(all_isHeaderChar_iff value.text).mp value.valid, rfl⟩

section
variable {built sent : List HeaderValue}

theorem AcceptedAs.of_replaces (h : AcceptedAs call built sent) {value : HeaderValue}
    (hreplaces : call.Replaces value) : sent = [value] := by
  cases h with
  | @replaced other hother =>
    have htext : other.text = value.text :=
      (takes_iff.mp hother.2).trans (takes_iff.mp hreplaces.2).symm
    cases other
    cases htext
    rfl
  | added hkept => exact absurd hreplaces (hkept value)
  | kept hkept => exact absurd hreplaces (hkept value)

theorem AcceptedAs.of_kept (h : AcceptedAs call built sent) (hkept : ¬call.returns.Negotiates)
    (hbuilt : built ≠ []) : sent = built := by
  cases h with
  | replaced hreplaces => exact absurd hreplaces.1 hkept
  | added _ _ hnone => exact absurd hnone hbuilt
  | kept => rfl

end

theorem accept_issue (kind : ExchangeKind) (request : Request) :
    (HttpTicket.issue kind request).request.headers.values .accept =
      if kind = .retrieve ∧ request.headers.values .accept = [] then [.json]
      else request.headers.values .accept := by
  cases kind with
  | exchange => rw [if_neg fun h => nomatch h.1]; rfl
  | retrieve => simp [HttpTicket.issue, Headers.values_addIfAbsent]

theorem other_issue (kind : ExchangeKind) (request : Request) {name : HeaderName}
    (h : name ≠ .accept) : (HttpTicket.issue kind request).request.headers.values name =
      request.headers.values name := by
  cases kind with
  | exchange => rfl
  | retrieve => simp [HttpTicket.issue, Headers.values_addIfAbsent, h.symm]

variable {kind : ExchangeKind}

theorem madeReady_of_kept (hkept : ∀ value, ¬call.Replaces value)
    (hkind : call.returns.Retrieves ↔ kind = .retrieve) :
    MadeReady call request (HttpTicket.issue kind request).request where
  method := by cases kind <;> rfl
  uri := by cases kind <;> rfl
  body := by cases kind <;> rfl
  accept := by
    rw [accept_issue]
    split
    · rename_i hadded
      exact .added hkept (hkind.mpr hadded.1) hadded.2
    · rename_i hown
      exact .kept hkept fun hretrieves hnone => hown ⟨hkind.mp hretrieves, hnone⟩
  others name h := other_issue kind request h

theorem madeReady_of_replaced {value : HeaderValue} (hreplaced : call.Replaces value) :
    MadeReady call request (HttpTicket.issue kind
      { request with headers := request.headers.replace .accept value }).request where
  method := by cases kind <;> rfl
  uri := by cases kind <;> rfl
  body := by cases kind <;> rfl
  accept := by
    rw [accept_issue, Headers.values_replace, if_pos rfl, if_neg fun h => nomatch h.2]
    exact .replaced hreplaced
  others name h := by
    rw [other_issue _ _ h, Headers.values_replace, if_neg h.symm]

/-- Whoever awaits a result leaves it to the parameters what it accepts. -/
theorem madeReady_awaited (hawaited : call.returns.isNonBlocking = false)
    (hkind : call.returns.Retrieves ↔ kind = .retrieve) :
    MadeReady call request (HttpTicket.issue kind request).request := by
  refine madeReady_of_kept (fun value hreplaces => ?_) hkind
  have hnegotiates := hreplaces.1
  cases hreturns : call.returns with
  | future => rw [hreturns] at hawaited; cases hawaited
  | stream => rw [hreturns] at hawaited; cases hawaited
  | _ => rw [hreturns] at hnegotiates; exact hnegotiates

theorem madeReady_issued {element : Element}
    (hnegotiates : call.returns.Negotiates ↔ element ≠ .noContent)
    (hretrieves : call.returns.Retrieves ↔ element = .body) :
    MadeReady call request
      (HttpTicket.issue element.exchangeKind (issuedRequest call element request)).request := by
  have hkind : call.returns.Retrieves ↔ element.exchangeKind = .retrieve := by
    rw [hretrieves]
    cases element <;> decide
  unfold issuedRequest
  split
  · rename_i hempty
    exact madeReady_of_kept (fun value h => hnegotiates.mp h.1 hempty) hkind
  · rename_i hfull
    unfold withAccept
    split
    · rename_i value hvalue
      have htext := ofText?_eq_some_iff.mp hvalue
      exact madeReady_of_replaced ⟨hnegotiates.mpr hfull, takes_iff.mpr htext⟩
    · rename_i hillegal
      refine madeReady_of_kept (fun value h => ?_) hkind
      rw [ofText?_eq_some_iff.mpr (takes_iff.mp h.2)] at hillegal
      cases hillegal

end

/-! ## Exchanges -/

section
variable {call : Call} {request ready : Request}

theorem carriesHeaders_filledIn (hready : MadeReady call request ready) (userAgent : HeaderValue)
    {out : Outgoing} (hout : out.headers = filledIn userAgent out.body.isSome ready.headers) :
    CarriesHeaders call request.headers userAgent out where
  user_agent := by rw [hout, userAgent_filledIn, hready.others _ (by decide)]
  content_type := by rw [hout, contentType_filledIn, hready.others _ (by decide)]
  accept := by
    rw [hout, other_filledIn _ _ _ (by decide) (by decide)]
    exact hready.accept
  others name hagent htype haccept := by
    rw [hout, other_filledIn _ _ _ hagent htype, hready.others name haccept]

theorem prepare_eq (c : HttpClient) (request : Request) :
    (c.prepare request).1 = (c.target request).map fun uri => {
      method := request.method, uri
      headers := filledIn c.userAgent request.body.isSome request.headers
      body := request.body.map c.codec.encode } := by
  unfold HttpClient.prepare HttpClient.target
  dsimp only
  cases c.balancer.select.1 with
  | error e => rfl
  | ok endpoint =>
    show c.outgoing request endpoint = Except.map _ (uriAt c.settings.security endpoint request.uri)
    unfold HttpClient.outgoing
    cases uriAt c.settings.security endpoint request.uri <;> rfl

theorem handsOver_send (hready : MadeReady call request ready) (n : Network ω) (c : HttpClient)
    (outside : ω × List Outgoing) :
    ∃ sent, (c.send n.noting ready outside).2.2.2 = outside.2 ++ sent ∧
      HandsOver call request (some c) sent := by
  have hprepared := prepare_eq c ready
  have htarget : c.target ready = c.target request := by
    unfold HttpClient.target
    rw [hready.uri]
  refine ⟨c.handed ready, HttpClient.send_noting n ready c outside, ?_⟩
  unfold HttpClient.handed
  cases hclosed : c.closed with
  | true => exact .refused (.inl hclosed)
  | false =>
    rw [if_neg nofun, hprepared, htarget]
    cases hplace : c.target request with
    | error e => exact .refused (.inr ⟨e, hplace⟩)
    | ok uri =>
      refine .sent hclosed hplace hready.method ?_ ?_
      · dsimp only
        rw [hready.body]
      · refine carriesHeaders_filledIn hready _ ?_
        dsimp only
        rw [Option.isSome_map]

/-- An open client that has a place to send the request to hands it over. -/
theorem HandsOver.one {c : HttpClient} {sent : List Outgoing}
    (h : HandsOver call request (some c) sent) (hopen : c.closed = false)
    (htarget : (c.target request).toOption.isSome = true) :
    ∃ out, sent = [out] ∧ out.body = request.body.map c.codec.encode ∧
      CarriesHeaders call request.headers c.userAgent out := by
  cases h with
  | refused hrefused =>
    rcases hrefused with hclosed | ⟨e, herror⟩
    · rw [hopen] at hclosed
      cases hclosed
    · rw [herror] at htarget
      cases htarget
  | sent _ _ _ hbody hcarries => exact ⟨_, rfl, hbody, hcarries⟩

theorem handedOver_redeem (settings : HttpSettings) (n : Network ω) (platform : Platform)
    {ticket : HttpTicket} (hready : MadeReady call request ticket.request) (number : Nat)
    (s : Session HttpClient (ω × List Outgoing)) :
    HandedOver call request number s
      (s.redeem (httpTransport settings n.noting platform) number ticket).2 := by
  unfold HandedOver Session.redeem
  cases hclient : s.registry.clients[number]? with
  | none => exact ⟨[], (List.append_nil _).symm, .unheld⟩
  | some c => exact handsOver_send hready n c s.outside

theorem handedOver_awaiting {α : Type} {settings : HttpSettings} {n : Network ω}
    {platform : Platform} {kind : ExchangeKind} {settle : List Item → Settled α}
    {outcome : α → CallOutcome HttpTicket} (hawaited : call.returns.isNonBlocking = false)
    (hkind : call.returns.Retrieves ↔ kind = .retrieve) (number : Nat)
    (s : Session HttpClient (ω × List Outgoing)) :
    HandedOver call request number s
      (Dispatcher.awaiting (httpTransport settings n.noting platform) number kind request
        settle outcome s).session :=
  handedOver_redeem settings n platform (madeReady_awaited hawaited hkind) number s

end

/-! ## The law -/

/-- What the exchange of a call hands to the network carries the headers of the parameters. An
awaited exchange runs at once; a future runs later, whether its caller still waits or not, and a
stream later, if it asks for anything. Nothing else is handed over. -/
theorem headers_go_out_as_they_were_built (d : Dispatcher HttpTicket) (settings : HttpSettings)
    (n : Network ω) (platform : Platform) (call : Call) (mapping : Mapping)
    (registration : Registration) (s s' : Session HttpClient (ω × List Outgoing))
    (hm : call.mapping = some mapping)
    (hr : s.register d.resolver (httpTransport settings n.noting platform) call =
      (.ok registration, s')) :
    let t := httpTransport settings n.noting platform
    let request := mappedRequest registration.contextPath mapping call.params
    let begun := d.invoke t call s
    s'.outside = s.outside ∧
    (call.returns.isNonBlocking = false →
      HandedOver call request registration.client s' begun.session) ∧
    (call.returns.isNonBlocking = true → begun.session = s') ∧
    (∀ element, call.returns = .future element → ∃ f, begun.result = .ok (.future f) ∧
      ∀ kept later,
        HandedOver call request registration.client later (f.run t kept later).session) ∧
    (∀ type element convert, call.returns = .stream type element →
      d.converters.converter type = .ok convert → ∃ f, begun.result = .ok (.stream f) ∧
        ∀ limit later,
          if ((f.shape (.ofItems [])).take limit).asked = 0
            then (f.collect t limit later).session = later
            else HandedOver call request registration.client later
              (f.collect t limit later).session) := by
  intro t request begun
  have hp : begun = d.perform t call registration.client request s' := invoke_registered hm hr
  refine ⟨?_, ?_, ?_, ?_, ?_⟩
  · have hsilent := register_keeps id (t := t) (fun _ _ _ _ => rfl) d.resolver call s
    rwa [hr] at hsilent
  · intro hawaited
    have hvalue : True ↔ ExchangeKind.retrieve = .retrieve := iff_of_true trivial rfl
    have hother : False ↔ ExchangeKind.exchange = .retrieve := iff_of_false id nofun
    rw [hp]
    unfold Dispatcher.perform
    cases hreturns : call.returns with
    | value => exact handedOver_awaiting hawaited (by rw [hreturns]; exact hvalue) _ _
    | optional => exact handedOver_awaiting hawaited (by rw [hreturns]; exact hvalue) _ _
    | response => exact handedOver_awaiting hawaited (by rw [hreturns]; exact hother) _ _
    | noContent => exact handedOver_awaiting hawaited (by rw [hreturns]; exact hother) _ _
    | future => rw [hreturns] at hawaited; cases hawaited
    | stream => rw [hreturns] at hawaited; cases hawaited
  · intro hlater
    rw [hp]
    unfold Dispatcher.perform
    cases hreturns : call.returns with
    | future => rfl
    | stream => rfl
    | _ => rw [hreturns] at hlater; cases hlater
  · intro element hreturns
    have hready : MadeReady call request
        (HttpTicket.issue element.exchangeKind (issuedRequest call element request)).request :=
      madeReady_issued (by rw [hreturns]; rfl) (by rw [hreturns]; rfl)
    rw [hp, Dispatcher.perform, hreturns]
    exact ⟨_, rfl, fun _ later => handedOver_redeem settings n platform hready _ later⟩
  · intro type element convert hreturns hconverter
    have hready : MadeReady call request
        (HttpTicket.issue element.exchangeKind (issuedRequest call element request)).request :=
      madeReady_issued (by rw [hreturns]; rfl) (by rw [hreturns]; rfl)
    rw [hp, Dispatcher.perform, hreturns]
    refine ⟨_, flow_eq registration.client _ hconverter, fun limit later => ?_⟩
    unfold Flow.collect
    split
    · rfl
    · exact handedOver_redeem settings n platform hready _ later

/-- A call with two tags and a type of its own, which stays if the value is awaited and gives way
to what the caller of a future takes. -/
theorem a_future_asks_for_what_its_caller_takes :
    let url : Url := { scheme := "https".toList, authority := some "users.example".toList,
                       path := ['/'], query := none, fragment := none }
    let client : HttpClient :=
      { service := ⟨["users"]⟩, balancer := .fixed (.ofUrl url), codec := {}, userAgent := .packings
        settings := {} }
    let mapping : Mapping := ⟨⟨"POST".toList, by decide⟩, "/users"⟩
    let params : List Param :=
      [⟨"first", .header (some "X-Tag"), .string "a"⟩,
        ⟨"type", .header (some "Accept"), .string "text/csv"⟩,
        ⟨"second", .header (some "x-tag"), .string "b"⟩,
        ⟨"user", .body .structured, .string "Ann"⟩]
    let call (returns : ReturnShape) : Call :=
      { service := ⟨["users"]⟩, operation := ⟨"UserApi", "add", []⟩, mapping := some mapping, params
        consumes := ["application/xml", "text/plain"], returns }
    let tag : HeaderName := ⟨"x-tag".toList, by decide⟩
    let n : Network Unit := { send := fun _ _ => (.silent, ()) }
    let t := httpTransport {} n.noting
    let s : Session HttpClient (Unit × List Outgoing) :=
      { registry := { registered := [(⟨["users"]⟩, ⟨0, ""⟩)], clients := [client] }
        outside := ((), []) }
    let begun (returns : ReturnShape) := ({} : Dispatcher HttpTicket).invoke t (call returns) s
    (∃ out, (begun .value).session.outside.2 = [out] ∧
      out.headers.texts .accept = ["text/csv".toList] ∧ out.headers.texts tag = [['a'], ['b']] ∧
      out.headers.values .contentType = [.json]) ∧
    ∃ f, (begun (.future .body)).result = .ok (.future f) ∧
      ∃ out, (f.run t false s).session.outside.2 = [out] ∧
        out.headers.texts .accept = ["application/xml, text/plain".toList] ∧
        out.headers.texts tag = [['a'], ['b']] := by
  intro url client mapping params call tag n t s begun
  have hlaw (returns : ReturnShape) := headers_go_out_as_they_were_built {} {} n {} (call returns)
    mapping ⟨0, ""⟩ s s rfl rfl
  have htarget : (client.target (mappedRequest "" mapping params)).toOption.isSome = true := by
    decide +kernel
  have htag : (headersOf params).texts tag = [['a'], ['b']] := by decide +kernel
  have haccept : (headersOf params).texts .accept = ["text/csv".toList] := by decide +kernel
  have hbuilt : (mappedRequest "" mapping params).headers = headersOf params := build_headers _ _ _
  constructor
  · obtain ⟨sent, hsent, hhands⟩ := (hlaw .value).2.1 rfl
    obtain ⟨out, rfl, hbody, hcarries⟩ := hhands.one rfl htarget
    rw [hbuilt] at hcarries
    refine ⟨out, hsent, ?_, ?_, ?_⟩
    · exact (congrArg _ (hcarries.accept.of_kept id (by decide +kernel))).trans haccept
    · exact (congrArg _ (hcarries.others tag (by decide) (by decide) (by decide))).trans htag
    · have hattached : out.body.isSome = true := by rw [hbody]; decide +kernel
      exact hcarries.content_type.trans (if_pos ⟨hattached, by decide +kernel⟩)
  · obtain ⟨f, hf, hruns⟩ := (hlaw (.future .body)).2.2.2.1 .body rfl
    obtain ⟨sent, hsent, hhands⟩ := hruns false s
    obtain ⟨out, rfl, -, hcarries⟩ := hhands.one rfl htarget
    rw [hbuilt] at hcarries
    refine ⟨f, hf, out, hsent, ?_, ?_⟩
    · let taken : HeaderValue := ⟨"application/xml, text/plain".toList, by decide⟩
      have hreplaces : (call (.future .body)).Replaces taken := ⟨nofun, .listed nofun⟩
      exact congrArg _ (hcarries.accept.of_replaces hreplaces)
    · exact (congrArg _ (hcarries.others tag (by decide) (by decide) (by decide))).trans htag

end HttpCalls
