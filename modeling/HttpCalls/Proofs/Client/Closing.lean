-- Clients in use: services are asked for and taken back, handles are passed on and closed,
-- streams are created and asked for their items, in any order. Nothing is chosen or sent
-- before a stream is asked for the first time. After its client was closed, by whoever holds
-- it, a stream that is asked for the first time is refused.
import HttpCalls.Proofs.Client.SharedClients

namespace HttpCalls

variable {ω : Type}

/-! ## Use -/

/-- A stream of an exchange: not asked for an item yet, or with the items that are left. -/
inductive Source
  | fresh (client : Nat) (ticket : HttpTicket)
  | flowing (left : List Item)

/-- A session, the handles that were given out, each for the client of a number, and the
streams that were created. -/
structure Usage (ω : Type) where
  session : Session HttpClient ω
  handles : List Nat := []
  streams : List Source := []

/-- What is done with clients. What a service resolves to may be different every time. -/
inductive UsageStep
  | obtain (resolver : ServiceId → Option Balancer) (service : ServiceId) (options : ClientOptions)
  | invalidate (service : ServiceId)
  | closeAll
  /-- Gives out one more handle for the client of a handle. -/
  | clone (handle : Nat)
  /-- Closes the client of a handle, as whoever holds it can. -/
  | close (handle : Nat)
  | create (handle : Nat) (kind : ExchangeKind) (request : Request)
  /-- Asks a stream for an item. -/
  | poll (stream : Nat)

/-- What a step gives to whoever takes it. -/
inductive UsageEvent
  | obtained (service : ServiceId) (result : Except DispatchError Registration)
  /-- What a stream gave; none is its end. -/
  | polled (item : Option Item)
  | done

namespace Usage

/-- The client of a number. -/
def client? (u : Usage ω) (number : Nat) : Option HttpClient := u.session.registry.clients[number]?

/-- The registration of a service. -/
def registrationOf? (u : Usage ω) (service : ServiceId) : Option Registration :=
  Keyed.get? service u.session.registry.registered

/-- The handle that a registration is. -/
def handleOf : Except DispatchError Registration → List Nat
  | .ok registration => [registration.client]
  | .error _ => []

/-- Takes a step. What is done with a handle or a stream that is not there changes nothing. -/
def perform (t : Transport HttpClient HttpTicket ω) (u : Usage ω) :
    UsageStep → UsageEvent × Usage ω
  | .obtain resolver service options =>
    let (result, registry, outside) :=
      u.session.registry.obtain resolver t.create service options u.session.outside
    (.obtained service result,
      { u with session := { registry, outside }, handles := u.handles ++ handleOf result })
  | .invalidate service => (.done, { u with session := (u.session.invalidate t service).2 })
  | .closeAll => (.done, { u with session := (u.session.close t).2 })
  | .clone handle =>
    match u.handles[handle]? with
    | some number => (.done, { u with handles := u.handles ++ [number] })
    | none => (.done, u)
  | .close handle =>
    match u.handles[handle]? with
    | some number =>
      match u.client? number with
      | some client =>
        let registry := u.session.registry.setClient number (t.close client).2
        (.done, { u with session := { u.session with registry } })
      | none => (.done, u)
    | none => (.done, u)
  | .create handle kind request =>
    match u.handles[handle]? with
    | some number =>
      let (ticket, session) := u.session.start t kind request
      (.done, { u with session, streams := u.streams ++ [.fresh number ticket] })
    | none => (.done, u)
  | .poll stream =>
    match u.streams[stream]? with
    | some (.fresh number ticket) =>
      let (arrivals, session) := u.session.redeem t number ticket
      let items := Arrival.items arrivals
      (.polled items.head?,
        { u with session, streams := u.streams.set stream (.flowing items.tail) })
    | some (.flowing left) =>
      (.polled left.head?, { u with streams := u.streams.set stream (.flowing left.tail) })
    | none => (.done, u)

/-- Takes steps one after the other. -/
def run (t : Transport HttpClient HttpTicket ω) (u : Usage ω) :
    List UsageStep → List UsageEvent × Usage ω
  | [] => ([], u)
  | step :: more =>
    let (event, u) := u.perform t step
    let (events, u) := run t u more
    (event :: events, u)

/-- The state after steps. -/
abbrev after (t : Transport HttpClient HttpTicket ω) (u : Usage ω) (steps : List UsageStep) : Usage ω :=
  (u.run t steps).2

/-- The client whose stream is asked for the first time by a step. -/
def woken? (u : Usage ω) : UsageStep → Option Nat
  | .poll stream =>
    match u.streams[stream]? with
    | some (.fresh number _) => some number
    | _ => none
  | _ => none

/-- The clients whose streams are asked for the first time on the way. -/
def woken (t : Transport HttpClient HttpTicket ω) (u : Usage ω) : List UsageStep → List Nat
  | [] => []
  | step :: more => (u.woken? step).toList ++ woken t (u.perform t step).2 more

end Usage

/-- What becomes of a step, and when. -/
inductive UsageTurn (t : Transport HttpClient HttpTicket ω) (u : Usage ω) :
    UsageStep → UsageEvent → Usage ω → Prop
  /-- The handle or the stream is not there. -/
  | idle {step} : UsageTurn t u step .done u
  | obtained {resolver service options result registry outside} :
      Obtaining resolver t.create service options u.session.registry u.session.outside
        (result, registry, outside) →
      UsageTurn t u (.obtain resolver service options) (.obtained service result)
        { u with session := { registry, outside }, handles := u.handles ++ Usage.handleOf result }
  | invalidated {service} :
      UsageTurn t u (.invalidate service) .done { u with session := (u.session.invalidate t service).2 }
  | closedAll : UsageTurn t u .closeAll .done { u with session := (u.session.close t).2 }
  | cloned {handle number} : u.handles[handle]? = some number →
      UsageTurn t u (.clone handle) .done { u with handles := u.handles ++ [number] }
  | closed {handle number client} : u.handles[handle]? = some number →
      u.client? number = some client →
      UsageTurn t u (.close handle) .done
        { u with session := { u.session with
            registry := u.session.registry.setClient number (t.close client).2 } }
  | created {handle number kind request} : u.handles[handle]? = some number →
      UsageTurn t u (.create handle kind request) .done
        { u with
          session := (u.session.start t kind request).2
          streams := u.streams ++ [.fresh number (u.session.start t kind request).1] }
  | begun {stream number ticket} : u.streams[stream]? = some (.fresh number ticket) →
      UsageTurn t u (.poll stream)
        (.polled (Arrival.items (u.session.redeem t number ticket).1).head?)
        { u with
          session := (u.session.redeem t number ticket).2
          streams := u.streams.set stream
            (.flowing (Arrival.items (u.session.redeem t number ticket).1).tail) }
  | flowed {stream left} : u.streams[stream]? = some (.flowing left) →
      UsageTurn t u (.poll stream) (.polled left.head?)
        { u with streams := u.streams.set stream (.flowing left.tail) }

/-- Every step is one of these turns. -/
theorem usage_turn (t : Transport HttpClient HttpTicket ω) (u : Usage ω) (step : UsageStep) :
    UsageTurn t u step (u.perform t step).1 (u.perform t step).2 := by
  cases step with
  | obtain resolver service options => exact .obtained (obtain_cases _ _ _ _ _ _)
  | invalidate service => exact .invalidated
  | closeAll => exact .closedAll
  | clone handle =>
    cases hhandle : u.handles[handle]? with
    | none => simpa only [Usage.perform, hhandle] using .idle
    | some number => simpa only [Usage.perform, hhandle] using .cloned hhandle
  | close handle =>
    cases hhandle : u.handles[handle]? with
    | none => simpa only [Usage.perform, hhandle] using .idle
    | some number =>
      cases hclient : u.client? number with
      | none => simpa only [Usage.perform, hhandle, hclient] using .idle
      | some client => simpa only [Usage.perform, hhandle, hclient] using .closed hhandle hclient
  | create handle kind request =>
    cases hhandle : u.handles[handle]? with
    | none => simpa only [Usage.perform, hhandle] using .idle
    | some number => simpa only [Usage.perform, hhandle] using .created hhandle
  | poll stream =>
    rcases hstream : u.streams[stream]? with _ | ⟨number, ticket⟩ | left
    · simpa only [Usage.perform, hstream] using .idle
    · simpa only [Usage.perform, hstream] using .begun hstream
    · simpa only [Usage.perform, hstream] using .flowed hstream

/-! ## What holds after any step -/

section
variable {t : Transport HttpClient HttpTicket ω} {u u' : Usage ω} {step : UsageStep}
  {event : UsageEvent}

/-- A step runs no exchange but that of a stream which is asked for the first time. -/
theorem UsageTurn.moves (ht : t.OverHttp) (h : UsageTurn t u step event u') :
    ∃ exchange, (exchange = none ∨ exchange = u.woken? step) ∧
      u.session.registry.Moves t.close exchange u'.session.registry := by
  cases h with
  | idle => exact ⟨none, .inl rfl, .still⟩
  | obtained hcases => exact ⟨none, .inl rfl, hcases.moves ht⟩
  | invalidated => exact ⟨none, .inl rfl, .invalidated⟩
  | closedAll => exact ⟨none, .inl rfl, .closed⟩
  | cloned => exact ⟨none, .inl rfl, .still⟩
  | closed _ hclient =>
    refine ⟨none, .inl rfl, ?_⟩
    dsimp only
    rw [ht.shut]
    exact .shut hclient
  | created => exact ⟨none, .inl rfl, .still⟩
  | @begun stream number ticket hstream =>
    refine ⟨_, ?_, redeem_moves ht u.session number ticket⟩
    cases u.session.registry.clients[number]? with
    | none => exact .inl rfl
    | some c => exact .inr (by simp [Usage.woken?, hstream])
  | flowed => exact ⟨none, .inl rfl, .still⟩

/-- The registries on the way are orderly. -/
def Usage.Orderly (u : Usage ω) : Prop := u.session.registry.Orderly

theorem Usage.orderly_start (outside : ω) : ({ session := { outside } } : Usage ω).Orderly :=
  Registry.orderly_empty

theorem Usage.Orderly.after (ht : t.OverHttp) (hu : u.Orderly) (steps : List UsageStep) :
    (u.after t steps).Orderly := by
  induction steps generalizing u with
  | nil => exact hu
  | cons step more ih =>
    obtain ⟨exchange, -, hmoves⟩ := (usage_turn t u step).moves ht
    exact ih (Registry.Orderly.moves ht.shut hu hmoves)

/-- A client stays, and none of its choices is made before one of its streams is asked. -/
theorem client_after (ht : t.OverHttp) {k : Nat} {c : HttpClient} (steps : List UsageStep)
    (hc : u.client? k = some c) :
    ∃ c', (u.after t steps).client? k = some c' ∧ c.Becomes c' ∧
      (k ∉ u.woken t steps → c'.balancer = c.balancer) := by
  induction steps generalizing u c with
  | nil => exact ⟨c, hc, c.becomes_refl, fun _ => rfl⟩
  | cons step more ih =>
    obtain ⟨exchange, hexchange, hmoves⟩ := (usage_turn t u step).moves ht
    obtain ⟨c', hc', hbecomes, -, hbalancer⟩ := hmoves.client ht.shut hc
    obtain ⟨c'', hc'', hbecomes', hbalancer'⟩ := ih hc'
    refine ⟨c'', hc'', hbecomes.trans hbecomes', fun hasleep => ?_⟩
    simp only [Usage.woken, List.mem_append, Option.mem_toList, not_or] at hasleep
    rw [hbalancer' hasleep.2, hbalancer ?_]
    rcases hexchange with rfl | rfl
    · nofun
    · exact hasleep.1

end

/-! ## Refusals -/

section
variable {t : Transport HttpClient HttpTicket ω} {u u' : Usage ω} {step : UsageStep}
  {event : UsageEvent} {stream : Nat}

/-- A stream that has come to its end stays there. -/
theorem UsageTurn.ended (h : UsageTurn t u step event u')
    (hended : u.streams[stream]? = some (.flowing [])) :
    u'.streams[stream]? = some (.flowing []) := by
  have hlt : stream < u.streams.length := (List.getElem?_eq_some_iff.mp hended).1
  cases h with
  | created =>
    dsimp only
    rw [List.getElem?_append_left hlt, hended]
  | begun hstream =>
    dsimp only
    rw [List.getElem?_set]
    split
    · rename_i heq
      rw [heq, hended] at hstream
      cases hstream
    · exact hended
  | flowed hstream =>
    dsimp only
    rw [List.getElem?_set]
    split
    · rename_i heq
      rw [heq, hended] at hstream
      cases hstream
      rw [if_pos (heq ▸ hlt)]
      rfl
    · exact hended
  | _ => exact hended

theorem ended_after (t : Transport HttpClient HttpTicket ω) (steps : List UsageStep)
    (hended : u.streams[stream]? = some (.flowing [])) :
    (u.after t steps).streams[stream]? = some (.flowing []) := by
  induction steps generalizing u with
  | nil => exact hended
  | cons step more ih => exact ih ((usage_turn t u step).ended hended)

end

/-- From now on each stream of a client that is asked for the first time gives its refusal and
then its end, whenever it was created. No choice is made for it, and nothing is sent. -/
def Refused (t : Transport HttpClient HttpTicket ω) (u : Usage ω) (number : Nat)
    (service : ServiceId) : Prop :=
  ∀ steps stream ticket, (u.after t steps).streams[stream]? = some (.fresh number ticket) →
    let asked := (u.after t steps).perform t (.poll stream)
    asked.1 = .polled (some (.error (.transport (.closed service.text)))) ∧
      asked.2.session = (u.after t steps).session ∧
      ∀ more, ((asked.2.after t more).perform t (.poll stream)).1 = .polled none

section
variable {settings : HttpSettings} {n : Network ω} {platform : Platform} {u : Usage ω}

/-- Nothing is sent but by a stream that is asked for the first time. -/
theorem outside_after (steps : List UsageStep)
    (hasleep : u.woken (httpTransport settings n platform) steps = []) :
    (u.after (httpTransport settings n platform) steps).session.outside = u.session.outside := by
  induction steps generalizing u with
  | nil => rfl
  | cons step more ih =>
    rw [Usage.woken, List.append_eq_nil_iff] at hasleep
    refine (ih hasleep.2).trans ?_
    have hturn := usage_turn (httpTransport settings n platform) u step
    generalize (u.perform (httpTransport settings n platform) step).2 = u' at hturn ⊢
    generalize (u.perform (httpTransport settings n platform) step).1 = event at hturn
    cases hturn with
    | obtained hcases =>
      cases hcases with
      | held => rfl
      | unresolved => rfl
      | refused _ _ hmake => exact (congrArg Prod.snd hmake).symm
      | made _ _ hmake => exact (congrArg Prod.snd hmake).symm
    | begun hstream =>
      have hwoken := hasleep.1
      simp [Usage.woken?, hstream] at hwoken
    | _ => rfl

theorem setClient_same {r : Registry HttpClient} {k : Nat} {c : HttpClient}
    (hc : r.clients[k]? = some c) : r.setClient k c = r := by
  obtain ⟨hk, rfl⟩ := List.getElem?_eq_some_iff.mp hc
  simp [Registry.setClient]

/-- An exchange of a closed client is a refusal that changes nothing. -/
theorem redeem_refused {number : Nat} {c : HttpClient} (hc : u.client? number = some c)
    (hclosed : c.closed = true) (ticket : HttpTicket) :
    u.session.redeem (httpTransport settings n platform) number ticket =
      ([.item (.error (.transport (.closed c.service.text)))], u.session) := by
  have hsent := HttpClient.send_closed n ticket.request u.session.outside hclosed
  unfold Usage.client? at hc
  unfold Session.redeem
  rw [hc]
  simp only [httpTransport, HttpTicket.redeem, hsent, itemsOf, setClient_same hc]
  rfl

theorem refused_of_closed {number : Nat} {c : HttpClient} (hc : u.client? number = some c)
    (hclosed : c.closed = true) :
    Refused (httpTransport settings n platform) u number c.service := by
  intro steps stream ticket hstream
  obtain ⟨c', hc', hbecomes, -⟩ :=
    client_after (overHttp_httpTransport settings n platform) steps hc
  rw [hbecomes.closed hclosed] at hc'
  simp only [Usage.perform, hstream, redeem_refused hc' hclosed]
  refine ⟨rfl, trivial, fun more => ?_⟩
  rw [ended_after _ more (List.getElem?_set_self (List.getElem?_eq_some_iff.mp hstream).1)]
  rfl

end

/-! ## Services that are taken back -/

/-- Takes away the registration of a service. -/
def UsageStep.Removes (service : ServiceId) : UsageStep → Prop
  | .invalidate taken => taken = service
  | .closeAll => True
  | _ => False

/-- Asks for a service. -/
def UsageStep.AsksFor (service : ServiceId) : UsageStep → Prop
  | .obtain _ asked _ => asked = service
  | _ => False

section
variable {t : Transport HttpClient HttpTicket ω} {u u' : Usage ω} {step : UsageStep}
  {service : ServiceId} {registration : Registration}

theorem UsageTurn.registered (h : UsageTurn t u step (.obtained service (.ok registration)) u') :
    u'.registrationOf? service = some registration := by
  cases h with
  | obtained hcases => exact hcases.registered

/-- What was handed out for a service stays a client of this service. -/
theorem handed_after (ht : t.OverHttp) (hu : u.Orderly) (steps : List UsageStep)
    (hhanded : .obtained service (.ok registration) ∈ (u.run t steps).1) :
    ∃ c, (u.after t steps).client? registration.client = some c ∧ c.service = service := by
  induction steps generalizing u with
  | nil => cases hhanded
  | cons step more ih =>
    have hturn := usage_turn t u step
    have hu' : (u.perform t step).2.Orderly := hu.after ht [step]
    rw [Usage.run] at hhanded
    rcases List.mem_cons.mp hhanded with hnow | hlater
    · -- the registry knows the client of a registration only at the time it is handed out, since
      -- the service may have been taken back and handed out anew by the end of the run
      rw [← hnow] at hturn
      obtain ⟨c, hc, hcs⟩ := hu'.held hturn.registered
      obtain ⟨c', hc', hbecomes, -⟩ := client_after ht more hc
      exact ⟨c', hc', hbecomes.service.trans hcs⟩
    · exact ih hu' hlater

theorem unregistered_removed (t : Transport HttpClient HttpTicket ω) (u : Usage ω)
    (hremoves : step.Removes service) : (u.perform t step).2.registrationOf? service = none := by
  cases step with
  | invalidate taken => exact Registry.unregistered_invalidate t.close _ hremoves
  | closeAll => exact Registry.unregistered_close t.close _ service
  | _ => cases hremoves

theorem UsageTurn.unregistered {event : UsageEvent} (h : UsageTurn t u step event u')
    (hnone : u.registrationOf? service = none) (hunasked : ¬step.AsksFor service) :
    u'.registrationOf? service = none := by
  unfold Usage.registrationOf? at hnone ⊢
  cases h with
  | obtained hcases =>
    cases hcases with
    | made =>
      unfold Registry.add
      dsimp only
      rw [Keyed.get?_put]
      exact (if_neg hunasked).trans hnone
    | _ => exact hnone
  | @invalidated taken =>
    by_cases htaken : taken = service
    · exact Registry.unregistered_invalidate t.close _ htaken
    · exact (Registry.get?_invalidate_other t.close _ htaken).trans hnone
  | closedAll => exact Registry.unregistered_close t.close _ service
  | begun =>
    dsimp only
    rw [registered_redeem, hnone]
  | _ => exact hnone

theorem unregistered_after (t : Transport HttpClient HttpTicket ω) (steps : List UsageStep)
    (hnone : u.registrationOf? service = none) (hunasked : ∀ step ∈ steps, ¬step.AsksFor service) :
    (u.after t steps).registrationOf? service = none := by
  induction steps generalizing u with
  | nil => exact hnone
  | cons step more ih =>
    have hrest := fun step hstep => hunasked step (List.mem_cons_of_mem _ hstep)
    exact ih ((usage_turn t u step).unregistered hnone (hunasked step List.mem_cons_self)) hrest

/-- A client of a service without a registration is closed. -/
theorem closed_of_unregistered {number : Nat} {c : HttpClient} (hu : u.Orderly)
    (hc : u.client? number = some c) (hnone : u.registrationOf? c.service = none) :
    c.closed = true := by
  cases hopen : c.closed with
  | true => rfl
  | false =>
    -- an open client is held by the registration of its service, and there is none
    obtain ⟨registration, hget, -⟩ := hu.opened hc hopen
    exact absurd (hnone.symm.trans hget) nofun

end

/-! ## Making clients -/

/-- Clients can be made with the settings: the name that they send is legal, the cryptography
serves, and where the certificates of the system are to be trusted, one of them can be read. -/
structure HttpSettings.UsableOn (settings : HttpSettings) (platform : Platform) : Prop where
  named : (HeaderValue.ofText? settings.userAgent.toList).isSome = true
  secured : platform.cryptoFault = none
  trusted : settings.roots = .native → true ∈ platform.certificates

theorem Platform.trustSystem_eq_ok {platform : Platform} :
    platform.trustSystem = .ok () ↔ true ∈ platform.certificates := by
  unfold Platform.trustSystem
  split
  · rename_i hnone
    simp [hnone]
  · split
    · rename_i hread
      exact iff_of_true rfl hread
    · rename_i hunread
      exact iff_of_false nofun hunread

theorem Platform.takeCrypto_eq_ok {platform : Platform} :
    platform.takeCrypto = .ok () ↔ platform.cryptoFault = none := by
  unfold Platform.takeCrypto
  cases platform.cryptoFault with
  | none => exact iff_of_true rfl rfl
  | some cause => exact iff_of_false nofun nofun

theorem Platform.connect_eq_ok {platform : Platform} {roots : TlsRoots} :
    platform.connect roots = .ok () ↔
      platform.cryptoFault = none ∧ (roots = .native → true ∈ platform.certificates) := by
  unfold Platform.connect
  cases roots with
  | webpki =>
    rw [if_neg nofun]
    exact Platform.takeCrypto_eq_ok.trans (and_iff_left nofun).symm
  | native =>
    rw [if_pos rfl, bind_eq_ok, ← Platform.takeCrypto_eq_ok, ← Platform.trustSystem_eq_ok]
    exact ⟨fun ⟨_, htrusted, hcrypto⟩ => ⟨hcrypto, fun _ => htrusted⟩,
      fun ⟨hcrypto, htrusted⟩ => ⟨(), htrusted rfl, hcrypto⟩⟩

theorem HttpClient.make_ok_iff {settings : HttpSettings} {service : ServiceId} {balancer : Balancer}
    {codec : Codec} {platform : Platform} :
    (∃ client, HttpClient.make settings service balancer codec platform = .ok client) ↔
      settings.UsableOn platform := by
  simp only [HttpClient.make_eq_ok, Platform.connect_eq_ok]
  constructor
  · rintro ⟨_, ⟨hsecured, htrusted⟩, userAgent, hname, -⟩
    exact ⟨by rw [hname]; rfl, hsecured, htrusted⟩
  · rintro ⟨hnamed, hsecured, htrusted⟩
    obtain ⟨userAgent, hname⟩ := Option.isSome_iff_exists.mp hnamed
    exact ⟨_, ⟨hsecured, htrusted⟩, userAgent, hname, rfl⟩

section
variable {settings : HttpSettings} {n : Network ω} {platform : Platform} {u u' : Usage ω}
  {service : ServiceId}

theorem UsageTurn.usable {step : UsageStep} {event : UsageEvent}
    (h : UsageTurn (httpTransport settings n platform) u step event u')
    (hu : u.session.registry.clients ≠ [] → settings.UsableOn platform)
    (hu' : u'.session.registry.clients ≠ []) : settings.UsableOn platform := by
  rw [← List.length_pos_iff] at hu hu'
  cases h with
  | obtained hcases =>
    cases hcases with
    | made _ _ hmake => exact HttpClient.make_ok_iff.mp ⟨_, congrArg Prod.fst hmake⟩
    | _ => exact hu hu'
  | invalidated => exact hu (by simpa [Session.invalidate] using hu')
  | closedAll => exact hu (by simpa [Session.close] using hu')
  | closed => exact hu (by simpa [Registry.setClient] using hu')
  | begun =>
    refine hu ?_
    unfold Session.redeem at hu'
    split at hu'
    · exact hu'
    · simpa [Registry.setClient] using hu'
  | _ => exact hu hu'

theorem usable_after (steps : List UsageStep)
    (hu : u.session.registry.clients ≠ [] → settings.UsableOn platform)
    (hclients : (u.after (httpTransport settings n platform) steps).session.registry.clients ≠ []) :
    settings.UsableOn platform := by
  induction steps generalizing u with
  | nil => exact hu hclients
  | cons step more ih => exact ih (fun hu' => (usage_turn _ u step).usable hu hu') hclients

/-- The next who asks for the service is given a client that is not closed, if the service
resolves to anything. -/
def StartsAnew (t : Transport HttpClient HttpTicket ω) (u : Usage ω) (service : ServiceId) : Prop :=
  ∀ more resolver options, (∀ step ∈ more, ¬UsageStep.AsksFor service step) →
    resolver service ≠ none →
    let asked := (u.after t more).perform t (.obtain resolver service options)
    ∃ registration c, asked.1 = .obtained service (.ok registration) ∧
      asked.2.client? registration.client = some c ∧ c.service = service ∧ c.closed = false

/-- The next who asks for the service is given no client, but told why not. -/
def StaysAway (t : Transport HttpClient HttpTicket ω) (u : Usage ω) (service : ServiceId) : Prop :=
  ∀ more resolver options, (∀ step ∈ more, ¬UsageStep.AsksFor service step) →
    ∃ e, ((u.after t more).perform t (.obtain resolver service options)).1 =
      .obtained service (.error e)

theorem startsAnew_of_unregistered (husable : settings.UsableOn platform)
    (hnone : u.registrationOf? service = none) :
    StartsAnew (httpTransport settings n platform) u service := by
  intro more resolver options hunasked hresolves
  have hnone' := unregistered_after (httpTransport settings n platform) more hnone hunasked
  generalize u.after (httpTransport settings n platform) more = later at hnone' ⊢
  obtain ⟨balancer, hbalancer⟩ := Option.ne_none_iff_exists'.mp hresolves
  obtain ⟨client, hmake⟩ : ∃ client, HttpClient.make settings service balancer
      (({} : Codec).withFeatures options.features) platform = .ok client :=
    HttpClient.make_ok_iff.mpr husable
  obtain ⟨hservice, -, hopen⟩ := HttpClient.make_spec hmake
  unfold Usage.registrationOf? at hnone'
  simp only [Usage.perform, Registry.obtain, hnone', hbalancer, httpTransport, hmake]
  exact ⟨_, client, rfl, List.getElem?_concat_length, hservice, hopen⟩

theorem staysAway_of_unregistered (hunusable : ¬settings.UsableOn platform)
    (hnone : u.registrationOf? service = none) :
    StaysAway (httpTransport settings n platform) u service := by
  intro more resolver options hunasked
  have hnone' := unregistered_after (httpTransport settings n platform) more hnone hunasked
  generalize u.after (httpTransport settings n platform) more = later at hnone' ⊢
  have hcases := obtain_cases resolver (httpTransport settings n platform).create service options
    later.session.registry later.session.outside
  rw [Usage.perform]
  revert hcases
  generalize later.session.registry.obtain resolver (httpTransport settings n platform).create
    service options later.session.outside = asked
  intro hcases
  cases hcases with
  | held hget => exact absurd (hnone'.symm.trans hget) nofun
  | unresolved => exact ⟨_, rfl⟩
  | refused => exact ⟨_, rfl⟩
  | made _ _ hmake =>
    exact absurd (HttpClient.make_ok_iff.mp ⟨_, congrArg Prod.fst hmake⟩) hunusable

end

/-! ## The law -/

/-- Nothing is sent, and no client makes a choice, before a stream is asked for the first time.
Once a client is closed by a holder, or its service is taken back, it is refused through every
handle and for every stream. A service that was taken back starts anew, unless clients cannot be
made where the program runs: then nobody has been given one, and nobody will be. -/
theorem a_closed_client_is_refused_and_its_service_starts_anew (settings : HttpSettings)
    (n : Network ω) (platform : Platform) :
    let t := httpTransport settings n platform
    (∀ (u : Usage ω) steps,
      (u.woken t steps = [] → (u.after t steps).session.outside = u.session.outside) ∧
      ∀ number c, u.client? number = some c → number ∉ u.woken t steps →
        ∃ c', (u.after t steps).client? number = some c' ∧ c'.balancer = c.balancer) ∧
    (∀ (u : Usage ω) handle number c, u.handles[handle]? = some number →
      u.client? number = some c → Refused t (u.perform t (.close handle)).2 number c.service) ∧
    (∀ outside steps removal service, UsageStep.Removes service removal →
      let events := (({ session := { outside } } : Usage ω).run t steps).1
      let u := ({ session := { outside } } : Usage ω).after t steps
      let removed := (u.perform t removal).2
      (∀ registration, .obtained service (.ok registration) ∈ events →
        Refused t removed registration.client service ∧ StartsAnew t removed service) ∧
      (settings.UsableOn platform → StartsAnew t removed service) ∧
      (¬settings.UsableOn platform → StaysAway t removed service)) := by
  intro t
  have ht := overHttp_httpTransport settings n platform
  refine ⟨?_, ?_, ?_⟩
  · intro u steps
    refine ⟨outside_after steps, fun number c hc hasleep => ?_⟩
    obtain ⟨c', hc', -, hbalancer⟩ := client_after ht steps hc
    exact ⟨c', hc', hbalancer hasleep⟩
  · intro u handle number c hhandle hc
    have hclosed : (u.perform t (.close handle)).2.client? number = some c.shut := by
      simp only [Usage.perform, hhandle, hc]
      exact (Registry.getElem?_setClient hc _ _).trans (if_pos rfl)
    have hrefused : Refused t (u.perform t (.close handle)).2 number c.shut.service :=
      refused_of_closed hclosed rfl
    exact hrefused
  · intro outside steps removal service hremoves events u removed
    have hnone : removed.registrationOf? service = none := unregistered_removed t u hremoves
    have hu : u.Orderly := (Usage.orderly_start outside).after ht steps
    refine ⟨?_, fun husable => startsAnew_of_unregistered husable hnone,
      fun hunusable => staysAway_of_unregistered hunusable hnone⟩
    intro registration hhanded
    obtain ⟨c, hc, hcs⟩ := handed_after ht (Usage.orderly_start outside) steps hhanded
    constructor
    · obtain ⟨c', hc', hbecomes, -⟩ := client_after ht [removal] hc
      have hservice := hbecomes.service.trans hcs
      have hclosed : c'.closed = true :=
        closed_of_unregistered (hu.after ht [removal]) hc' (by rw [hservice]; exact hnone)
      rw [← hservice]
      exact refused_of_closed hc' hclosed
    · have hclients : u.session.registry.clients ≠ [] := by
        intro hempty
        unfold Usage.client? at hc
        rw [hempty] at hc
        cases hc
      exact startsAnew_of_unregistered
        (usable_after (u := { session := { outside } }) steps (absurd rfl) hclients) hnone

/-- A stream that was created before its service was taken back is refused all the same, and the
network hears nothing of it. Where no certificate can be read, only the built-in ones serve. -/
theorem a_stream_from_before_is_refused :
    let users : ServiceId := ⟨["users"]⟩
    let request : Request := { method := .get, uri := "/users/7".toList }
    let obtain : UsageStep :=
      .obtain (fun _ => some (.rotating { service := "users" } [])) users {}
    let n : Network Nat := { send := fun _ sent => (.silent, sent + 1) }
    let t (settings : HttpSettings) := httpTransport settings n { certificates := [false] }
    let start : Usage Nat := { session := { outside := 0 } }
    let u := (start.after (t {}) [obtain, .create 0 .retrieve request]).perform (t {})
      (.invalidate users)
    let asked := u.2.perform (t {}) (.poll 0)
    asked.1 = .polled (some (.error (.transport (.closed "users")))) ∧
      asked.2.session.outside = 0 ∧
      (∃ registration, (u.2.perform (t {}) obtain).1 = .obtained users (.ok registration)) ∧
      ∃ e, ((start.perform (t { roots := .native }) .closeAll).2.perform (t { roots := .native })
        obtain).1 = .obtained users (.error e) := by
  intro users request obtain n t start u asked
  obtain ⟨-, -, hremovals⟩ :=
    a_closed_client_is_refused_and_its_service_starts_anew {} n { certificates := [false] }
  obtain ⟨hrefused, hanew⟩ := (hremovals 0 [obtain, .create 0 .retrieve request]
    (.invalidate users) users rfl).1 ⟨0, ""⟩ (List.mem_cons.mpr (.inl rfl))
  obtain ⟨hevent, hsession, -⟩ := hrefused [] 0 (.issue .retrieve request) rfl
  obtain ⟨registration, c, hnext, -⟩ := hanew []
    (fun _ => some (.rotating { service := "users" } [])) {} (by simp) (by simp)
  have hunusable : ¬HttpSettings.UsableOn { roots := .native } { certificates := [false] } :=
    fun husable => absurd (husable.trusted rfl) (by decide)
  obtain ⟨-, -, hnative⟩ := a_closed_client_is_refused_and_its_service_starts_anew
    { roots := .native } n { certificates := [false] }
  exact ⟨hevent, (congrArg Session.outside hsession).trans rfl, ⟨registration, hnext⟩,
    (hnative 0 [] .closeAll users trivial).2.2 hunusable []
      (fun _ => some (.rotating { service := "users" } [])) {} (by simp)⟩

end HttpCalls
