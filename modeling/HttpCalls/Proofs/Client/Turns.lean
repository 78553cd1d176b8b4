-- Turns on the endpoints of a service. All calls for a service share one client from one
-- removal of its registration to the next, and every exchange that runs on this client moves
-- its turn on by one, whatever comes of the exchange. So the exchanges of a service go to its
-- endpoints one after the other, in the order in which they run, and what the network is handed
-- by each is on its way to the URL of its endpoint.
import HttpCalls.Proofs.Client.Targets
import HttpCalls.Proofs.Dispatch.DispatcherRuns
import HttpCalls.Proofs.Endpoint.NamedServices

namespace HttpCalls

variable {ω : Type}

/-! ## Turns -/

/-- The choice in turn after `i` choices. -/
def inTurn (name : String) (endpoints : List Endpoint) (i : Nat) : Balancer :=
  .rotating { service := name, turn := UInt64.ofNat i } endpoints

section
variable {name : String} {endpoints : List Endpoint}

theorem inTurn_next (hne : endpoints ≠ []) (i : Nat) :
    (inTurn name endpoints i).select.2 = inTurn name endpoints (i + 1) := by
  have hturn : UInt64.ofNat (i + 1) = UInt64.ofNat i + 1 := UInt64.ofNat_add i 1
  unfold inTurn
  simp only [Balancer.select, Rotation.select, hne, dif_neg, not_false_eq_true, hturn]

/-- The turn is a word, so the endpoints are chosen one after the other until it wraps. -/
theorem inTurn_choice {i : Nat} (hne : endpoints ≠ []) (hi : i < 2 ^ 64) :
    ∃ endpoint, endpoints[i % endpoints.length]? = some endpoint ∧
      (inTurn name endpoints i).select.1 = .ok endpoint := by
  have hlt : i % endpoints.length < endpoints.length := Nat.mod_lt i (List.length_pos_iff.mpr hne)
  have hturn : (UInt64.ofNat i).toNat = i := UInt64.toNat_ofNat_of_lt hi
  refine ⟨endpoints[i % endpoints.length], List.getElem?_eq_getElem hlt, ?_⟩
  unfold inTurn
  simp only [Balancer.select, Rotation.select, hne, dif_neg, not_false_eq_true, hturn]

end

/-! ## Notes -/

/-- The exchanges that have run. -/
abbrev Notes (ω : Type) := List (Ran HttpClient HttpTicket ω)

/-- The exchanges for a service. Those of closed clients are none, since they are refused. -/
def exchangesOf (service : ServiceId) (notes : Notes ω) : Notes ω :=
  notes.filter fun ran => ran.client.service = service ∧ ran.client.closed = false

section
variable {t : Transport HttpClient HttpTicket ω}

theorem Transport.OverHttp.noting (ht : t.OverHttp) : t.noting.OverHttp where
  made {service balancer codec outside client outside'} h := by
    unfold Transport.noting at h
    rcases hmake : t.create service balancer codec outside.1 with ⟨result, after⟩
    simp only [hmake] at h
    cases h
    exact ht.made hmake
  moved ticket client outside := ht.moved ticket client outside.1
  shut := ht.shut

/-- Asking for a service runs no exchange. -/
theorem register_notes (resolver : Resolver) (call : Call) (s : Session HttpClient (ω × Notes ω)) :
    (s.register resolver t.noting call).2.outside.2 = s.outside.2 :=
  register_keeps Prod.snd (fun _ _ _ _ => rfl) resolver call s

end

/-! ## What a session keeps -/

/-- The exchanges for a service behind the first `past` notes. -/
def Session.exchangesSince (s : Session HttpClient (ω × Notes ω)) (past : Nat) (service : ServiceId) :
    Notes ω :=
  exchangesOf service (s.outside.2.drop past)

/-- The exchanges for a service have gone by turns since some notes were taken, and the client of
its registration has the turn after them. -/
structure ByTurns (service : ServiceId) (name : String) (endpoints : List Endpoint) (past : Nat)
    (s : Session HttpClient (ω × Notes ω)) : Prop where
  orderly : s.registry.Orderly
  since : past ≤ s.outside.2.length
  noted : ∀ (i : Nat) ran, (s.exchangesSince past service)[i]? = some ran →
    ran.client.balancer = inTurn name endpoints i
  waiting : Keyed.get? service s.registry.registered = none → s.exchangesSince past service = []
  next : ∀ {registration c}, Keyed.get? service s.registry.registered = some registration →
    s.registry.clients[registration.client]? = some c →
    c.balancer = inTurn name endpoints (s.exchangesSince past service).length

namespace ByTurns

variable {service : ServiceId} {name : String} {endpoints : List Endpoint} {past : Nat}
  {s s' : Session HttpClient (ω × Notes ω)}

theorem start (horderly : s.registry.Orderly)
    (hnone : Keyed.get? service s.registry.registered = none) :
    ByTurns service name endpoints s.outside.2.length s := by
  have hnothing : s.exchangesSince s.outside.2.length service = [] := by
    unfold Session.exchangesSince
    rw [List.drop_length]
    rfl
  refine ⟨horderly, Nat.le_refl _, ?_, fun _ => hnothing, ?_⟩
  · intro i note hnote
    rw [hnothing] at hnote
    cases hnote
  · intro registration c hget
    rw [hnone] at hget
    cases hget

section
variable {closer : Closer HttpClient} (hclose : ∀ c, (closer c).2 = c.shut)
include hclose

/-- Where no exchange of the service runs and its registration stays, all goes on as before. -/
theorem still (h : ByTurns service name endpoints past s) {exchange : Option Nat}
    (hmoves : s.registry.Moves closer exchange s'.registry)
    (hregistered : Keyed.get? service s'.registry.registered =
      Keyed.get? service s.registry.registered)
    (hsince : past ≤ s'.outside.2.length)
    (hsame : s'.exchangesSince past service = s.exchangesSince past service)
    (hours : ∀ {k c}, exchange = some k → s.registry.clients[k]? = some c → c.service = service →
      c.closed = true) : ByTurns service name endpoints past s' := by
  refine ⟨h.orderly.moves hclose hmoves, hsince, ?_, ?_, ?_⟩
  · rw [hsame]
    exact h.noted
  · rw [hregistered, hsame]
    exact h.waiting
  · intro registration c' hget hc'
    rw [hregistered] at hget
    obtain ⟨c, hc, hservice⟩ := h.orderly.held hget
    obtain ⟨c'', hc'', hbecomes, -, hbalancer⟩ := hmoves.client hclose hc
    cases hc'.symm.trans hc''
    have hturn : c'.balancer = c.balancer := by
      by_cases hexchange : exchange = some registration.client
      · rw [hbecomes.closed (hours hexchange hc hservice)]
      · exact hbalancer hexchange
    rw [hturn, hsame]
    exact h.next hget hc

/-- An exchange of the open client of the service has the next turn. -/
theorem exchanged (h : ByTurns service name endpoints past s) (hne : endpoints ≠ []) {number : Nat}
    {ran : Ran HttpClient HttpTicket ω} (hc : s.registry.clients[number]? = some ran.client)
    (hservice : ran.client.service = service) (hopen : ran.client.closed = false)
    (hmoves : s.registry.Moves closer (some number) s'.registry)
    (hregistered : s'.registry.registered = s.registry.registered)
    (hsince : past ≤ s'.outside.2.length)
    (hmore : s'.exchangesSince past service = s.exchangesSince past service ++ [ran]) :
    ByTurns service name endpoints past s' := by
  subst hservice
  -- an open client of the service is the one of its registration, whose turn is known
  obtain ⟨registration, hget, rfl⟩ := h.orderly.opened hc hopen
  have hturn := h.next hget hc
  refine ⟨h.orderly.moves hclose hmoves, hsince, ?_, ?_, ?_⟩
  · intro i note hnote
    rw [hmore] at hnote
    rcases getElem?_concat_cases hnote with hold | ⟨rfl, rfl⟩
    · exact h.noted i note hold
    · exact hturn
  · intro hnone
    rw [hregistered, hget] at hnone
    cases hnone
  · intro registration' c' hget' hc'
    rw [hregistered, hget] at hget'
    cases hget'
    obtain ⟨c'', hc'', -, hmoved, -⟩ := hmoves.client hclose hc
    cases hc'.symm.trans hc''
    have hnext : ran.client.moved.balancer = ran.client.balancer.select.2 := by
      simp [HttpClient.moved, hopen]
    rw [hmoved rfl, hnext, hturn, inTurn_next hne, hmore, List.length_append, List.length_singleton]

end

variable {t : Transport HttpClient HttpTicket ω} (ht : t.OverHttp)
include ht

theorem register {resolver : Resolver}
    (hresolver : resolver.resolve service = some (.rotating { service := name } endpoints))
    (h : ByTurns service name endpoints past s) (call : Call) :
    ByTurns service name endpoints past (s.register resolver t.noting call).2 := by
  have hnotes := register_notes (t := t) resolver call s
  have hsame : (s.register resolver t.noting call).2.exchangesSince past service =
      s.exchangesSince past service := by
    unfold Session.exchangesSince
    rw [hnotes]
  have hsince : past ≤ (s.register resolver t.noting call).2.outside.2.length := hnotes ▸ h.since
  have hcases := register_cases resolver t.noting call s
  generalize s.register resolver t.noting call = after at hcases hsame hsince ⊢
  obtain ⟨result, registry, outside⟩ := after
  cases hcases with
  | held => exact h
  | unresolved => exact h
  | refused => exact h.still ht.noting.shut .still rfl hsince hsame nofun
  | @made balancer codec client outside' hnone hbalancer hmake =>
    obtain ⟨hservice, hchoice, -⟩ := ht.noting.made hmake
    have hmoves : s.registry.Moves t.noting.close none
        (s.registry.add call.service call.client client).2 := .added hnone hservice
    by_cases hcalled : call.service = service
    · -- a client is made while none is registered, so before any exchange: its turn is the first
      subst hcalled
      cases hbalancer.symm.trans hresolver
      have hnothing := hsame.trans (h.waiting hnone)
      refine ⟨h.orderly.moves ht.noting.shut hmoves, hsince, ?_, fun _ => hnothing, ?_⟩
      · intro i note hnote
        rw [hnothing] at hnote
        cases hnote
      · intro registration c hget hc
        simp only [Keyed.get?_put, if_true] at hget hc
        cases hget
        rw [List.getElem?_concat_length] at hc
        cases hc
        rw [hnothing, hchoice]
        rfl
    · refine h.still ht.noting.shut hmoves ?_ hsince hsame nofun
      dsimp only
      rw [Keyed.get?_put, if_neg hcalled]

theorem redeem (hne : endpoints ≠ []) (h : ByTurns service name endpoints past s) (number : Nat)
    (ticket : HttpTicket) :
    ByTurns service name endpoints past (s.redeem t.noting number ticket).2 := by
  have hmoves := redeem_moves ht.noting s number ticket
  cases hc : s.registry.clients[number]? with
  | none =>
    have hsame : (s.redeem t.noting number ticket).2 = s := by
      unfold Session.redeem
      rw [hc]
    rw [hsame]
    exact h
  | some c =>
    rw [hc] at hmoves
    obtain ⟨ran, hnotes, hran⟩ : ∃ ran : Ran HttpClient HttpTicket ω,
        (s.redeem t.noting number ticket).2.outside.2 = s.outside.2 ++ [ran] ∧ ran.client = c := by
      unfold Session.redeem
      rw [hc]
      exact ⟨_, rfl, rfl⟩
    subst hran
    have hregistered := registered_redeem t.noting s number ticket
    have hsince : past ≤ (s.redeem t.noting number ticket).2.outside.2.length := by
      rw [hnotes, List.length_append]
      exact Nat.le_add_right_of_le h.since
    have hmore : (s.redeem t.noting number ticket).2.exchangesSince past service =
        s.exchangesSince past service ++ exchangesOf service [ran] := by
      unfold Session.exchangesSince exchangesOf
      rw [hnotes, List.drop_append_of_le_length h.since, List.filter_append]
    -- only an open client of the service adds to its exchanges: one of another service has its own
    -- turns, and one that was closed makes no choice
    by_cases hours : ran.client.service = service ∧ ran.client.closed = false
    · have hnew : exchangesOf service [ran] = [ran] := by
        simp [exchangesOf, hours]
      rw [hnew] at hmore
      exact h.exchanged ht.noting.shut hne hc hours.1 hours.2 hmoves hregistered hsince hmore
    · have hnew : exchangesOf service [ran] = [] := by
        simp [exchangesOf, hours]
      rw [hnew, List.append_nil] at hmore
      refine h.still ht.noting.shut hmoves (by rw [hregistered]) hsince hmore ?_
      · intro k d hk hd hservice
        cases hk
        cases hc.symm.trans hd
        simpa [hservice] using hours

end ByTurns

/-! ## Runs -/

/-- Takes away the registration of a service. -/
def DispatchStep.Removes (service : ServiceId) : DispatchStep → Prop
  | .invalidate taken => taken = service
  | .close => True
  | _ => False

/-- Registrations hold open clients, as long as nobody but the registry closes any. -/
structure Registry.Serving (r : Registry HttpClient) : Prop where
  orderly : r.Orderly
  opened : ∀ {service registration c}, Keyed.get? service r.registered = some registration →
    r.clients[registration.client]? = some c → c.closed = false

namespace Registry.Serving

variable {r r' : Registry HttpClient}

theorem empty : ({} : Registry HttpClient).Serving :=
  ⟨orderly_empty, fun hget => by cases hget⟩

theorem setClient (h : r.Serving) {n : Nat} {c c' : HttpClient} (hn : r.clients[n]? = some c)
    (hclosed : c'.closed = c.closed) (horderly : (r.setClient n c').Orderly) :
    (r.setClient n c').Serving := by
  refine ⟨horderly, fun {service registration d} hget hd => ?_⟩
  rw [getElem?_setClient hn] at hd
  split at hd
  · rename_i hnumber
    cases hd
    rw [hclosed]
    exact h.opened hget (hnumber ▸ hn)
  · exact h.opened hget hd

section
variable {t : Transport HttpClient HttpTicket ω} (ht : t.OverHttp)
include ht

theorem obtain (h : r.Serving) {resolver : ServiceId → Option Balancer} {service : ServiceId}
    {options : ClientOptions} {outside outside' : ω} {result : Except DispatchError Registration}
    (hcases : Obtaining resolver t.create service options r outside (result, r', outside')) :
    r'.Serving := by
  refine ⟨h.orderly.moves ht.shut (hcases.moves ht), ?_⟩
  cases hcases with
  | @made balancer codec client _ hnone _ hmake =>
    intro other registration c hget hc
    simp only [Registry.add, Keyed.get?_put] at hget
    split at hget
    · cases hget
      cases List.getElem?_concat_length.symm.trans hc
      exact (ht.made hmake).2.2
    · obtain ⟨d, hd, -⟩ := h.orderly.held hget
      cases (getElem?_add hd service options client).symm.trans hc
      exact h.opened hget hd
  | _ => exact h.opened

theorem redeem {s : Session HttpClient ω} (h : s.registry.Serving) (number : Nat)
    (ticket : HttpTicket) : (s.redeem t number ticket).2.registry.Serving := by
  have horderly := h.orderly.moves ht.shut (redeem_moves ht s number ticket)
  unfold Session.redeem at horderly ⊢
  cases hc : s.registry.clients[number]? with
  | none => exact h
  | some c =>
    rw [hc] at horderly
    refine h.setClient hc ?_ horderly
    rw [ht.moved]
    unfold HttpClient.moved
    split <;> rfl

theorem invalidate (h : r.Serving) (taken : ServiceId) : (r.invalidate t.close taken).2.Serving := by
  refine ⟨h.orderly.invalidate ht.shut taken, fun {service registration c'} hget hc' => ?_⟩
  rw [registered_invalidate, Keyed.get?_erase] at hget
  split at hget
  · cases hget
  · rename_i hne
    obtain ⟨c, hc, hservice⟩ := h.orderly.held hget
    have hother : ∀ other, Keyed.get? taken r.registered = some other →
        other.client ≠ registration.client := by
      intro other htaken heq
      obtain ⟨d, hd, hdtaken⟩ := h.orderly.held htaken
      rw [heq, hc] at hd
      cases hd
      exact hne (hdtaken.symm.trans hservice)
    cases (getElem?_untaken ht.shut hc hother).symm.trans hc'
    exact h.opened hget hc

end

end Registry.Serving

section
variable {t : Transport HttpClient HttpTicket ω} (ht : t.OverHttp) {resolver : Resolver}
  {service : ServiceId} {name : String} {endpoints : List Endpoint}
include ht

theorem keptBy_serving :
    KeptBy resolver t (fun _ => True) fun s : Session HttpClient ω => s.registry.Serving where
  register {s} call hs := hs.obtain ht (register_cases resolver t call s)
  start _ _ hs := hs
  redeem number ticket hs := hs.redeem ht number ticket
  invalidate service _ hs := hs.invalidate ht service
  close {s} _ hs := ⟨hs.orderly.close ht.shut, fun hget => by
    unfold Session.close at hget
    dsimp only at hget
    rw [Registry.registered_close] at hget
    cases hget⟩

/-- As long as the registration of a service is not taken away, its exchanges go by turns. -/
theorem keptBy_byTurns (hne : endpoints ≠ []) (past : Nat)
    (hresolver : resolver.resolve service = some (.rotating { service := name } endpoints)) :
    KeptBy resolver t.noting (fun step => ¬step.Removes service)
      (ByTurns (ω := ω) service name endpoints past) where
  register call hs := hs.register ht hresolver call
  start _ _ hs := ⟨hs.orderly, hs.since, hs.noted, hs.waiting, hs.next⟩
  redeem number ticket hs := hs.redeem ht hne number ticket
  invalidate {s} taken hallowed hs := by
    have hmoves : s.registry.Moves t.noting.close none (s.invalidate t.noting taken).2.registry :=
      .invalidated
    exact hs.still ht.noting.shut hmoves
      (Registry.get?_invalidate_other t.noting.close s.registry hallowed) hs.since rfl nofun
  close hallowed _ := absurd trivial hallowed

end

/-- The notes that were taken. -/
def Dispatching.notes (s : Dispatching HttpClient HttpTicket (ω × Notes ω)) : Notes ω := s.session.outside.2

/-- The session of a dispatcher at the start, without a note. -/
def Dispatching.noted (outside : ω) : Dispatching HttpClient HttpTicket (ω × Notes ω) :=
  { session := { outside := (outside, []) } }

theorem unregistered_after_removal {d : Dispatcher HttpTicket}
    {t : Transport HttpClient HttpTicket ω} {service : ServiceId} {removal : DispatchStep}
    (s : Dispatching HttpClient HttpTicket ω) (h : removal.Removes service) :
    Keyed.get? service (s.perform d t removal).session.registry.registered = none := by
  cases removal with
  | invalidate taken => exact Registry.unregistered_invalidate t.close _ h
  | close => exact Registry.unregistered_close t.close _ service
  | _ => cases h

/-- At the start, and right after a removal, a service has no registration. -/
theorem unregistered_before {d : Dispatcher HttpTicket} {t : Transport HttpClient HttpTicket ω}
    {service : ServiceId} {s : Dispatching HttpClient HttpTicket ω} {before : List DispatchStep}
    (hstart : Keyed.get? service s.session.registry.registered = none)
    (hbefore : before = [] ∨
      ∃ earlier removal, before = earlier ++ [removal] ∧ DispatchStep.Removes service removal) :
    Keyed.get? service (s.after d t before).session.registry.registered = none := by
  rcases hbefore with rfl | ⟨earlier, removal, rfl, hremoves⟩
  · exact hstart
  · unfold Dispatching.after
    rw [List.foldl_append]
    exact unregistered_after_removal _ hremoves

/-- A call that hands out a future or a stream runs no exchange yet. -/
theorem notes_of_nonBlocking {d : Dispatcher HttpTicket} {t : Transport HttpClient HttpTicket ω}
    {call : Call} (s : Dispatching HttpClient HttpTicket (ω × Notes ω))
    (hshape : call.returns.isNonBlocking = true) :
    (s.perform d t.noting (.call call)).notes = s.notes := by
  have hnotes := register_notes (t := t) d.resolver call s.session
  unfold Dispatching.notes
  simp only [Dispatching.perform, Dispatching.session_handOut]
  cases hm : call.mapping with
  | none => simp [Dispatcher.invoke, hm]
  | some mapping =>
    rcases hr : s.session.register d.resolver t.noting call with ⟨e | registration, s'⟩
    · rw [hr] at hnotes
      rw [invoke_unregistered hm hr]
      exact hnotes
    · rw [hr] at hnotes
      rw [invoke_registered hm hr]
      unfold Dispatcher.perform
      cases hc : call.returns with
      | future element => exact hnotes
      | stream type element => exact hnotes
      | _ => simp [hc, ReturnShape.isNonBlocking] at hshape

/-! ## What the notes tell -/

/-- What is noted of exchanges is so: each has run on a client with the settings, as its ticket
says. -/
structure TrulyNoted (t : Transport HttpClient HttpTicket ω) (settings : HttpSettings)
    (s : Session HttpClient (ω × Notes ω)) : Prop where
  equipped : ∀ c ∈ s.registry.clients, c.settings = settings
  noted : ∀ ran ∈ s.outside.2, ran.client.settings = settings ∧
    ran.after = (t.redeem ran.ticket ran.client ran.before).2.2

/-- Behind the first `past` notes all that has happened outside is noted. -/
structure LinkedSince (first : ω) (past : Nat) (s : Session HttpClient (ω × Notes ω)) : Prop where
  since : past ≤ s.outside.2.length
  linked : Linked first (s.outside.2.drop past) s.outside.1

theorem trulyNoted_start (t : Transport HttpClient HttpTicket ω) (settings : HttpSettings)
    (outside : ω) : TrulyNoted t settings (Dispatching.noted outside).session :=
  ⟨fun _ hc => absurd hc List.not_mem_nil, fun _ hran => absurd hran List.not_mem_nil⟩

theorem linkedSince_start (s : Session HttpClient (ω × Notes ω)) :
    LinkedSince s.outside.1 s.outside.2.length s := by
  refine ⟨Nat.le_refl _, ?_⟩
  rw [List.drop_length]
  rfl

theorem Registry.Moves.settings {r r' : Registry HttpClient} {closer : Closer HttpClient}
    {exchange : Option Nat} (hclose : ∀ c, (closer c).2 = c.shut)
    (hmoves : r.Moves closer exchange r') (hlength : r'.clients.length = r.clients.length)
    {settings : HttpSettings} (h : ∀ c ∈ r.clients, c.settings = settings) :
    ∀ c ∈ r'.clients, c.settings = settings := by
  intro c' hc'
  obtain ⟨k, hk⟩ := List.mem_iff_getElem?.mp hc'
  obtain ⟨c, hc, hbecomes⟩ := hmoves.client_before hclose hlength hk
  rw [hbecomes.settings]
  exact h c (List.mem_of_getElem? hc)

section
variable (settings : HttpSettings) (n : Network ω) (platform : Platform) (resolver : Resolver)

theorem keptBy_trulyNoted :
    KeptBy resolver (httpTransport settings n platform).noting (fun _ => True)
      (TrulyNoted (httpTransport settings n platform) (settings.on platform)) where
  register {s} call hs := by
    have hnotes := register_notes (t := httpTransport settings n platform) resolver call s
    refine ⟨?_, by rw [hnotes]; exact hs.noted⟩
    have hcases := register_cases resolver (httpTransport settings n platform).noting call s
    generalize s.register resolver (httpTransport settings n platform).noting call = after at hcases
    obtain ⟨result, registry, outside⟩ := after
    cases hcases with
    | @made balancer codec client outside' _ _ hmake =>
      intro c hc
      rcases List.mem_append.mp hc with hold | hnew
      · exact hs.equipped c hold
      · obtain ⟨-, _, -, rfl⟩ := HttpClient.make_eq_ok.mp (congrArg Prod.fst hmake)
        rw [List.mem_singleton.mp hnew]
    | _ => exact hs.equipped
  start _ _ hs := ⟨hs.equipped, hs.noted⟩
  redeem {s} number ticket hs := by
    have ht := (overHttp_httpTransport settings n platform).noting
    have hmoves := redeem_moves ht s number ticket
    unfold Session.redeem at hmoves ⊢
    cases hc : s.registry.clients[number]? with
    | none => exact hs
    | some c =>
      rw [hc] at hmoves
      refine ⟨hmoves.settings ht.shut (by simp [Registry.setClient]) hs.equipped, fun ran hran => ?_⟩
      rcases List.mem_append.mp hran with hold | hnew
      · exact hs.noted ran hold
      · rw [List.mem_singleton.mp hnew]
        exact ⟨hs.equipped c (List.mem_of_getElem? hc), rfl⟩
  invalidate {s} service _ hs := by
    have hmoves : s.registry.Moves (httpTransport settings n platform).noting.close none
        (s.invalidate (httpTransport settings n platform).noting service).2.registry := .invalidated
    exact ⟨hmoves.settings (fun _ => rfl) (Registry.length_clients_invalidate _ _ _) hs.equipped,
      hs.noted⟩
  close {s} _ hs := by
    have hmoves : s.registry.Moves (httpTransport settings n platform).noting.close none
        (s.close (httpTransport settings n platform).noting).2.registry := .closed
    exact ⟨hmoves.settings (fun _ => rfl) (Registry.length_clients_close _ _) hs.equipped, hs.noted⟩

theorem keptBy_linkedSince (first : ω) (past : Nat) :
    KeptBy resolver (httpTransport settings n platform).noting (fun _ => True)
      (LinkedSince first past) where
  register {s} call hs := by
    have hsame : (s.register resolver (httpTransport settings n platform).noting call).2.outside =
        s.outside := register_keeps id (fun _ _ _ _ => rfl) resolver call s
    exact ⟨hsame ▸ hs.since, hsame ▸ hs.linked⟩
  start _ _ hs := ⟨hs.since, hs.linked⟩
  redeem {s} number ticket hs := by
    unfold Session.redeem
    cases s.registry.clients[number]? with
    | none => exact hs
    | some c =>
      dsimp only [Transport.noting]
      constructor
      · rw [List.length_append]
        exact Nat.le_add_right_of_le hs.since
      · rw [List.drop_append_of_le_length hs.since]
        exact linked_append hs.linked ⟨rfl, rfl⟩
  invalidate _ _ hs := ⟨hs.since, hs.linked⟩
  close _ hs := ⟨hs.since, hs.linked⟩

end

/-- What an exchange has handed to the network, where its turn has come to an endpoint. -/
theorem sent_in_turn {settings : HttpSettings} {n : Network ω} {platform : Platform}
    {service : ServiceId} {name : String} {endpoints : List Endpoint} {past : Nat}
    {s : Session HttpClient ((ω × List Outgoing) × Notes (ω × List Outgoing))} {i : Nat}
    {exchange : Ran HttpClient HttpTicket (ω × List Outgoing)} {endpoint : Endpoint}
    {source : List Char}
    (hnoted : TrulyNoted (httpTransport settings n.noting platform) (settings.on platform) s)
    (hturns : ByTurns service name endpoints past s)
    (hexchange : (s.exchangesSince past service)[i]? = some exchange)
    (hchoice : (inTurn name endpoints i).select.1 = .ok endpoint)
    (hsource : Url.parse source = .ok endpoint.url) :
    ∃ sent, exchange.after.2 = exchange.before.2 ++ sent ∧
      SentTo (settings.security.inForce platform.insecureBuiltIn) endpoint.url
        exchange.ticket.request sent := by
  obtain ⟨hran, hours⟩ := List.mem_filter.mp (List.mem_of_getElem? hexchange)
  obtain ⟨hsettings, hafter⟩ := hnoted.noted exchange (List.mem_of_mem_drop hran)
  have hbalancer : exchange.client.balancer = inTurn name endpoints i :=
    hturns.noted i exchange hexchange
  have hsent := sentTo_handed exchange.ticket.request (of_decide_eq_true hours).2
    (hbalancer ▸ hchoice) hsource
  rw [hsettings] at hsent
  refine ⟨_, ?_, hsent⟩
  rw [hafter]
  exact HttpClient.send_noting n _ _ _

/-! ## The law -/

/-- A service that takes its name from the settings. From the start, or from a removal of its
registration, to the next removal its exchanges go to the URLs of the name in turn, in the order
in which they run: each hands its request to the network, on its way to the URL in turn, unless it
may not go there. Nothing else is handed over. All calls for the service have their exchanges on an
open client of it, one that is not awaited has its turn no sooner than it runs, and the notes that
tell of the exchanges change nothing about the run. -/
theorem a_named_service_takes_turns (settings : Settings) (n : Network ω) (platform : Platform)
    (d : Dispatcher HttpTicket) (name : String) (urls : List String) (service : ServiceId)
    (outside : ω × List Outgoing) (before steps : List DispatchStep)
    (hresolver : settings.resolver = .ok d.resolver)
    (hurls : Keyed.get? name settings.services = some urls) (hne : urls ≠ [])
    (hservice : service.Names name)
    (hbefore : before = [] ∨
      ∃ earlier removal, before = earlier ++ [removal] ∧ DispatchStep.Removes service removal)
    (hsteps : ∀ step ∈ steps, ¬DispatchStep.Removes service step) :
    let t := httpTransport settings.http n.noting platform
    let s := (Dispatching.noted outside).after d t.noting before
    let later := s.after d t.noting steps
    let ran := later.notes.drop s.notes.length
    (∀ (i : Nat) exchange, i < 2 ^ 64 → (exchangesOf service ran)[i]? = some exchange →
      ∃ endpoint sent, EndpointOf name urls (i % urls.length) endpoint ∧
        exchange.after.2 = exchange.before.2 ++ sent ∧
        SentTo (settings.http.security.inForce platform.insecureBuiltIn) endpoint.url
          exchange.ticket.request sent) ∧
    Linked s.plain.session.outside ran later.plain.session.outside ∧
    (∀ call registration s', later.session.register d.resolver t.noting call = (.ok registration, s') →
      ∃ c, s'.registry.clients[registration.client]? = some c ∧ c.service = call.service ∧
        c.closed = false) ∧
    (∀ call : Call, call.returns.isNonBlocking = true →
      (later.perform d t.noting (.call call)).notes = later.notes) ∧
    later.plain = Dispatching.after d t { session := { outside } } (before ++ steps) := by
  intro t s later ran
  have ht : t.OverHttp := overHttp_httpTransport settings.http n.noting platform
  have hserving : KeptBy d.resolver t.noting (fun _ => True)
      fun s : Session HttpClient ((ω × List Outgoing) × Notes (ω × List Outgoing)) =>
        s.registry.Serving := keptBy_serving ht.noting
  have hs : s.session.registry.Serving := hserving.after .empty before fun _ _ => trivial
  have htold : TrulyNoted t (settings.http.on platform) later.session := by
    have hkept := keptBy_trulyNoted settings.http n.noting platform d.resolver
    have hstart := hkept.after (trulyNoted_start t _ outside) before fun _ _ => trivial
    exact hkept.after hstart steps fun _ _ => trivial
  obtain ⟨endpoints, hresolved, hlength, hendpoints⟩ := resolve_named hresolver hurls hservice
  have hsome : endpoints ≠ [] := by
    rw [← List.length_pos_iff] at hne ⊢
    omega
  refine ⟨?_, ?_, ?_, fun call => notes_of_nonBlocking later, ?_⟩
  · intro i exchange hi hexchange
    have hnone : Keyed.get? service s.session.registry.registered = none :=
      unregistered_before rfl hbefore
    have hturns := (keptBy_byTurns ht hsome s.notes.length hresolved).after
      (.start hs.orderly hnone) steps hsteps
    obtain ⟨endpoint, hendpoint, hchoice⟩ := @inTurn_choice name endpoints i hsome hi
    rw [hlength] at hendpoint
    have hurl := hendpoints _ _ hendpoint
    obtain ⟨text, -, hsource⟩ := hurl.url
    obtain ⟨sent, hafter, hsent⟩ := sent_in_turn htold hturns hexchange hchoice hsource
    exact ⟨endpoint, sent, hurl, hafter, hsent⟩
  · have hkept := keptBy_linkedSince settings.http n.noting platform d.resolver
      s.session.outside.1 s.notes.length
    exact (hkept.after (linkedSince_start s.session) steps fun _ _ => trivial).linked
  · intro call registration s' hregister
    have hserves := hserving.register call (hserving.after hs steps fun _ _ => trivial)
    have hcases := register_cases d.resolver t.noting call later.session
    rw [hregister] at hserves hcases
    obtain ⟨c, hc, hcs⟩ := hserves.orderly.held hcases.registered
    exact ⟨c, hc, hcs, hserves.opened hcases.registered hc⟩
  · have hlater : later = (Dispatching.noted outside).after d t.noting (before ++ steps) := by
      simp only [later, s, Dispatching.after, List.foldl_append]
    rw [hlater, ← after_plain]
    rfl

/-- After an invalidation the first exchange has the first URL again and the second one the second,
though nothing comes back of the first one. -/
theorem a_service_has_its_turns_anew_after_an_invalidation :
    let a : Url := { scheme := "http".toList, authority := some "a.example".toList, path := ['/'],
                     query := none, fragment := none }
    let b : Url := { a with authority := some "b.example".toList }
    let settings : Settings :=
      { http := { security := .allowInsecureHttp }
        services := [("users", ["http://a.example", "http://b.example"])] }
    let d : Dispatcher HttpTicket :=
      { resolver := { lists := [("users", Endpoint.numbered "users" [a, b])] } }
    let users : ServiceId := ⟨["users", "eu"]⟩
    let call : Call :=
      { service := users, operation := ⟨"UserApi", "get", []⟩, mapping := some ⟨.get, "/7"⟩
        returns := .response }
    let n : Network Unit := { send := fun _ _ => (.silent, ()) }
    let t := httpTransport settings.http n.noting
    let s := (Dispatching.noted ((), [])).after d t.noting [.call call, .invalidate users]
    let later := s.after d t.noting [.call call, .call call]
    ∃ exchange out,
      (exchangesOf users (later.notes.drop s.notes.length))[1]? = some exchange ∧
      exchange.after.2 = exchange.before.2 ++ [out] ∧
      out.uri.scheme = "http".toList ∧ out.uri.authority = "b.example".toList ∧
      out.uri.resource = "/7".toList := by
  intro a b settings d users call n t s later
  have ha : Url.parse "http://a.example".toList = .ok a := toOption_eq_some.mp (by decide +kernel)
  have hb : Url.parse "http://b.example".toList = .ok b := toOption_eq_some.mp (by decide +kernel)
  have hresolver : settings.resolver = .ok d.resolver := by
    have hurls : ["http://a.example", "http://b.example"].mapM (Resolver.readUrl "users") =
        .ok [a, b] := by
      simp only [List.mapM_cons, List.mapM_nil, Resolver.readUrl, ha, hb]
      rfl
    unfold Settings.resolver Resolver.ofSettings Resolver.byName
    rw [List.mergeSort_singleton]
    simp only [Resolver.readLists, hurls]
    rfl
  have hran : (exchangesOf users (later.notes.drop s.notes.length))[1]?.map
      (·.ticket.request.uri) = some "/7".toList := by decide +kernel
  obtain ⟨exchange, hexchange, hrequest⟩ := Option.map_eq_some_iff.mp hran
  obtain ⟨hturns, -⟩ := a_named_service_takes_turns settings n {} d "users"
    ["http://a.example", "http://b.example"] users ((), []) [.call call, .invalidate users]
    [.call call, .call call] hresolver rfl (by simp) ⟨rfl, by decide⟩
    (.inr ⟨[.call call], .invalidate users, rfl, rfl⟩) (by simp [DispatchStep.Removes])
  obtain ⟨endpoint, sent, hendpoint, hafter, hsent⟩ := hturns 1 exchange (by decide) hexchange
  obtain ⟨text, htext, hsource⟩ := hendpoint.url
  cases htext
  have hurl : endpoint.url = b := Except.ok.inj (hsource.symm.trans hb)
  rw [hurl] at hsent
  cases hsent with
  | @sent out _ haddressed =>
    refine ⟨exchange, out, hexchange, hafter, haddressed.scheme, ?_, ?_⟩
    · exact (Option.some.inj haddressed.authority).symm
    · rw [haddressed.resource, hrequest]
      decide +kernel
  | refused hrefused =>
    refine absurd ⟨.inr ⟨rfl, rfl⟩, ?_⟩ hrefused
    rw [hrequest]
    exact ⟨{ scheme := b.scheme, authority := "b.example".toList, resource := "/7".toList },
      toOption_eq_some.mp (by decide +kernel)⟩

end HttpCalls
