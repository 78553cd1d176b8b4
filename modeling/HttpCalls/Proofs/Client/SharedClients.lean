-- Clients that are shared. Who knows the number of a client shares its state with all others
-- who do. An exchange moves its choice on and hands the network what was prepared, a closed
-- client never changes again, and a client that is not closed is the one that the registration
-- of its service holds.
import HttpCalls.Client.Basic
import HttpCalls.Proofs.Endpoint.Registrations
import HttpCalls.Proofs.Results

namespace HttpCalls

variable {κ ω : Type}

/-! ## What becomes of a client -/

namespace HttpClient

/-- The client after an exchange: its next choice is the one after, unless it is closed. -/
def moved (c : HttpClient) : HttpClient :=
  if c.closed then c else { c with balancer := c.balancer.select.2 }

/-- The client when it is closed. -/
def shut (c : HttpClient) : HttpClient := { c with closed := true }

/-- How a client may be found later: it serves the same service with the same settings, and once
it is closed nothing about it changes. -/
structure Becomes (c c' : HttpClient) : Prop where
  service : c'.service = c.service
  settings : c'.settings = c.settings
  closed : c.closed = true → c' = c

variable {c c' c'' : HttpClient}

theorem becomes_refl (c : HttpClient) : c.Becomes c :=
  ⟨rfl, rfl, fun _ => rfl⟩

theorem Becomes.trans (h : c.Becomes c') (h' : c'.Becomes c'') : c.Becomes c'' := by
  refine ⟨h'.service.trans h.service, h'.settings.trans h.settings, fun hclosed => ?_⟩
  have hsame := h.closed hclosed
  subst hsame
  exact h'.closed hclosed

theorem becomes_moved (c : HttpClient) : c.Becomes c.moved := by
  unfold moved
  split
  · exact becomes_refl c
  · rename_i hopen
    exact ⟨rfl, rfl, fun hclosed => absurd hclosed hopen⟩

theorem becomes_shut (c : HttpClient) : c.Becomes c.shut := by
  refine ⟨rfl, rfl, fun hclosed => ?_⟩
  unfold shut
  rw [← hclosed]

theorem Becomes.open_before (h : c.Becomes c') (hopen : c'.closed = false) : c.closed = false := by
  cases hclosed : c.closed with
  | false => rfl
  | true => rw [← hclosed, ← h.closed hclosed, hopen]

theorem send_moves (n : Network ω) (r : Request) (c : HttpClient) (outside : ω) :
    (c.send n r outside).2.1 = c.moved := by
  unfold send moved
  split
  · rfl
  · rcases hp : c.prepare r with ⟨result, c'⟩
    have hc' : c' = (c.prepare r).2 := by rw [hp]
    rcases result with e | out <;> exact hc'

theorem send_closed (n : Network ω) (r : Request) (outside : ω) (h : c.closed = true) :
    c.send n r outside = (.error (.closed c.service.text), c, outside) := by
  unfold send
  rw [if_pos h]

end HttpClient

/-! ## What the network hears -/

/-- A network that takes note of what is handed to it. -/
def Network.noting (n : Network ω) : Network (ω × List Outgoing) where
  send out outside :=
    let (reaction, after) := n.send out outside.1
    (reaction, after, outside.2 ++ [out])

/-- What a client hands to the network for a request. -/
def HttpClient.handed (c : HttpClient) (r : Request) : List Outgoing :=
  if c.closed then [] else (c.prepare r).1.toOption.toList

theorem HttpClient.send_noting (n : Network ω) (r : Request) (c : HttpClient)
    (outside : ω × List Outgoing) :
    (c.send n.noting r outside).2.2.2 = outside.2 ++ c.handed r := by
  unfold send handed
  split
  · exact (List.append_nil _).symm
  · rcases hp : c.prepare r with ⟨e | out, c'⟩
    · exact (List.append_nil _).symm
    · rfl

/-! ## Transports -/

/-- A transport whose clients live as clients over HTTP do. -/
structure Transport.OverHttp (t : Transport HttpClient HttpTicket ω) : Prop where
  made : ∀ {service balancer codec outside client outside'},
    t.create service balancer codec outside = (.ok client, outside') →
    client.service = service ∧ client.balancer = balancer ∧ client.closed = false
  moved : ∀ ticket client outside, (t.redeem ticket client outside).2.1 = client.moved
  shut : ∀ client, (t.close client).2 = client.shut

theorem HttpClient.make_eq_ok {settings : HttpSettings} {service : ServiceId} {balancer : Balancer}
    {codec : Codec} {platform : Platform} {client : HttpClient} :
    HttpClient.make settings service balancer codec platform = .ok client ↔
      platform.connect settings.roots = .ok () ∧
        ∃ userAgent, HeaderValue.ofText? settings.userAgent.toList = some userAgent ∧
          client = { service, balancer, codec, userAgent, settings := settings.on platform } := by
  unfold HttpClient.make
  rw [bind_eq_ok]
  constructor
  · rintro ⟨_, hconnected, h⟩
    refine ⟨hconnected, ?_⟩
    split at h
    · rename_i userAgent hname
      cases h
      exact ⟨userAgent, hname, rfl⟩
    · cases h
  · rintro ⟨hconnected, userAgent, hname, rfl⟩
    exact ⟨(), hconnected, by rw [hname]⟩

theorem HttpClient.make_spec {settings : HttpSettings} {service : ServiceId} {balancer : Balancer}
    {codec : Codec} {platform : Platform} {client : HttpClient}
    (h : HttpClient.make settings service balancer codec platform = .ok client) :
    client.service = service ∧ client.balancer = balancer ∧ client.closed = false := by
  obtain ⟨-, _, -, rfl⟩ := HttpClient.make_eq_ok.mp h
  exact ⟨rfl, rfl, rfl⟩

theorem overHttp_httpTransport (settings : HttpSettings) (n : Network ω) (platform : Platform) :
    (httpTransport settings n platform).OverHttp where
  made h := HttpClient.make_spec (congrArg Prod.fst h)
  moved ticket client outside := HttpClient.send_moves n ticket.request client outside
  shut _ := rfl

/-! ## Asking for a service -/

/-- What becomes of it when a service is asked for. -/
inductive Obtaining (resolver : ServiceId → Option Balancer) (make : Maker κ ω) (service : ServiceId)
    (options : ClientOptions) (r : Registry κ) (outside : ω) :
    Except DispatchError Registration × Registry κ × ω → Prop
  | held {registration} : Keyed.get? service r.registered = some registration →
      Obtaining resolver make service options r outside (.ok registration, r, outside)
  | unresolved : Keyed.get? service r.registered = none → resolver service = none →
      Obtaining resolver make service options r outside (.error (.serviceResolution service), r, outside)
  | refused {balancer codec e outside'} : Keyed.get? service r.registered = none →
      resolver service = some balancer → make service balancer codec outside = (.error e, outside') →
      Obtaining resolver make service options r outside (.error (.transport e), r, outside')
  | made {balancer codec client outside'} : Keyed.get? service r.registered = none →
      resolver service = some balancer → make service balancer codec outside = (.ok client, outside') →
      Obtaining resolver make service options r outside
        (.ok (r.add service options client).1, (r.add service options client).2, outside')

theorem obtain_cases (resolver : ServiceId → Option Balancer) (make : Maker κ ω) (service : ServiceId)
    (options : ClientOptions) (r : Registry κ) (outside : ω) :
    Obtaining resolver make service options r outside
      (r.obtain resolver make service options outside) := by
  unfold Registry.obtain
  cases hget : Keyed.get? service r.registered with
  | some registration => exact .held hget
  | none =>
    cases hresolver : resolver service with
    | none => exact .unresolved hget hresolver
    | some balancer =>
      dsimp only
      rcases hmake : make service balancer (({} : Codec).withFeatures options.features) outside
        with ⟨e | client, outside'⟩
      · exact .refused hget hresolver hmake
      · exact .made hget hresolver hmake

theorem register_cases {τ : Type} (resolver : Resolver) (t : Transport κ τ ω) (call : Call)
    (s : Session κ ω) :
    Obtaining resolver.resolve t.create call.service call.client s.registry s.outside
      ((s.register resolver t call).1, (s.register resolver t call).2.registry,
        (s.register resolver t call).2.outside) :=
  obtain_cases _ _ _ _ _ _

/-- What no making of a client changes outside is the same after a service was asked for. -/
theorem register_keeps {τ α : Type} (view : ω → α) {t : Transport κ τ ω}
    (hmaking : ∀ service balancer codec outside,
      view (t.create service balancer codec outside).2 = view outside)
    (resolver : Resolver) (call : Call) (s : Session κ ω) :
    view (s.register resolver t call).2.outside = view s.outside := by
  have hcases := register_cases resolver t call s
  generalize s.register resolver t call = after at hcases ⊢
  obtain ⟨result, registry, outside⟩ := after
  cases hcases with
  | held => rfl
  | unresolved => rfl
  | @refused balancer codec _ _ _ _ hmake =>
    have hkept := hmaking call.service balancer codec s.outside
    rwa [hmake] at hkept
  | @made balancer codec _ _ _ _ hmake =>
    have hkept := hmaking call.service balancer codec s.outside
    rwa [hmake] at hkept

/-- What a service is given is its registration from then on. -/
theorem Obtaining.registered {resolver : ServiceId → Option Balancer} {make : Maker κ ω}
    {service : ServiceId} {options : ClientOptions} {r r' : Registry κ} {outside outside' : ω}
    {registration : Registration}
    (h : Obtaining resolver make service options r outside (.ok registration, r', outside')) :
    Keyed.get? service r'.registered = some registration := by
  cases h with
  | held hget => exact hget
  | made => exact (Keyed.get?_put _ _ _ _).trans (if_pos rfl)

/-! ## Clients by their numbers -/

theorem getElem?_concat_cases {α : Type} {l : List α} {x y : α} {i : Nat}
    (h : (l ++ [x])[i]? = some y) : l[i]? = some y ∨ (i = l.length ∧ y = x) := by
  rcases Nat.lt_trichotomy i l.length with hlt | heq | hgt
  · rw [List.getElem?_append_left hlt] at h
    exact .inl h
  · subst heq
    rw [List.getElem?_concat_length] at h
    cases h
    exact .inr ⟨rfl, rfl⟩
  · rw [List.getElem?_eq_none (by simp; omega)] at h
    cases h

namespace Registry

theorem getElem?_closeAll {close : Closer HttpClient} (hclose : ∀ c, (close c).2 = c.shut)
    (numbers : List Nat) (r : Registry HttpClient) (k : Nat) :
    (r.closeAll close numbers).2.clients[k]? =
      if k ∈ numbers then r.clients[k]?.map HttpClient.shut else r.clients[k]? := by
  induction numbers generalizing r with
  | nil => simp [closeAll]
  | cons n more ih =>
    have hfirst := getElem?_closeClient close r n k
    simp only [hclose] at hfirst
    rw [closeAll]
    refine (ih _).trans ?_
    rw [hfirst]
    by_cases hn : n = k
    · subst hn
      cases r.clients[n]? <;> simp [HttpClient.shut]
    · simp [hn, Ne.symm hn]

theorem getElem?_add {r : Registry κ} {k : Nat} {c : κ} (hc : r.clients[k]? = some c)
    (service : ServiceId) (options : ClientOptions) (client : κ) :
    (r.add service options client).2.clients[k]? = some c := by
  simp only [add]
  rw [List.getElem?_append_left (List.getElem?_eq_some_iff.mp hc).1, hc]

section
variable {closer : Closer HttpClient} (hclose : ∀ c, (closer c).2 = c.shut)
  {r : Registry HttpClient} {k : Nat} {c : HttpClient}
include hclose

theorem getElem?_shut (hc : r.clients[k]? = some c) (n : Nat) :
    (r.closeClient closer n).2.clients[k]? = some (if n = k then c.shut else c) := by
  rw [getElem?_closeClient, hc]
  split
  · simp [hclose]
  · rfl

/-- The client of a service that is taken back is closed. -/
theorem getElem?_invalidated {service : ServiceId} {registration : Registration}
    (hget : Keyed.get? service r.registered = some registration)
    (hc : r.clients[registration.client]? = some c) :
    (r.invalidate closer service).2.clients[registration.client]? = some c.shut := by
  have hshut := getElem?_shut hclose (r := { r with registered := Keyed.erase service r.registered })
    hc registration.client
  rw [if_pos rfl] at hshut
  unfold Registry.invalidate
  rw [hget]
  exact hshut

theorem getElem?_untaken {service : ServiceId} (hc : r.clients[k]? = some c)
    (hother : ∀ registration, Keyed.get? service r.registered = some registration →
      registration.client ≠ k) :
    (r.invalidate closer service).2.clients[k]? = some c := by
  cases hget : Keyed.get? service r.registered with
  | none =>
    unfold Registry.invalidate
    rw [hget]
    exact hc
  | some registration =>
    have hkept := getElem?_shut hclose
      (r := { r with registered := Keyed.erase service r.registered }) hc registration.client
    rw [if_neg (hother registration hget)] at hkept
    unfold Registry.invalidate
    rw [hget]
    exact hkept

theorem getElem?_invalidate (hc : r.clients[k]? = some c) (service : ServiceId) :
    (r.invalidate closer service).2.clients[k]? = some c ∨
      (r.invalidate closer service).2.clients[k]? = some c.shut := by
  by_cases htaken : ∃ registration, Keyed.get? service r.registered = some registration ∧
      registration.client = k
  · obtain ⟨registration, hget, rfl⟩ := htaken
    exact .inr (getElem?_invalidated hclose hget hc)
  · refine .inl (getElem?_untaken hclose hc fun registration hget hk => ?_)
    exact htaken ⟨registration, hget, hk⟩

theorem getElem?_close (hc : r.clients[k]? = some c) :
    (r.close closer).2.clients[k]? = some (if k ∈ r.held then c.shut else c) := by
  refine (getElem?_closeAll hclose r.held { r with registered := [] } k).trans ?_
  simp only [hc]
  split <;> rfl

end

/-! ## Registrations that are taken back -/

section
variable (closer : Closer κ) (r : Registry κ) {service taken : ServiceId}

theorem unregistered_invalidate (h : taken = service) :
    Keyed.get? service (r.invalidate closer taken).2.registered = none := by
  rw [registered_invalidate, Keyed.get?_erase, if_pos h]

theorem get?_invalidate_other (h : taken ≠ service) :
    Keyed.get? service (r.invalidate closer taken).2.registered = Keyed.get? service r.registered := by
  rw [registered_invalidate, Keyed.get?_erase, if_neg h]

theorem unregistered_close (service : ServiceId) :
    Keyed.get? service (r.close closer).2.registered = none := by
  rw [registered_close]
  rfl

end

/-! ## Moves -/

/-- What a single step does to a registry; it tells whose exchange has run, if one has. -/
inductive Moves (closer : Closer HttpClient) (r : Registry HttpClient) :
    Option Nat → Registry HttpClient → Prop
  | still : Moves closer r none r
  | added {service options client} : Keyed.get? service r.registered = none →
      client.service = service → Moves closer r none (r.add service options client).2
  | exchanged {n c} : r.clients[n]? = some c → Moves closer r (some n) (r.setClient n c.moved)
  | shut {n c} : r.clients[n]? = some c → Moves closer r none (r.setClient n c.shut)
  | invalidated {service} : Moves closer r none (r.invalidate closer service).2
  | closed : Moves closer r none (r.close closer).2

section
variable {closer : Closer HttpClient} (hclose : ∀ c, (closer c).2 = c.shut)
  {r r' : Registry HttpClient} {exchange : Option Nat}
include hclose

/-- A client is still there after a move, and its choice moves on with its own exchanges only. -/
theorem Moves.client {k : Nat} {c : HttpClient} (h : r.Moves closer exchange r')
    (hc : r.clients[k]? = some c) :
    ∃ c', r'.clients[k]? = some c' ∧ c.Becomes c' ∧ (exchange = some k → c' = c.moved) ∧
      (exchange ≠ some k → c'.balancer = c.balancer) := by
  have hsame : c.Becomes c ∧ (none = some k → c = c.moved) ∧
      ((none : Option Nat) ≠ some k → c.balancer = c.balancer) :=
    ⟨c.becomes_refl, nofun, fun _ => rfl⟩
  have hshut : c.Becomes c.shut ∧ (none = some k → c.shut = c.moved) ∧
      ((none : Option Nat) ≠ some k → c.shut.balancer = c.balancer) :=
    ⟨c.becomes_shut, nofun, fun _ => rfl⟩
  cases h with
  | still => exact ⟨c, hc, hsame⟩
  | added => exact ⟨c, getElem?_add hc _ _ _, hsame⟩
  | @exchanged n d hd =>
    rw [getElem?_setClient hd]
    by_cases hn : n = k
    · subst hn
      cases hd.symm.trans hc
      exact ⟨_, if_pos rfl, c.becomes_moved, fun _ => rfl, fun hne => absurd rfl hne⟩
    · exact ⟨c, by rw [if_neg hn, hc], c.becomes_refl, fun heq => absurd (Option.some.inj heq) hn,
        fun _ => rfl⟩
  | @shut n d hd =>
    rw [getElem?_setClient hd]
    by_cases hn : n = k
    · subst hn
      cases hd.symm.trans hc
      exact ⟨_, if_pos rfl, hshut⟩
    · exact ⟨c, by rw [if_neg hn, hc], hsame⟩
  | invalidated =>
    rcases getElem?_invalidate hclose hc _ with hc' | hc'
    · exact ⟨c, hc', hsame⟩
    · exact ⟨c.shut, hc', hshut⟩
  | closed =>
    refine ⟨_, getElem?_close hclose hc, ?_⟩
    split
    · exact hshut
    · exact hsame

/-- A client of a later registry was there already, unless it was added by the move. -/
theorem Moves.client_before {k : Nat} {c' : HttpClient} (h : r.Moves closer exchange r')
    (hlength : r'.clients.length = r.clients.length) (hc' : r'.clients[k]? = some c') :
    ∃ c, r.clients[k]? = some c ∧ c.Becomes c' := by
  have hk : k < r.clients.length := hlength ▸ (List.getElem?_eq_some_iff.mp hc').1
  obtain ⟨c'', hc'', hbecomes, -⟩ := h.client hclose (List.getElem?_eq_getElem hk)
  cases hc'.symm.trans hc''
  exact ⟨_, List.getElem?_eq_getElem hk, hbecomes⟩

end

/-! ## Open clients are registered -/

/-- What the registration of a service holds is a client of this service, and a client that is
not closed is held so. -/
structure Orderly (r : Registry HttpClient) : Prop where
  held : ∀ {service registration}, Keyed.get? service r.registered = some registration →
    ∃ c, r.clients[registration.client]? = some c ∧ c.service = service
  opened : ∀ {k c}, r.clients[k]? = some c → c.closed = false →
    ∃ registration, Keyed.get? c.service r.registered = some registration ∧ registration.client = k

theorem orderly_empty : ({} : Registry HttpClient).Orderly where
  held h := by cases h
  opened h := by cases h

variable {r r' : Registry HttpClient}

theorem Orderly.add (h : r.Orderly) {service : ServiceId} (options : ClientOptions)
    {client : HttpClient} (hnone : Keyed.get? service r.registered = none)
    (hservice : client.service = service) : (r.add service options client).2.Orderly := by
  constructor
  · intro other registration hget
    simp only [Registry.add, Keyed.get?_put] at hget
    split at hget
    · rename_i heq
      cases hget
      exact ⟨client, List.getElem?_concat_length, hservice.trans heq⟩
    · obtain ⟨c, hc, hcs⟩ := h.held hget
      exact ⟨c, getElem?_add hc _ _ _, hcs⟩
  · intro k c hc hopen
    simp only [Registry.add, Keyed.get?_put] at hc ⊢
    rcases getElem?_concat_cases hc with hold | ⟨rfl, rfl⟩
    · obtain ⟨registration, hget, hclient⟩ := h.opened hold hopen
      have hne : service ≠ c.service := by
        rintro rfl
        rw [hnone] at hget
        cases hget
      exact ⟨registration, by rw [if_neg hne, hget], hclient⟩
    · exact ⟨_, if_pos hservice.symm, rfl⟩

section
variable {closer : Closer HttpClient} (hclose : ∀ c, (closer c).2 = c.shut)
  {exchange : Option Nat}
include hclose

/-- A move that adds no client and takes no registration away. -/
theorem Orderly.kept (h : r.Orderly) (hmoves : r.Moves closer exchange r')
    (hlength : r'.clients.length = r.clients.length) (hregistered : r'.registered = r.registered) :
    r'.Orderly := by
  constructor
  · intro service registration hget
    rw [hregistered] at hget
    obtain ⟨c, hc, hcs⟩ := h.held hget
    obtain ⟨c', hc', hbecomes, -⟩ := hmoves.client hclose hc
    exact ⟨c', hc', hbecomes.service.trans hcs⟩
  · intro k c' hc' hopen
    obtain ⟨c, hc, hbecomes⟩ := hmoves.client_before hclose hlength hc'
    rw [hbecomes.service, hregistered]
    exact h.opened hc (hbecomes.open_before hopen)

theorem Orderly.invalidate (h : r.Orderly) (service : ServiceId) :
    (r.invalidate closer service).2.Orderly := by
  have hmoves : r.Moves closer none (r.invalidate closer service).2 := .invalidated
  constructor
  · intro other registration hget
    rw [registered_invalidate, Keyed.get?_erase] at hget
    split at hget
    · cases hget
    · obtain ⟨c, hc, hcs⟩ := h.held hget
      obtain ⟨c', hc', hbecomes, -⟩ := hmoves.client hclose hc
      exact ⟨c', hc', hbecomes.service.trans hcs⟩
  · intro k c' hc' hopen
    obtain ⟨c, hc, hbecomes⟩ :=
      hmoves.client_before hclose (length_clients_invalidate closer service r) hc'
    obtain ⟨registration, hget, rfl⟩ := h.opened hc (hbecomes.open_before hopen)
    rw [← hbecomes.service] at hget
    refine ⟨registration, ?_, rfl⟩
    rw [registered_invalidate, Keyed.get?_erase]
    split
    · -- the client of the service itself was closed
      rename_i heq
      subst heq
      cases hc'.symm.trans (getElem?_invalidated hclose hget hc)
      cases hopen
    · exact hget

theorem Orderly.close (h : r.Orderly) : (r.close closer).2.Orderly := by
  constructor
  · intro service registration hget
    rw [registered_close] at hget
    cases hget
  · intro k c' hc' hopen
    have hmoves : r.Moves closer none (r.close closer).2 := .closed
    obtain ⟨c, hc, hbecomes⟩ := hmoves.client_before hclose (length_clients_close closer r) hc'
    obtain ⟨registration, hget, rfl⟩ := h.opened hc (hbecomes.open_before hopen)
    have hheld : registration.client ∈ r.held := List.mem_map_of_mem (Keyed.mem_of_get? hget)
    rw [getElem?_close hclose hc, if_pos hheld] at hc'
    cases hc'
    cases hopen

theorem Orderly.moves (h : r.Orderly) (hmoves : r.Moves closer exchange r') : r'.Orderly := by
  cases hmoves with
  | still => exact h
  | added hnone hservice => exact h.add _ hnone hservice
  | exchanged hc => exact h.kept hclose (.exchanged hc) (by simp [setClient]) rfl
  | shut hc => exact h.kept hclose (.shut hc) (by simp [setClient]) rfl
  | invalidated => exact h.invalidate hclose _
  | closed => exact h.close hclose

end

end Registry

/-! ## Moves of a session -/

theorem registered_redeem {τ : Type} (t : Transport κ τ ω) (s : Session κ ω) (number : Nat)
    (ticket : τ) : (s.redeem t number ticket).2.registry.registered = s.registry.registered := by
  unfold Session.redeem
  split <;> rfl

section
variable {t : Transport HttpClient HttpTicket ω} (ht : t.OverHttp)
include ht

theorem Obtaining.moves {resolver : ServiceId → Option Balancer} {service : ServiceId}
    {options : ClientOptions} {r r' : Registry HttpClient} {outside outside' : ω}
    {result : Except DispatchError Registration}
    (h : Obtaining resolver t.create service options r outside (result, r', outside')) :
    r.Moves t.close none r' := by
  cases h with
  | made hnone _ hmake => exact .added hnone (ht.made hmake).1
  | _ => exact .still

/-- An exchange moves its client on, if there is one. -/
theorem redeem_moves (s : Session HttpClient ω) (number : Nat) (ticket : HttpTicket) :
    s.registry.Moves t.close (s.registry.clients[number]?.map fun _ => number)
      (s.redeem t number ticket).2.registry := by
  unfold Session.redeem
  cases hc : s.registry.clients[number]? with
  | none => exact .still
  | some c =>
    have hmoves : s.registry.Moves t.close (some number) (s.registry.setClient number c.moved) :=
      .exchanged hc
    rw [← ht.moved ticket c s.outside] at hmoves
    exact hmoves

end

end HttpCalls
