-- Registrations that are taken away, one of them or all at once. A client that cannot be closed
-- loses its registration all the same, and it keeps no other client from being closed. Of all
-- clients that cannot be closed, the first one tells why.
import HttpCalls.Proofs.Endpoint.RegistryRuns

namespace HttpCalls

variable {κ ω : Type}

namespace Registry

/-! ## What closing comes to -/

/-- What closing the client of a number comes to, if there is one. -/
def closing? (close : Closer κ) (r : Registry κ) (n : Nat) : Option (Except TransportError Unit) :=
  r.clients[n]?.map fun c => (close c).1

/-- In this order, all goes well up to one that fails with `e`. -/
def FirstFailure (outcome : Nat → Option (Except TransportError Unit)) (order : List Nat)
    (e : TransportError) : Prop :=
  ∃ before n after, order = before ++ n :: after ∧ (∀ m ∈ before, outcome m = some (.ok ())) ∧
    outcome n = some (.error e)

section
variable {outcome outcome' : Nat → Option (Except TransportError Unit)} {n : Nat} {order : List Nat}
  {e : TransportError}

theorem not_firstFailure_nil : ¬FirstFailure outcome [] e := by
  simp [FirstFailure]

theorem firstFailure_cons :
    FirstFailure outcome (n :: order) e ↔
      outcome n = some (.error e) ∨ outcome n = some (.ok ()) ∧ FirstFailure outcome order e := by
  constructor
  · rintro ⟨before, k, after, heq, hbefore, hk⟩
    cases before with
    | nil =>
      cases heq
      exact .inl hk
    | cons m before =>
      cases heq
      have hmore := fun m hm => hbefore m (List.mem_cons_of_mem _ hm)
      exact .inr ⟨hbefore n List.mem_cons_self, before, k, after, rfl, hmore, hk⟩
  · rintro (hn | ⟨hn, before, k, after, rfl, hbefore, hk⟩)
    · exact ⟨[], n, order, rfl, by simp, hn⟩
    · exact ⟨n :: before, k, after, rfl, List.forall_mem_cons.mpr ⟨hn, hbefore⟩, hk⟩

theorem firstFailure_congr (h : ∀ n ∈ order, outcome n = outcome' n) :
    FirstFailure outcome order e ↔ FirstFailure outcome' order e := by
  induction order with
  | nil => exact iff_of_false not_firstFailure_nil not_firstFailure_nil
  | cons n more ih =>
    rw [firstFailure_cons, firstFailure_cons, h n List.mem_cons_self,
      ih fun m hm => h m (List.mem_cons_of_mem _ hm)]

end

section
variable (close : Closer κ) {r : Registry κ} {n : Nat} {numbers : List Nat}

theorem closing?_of_lt (hn : n < r.clients.length) : ∃ result, r.closing? close n = some result := by
  unfold closing?
  rw [List.getElem?_eq_getElem hn]
  exact ⟨_, rfl⟩

theorem closeClient_result {result : Except TransportError Unit}
    (h : r.closing? close n = some result) : (r.closeClient close n).1 = result := by
  obtain ⟨c, hc, rfl⟩ := Option.map_eq_some_iff.mp h
  unfold closeClient
  rw [hc]

/-- A client that was closed changes nothing about closing another one. -/
theorem closing?_closeClient {m : Nat} (h : n ≠ m) :
    (r.closeClient close n).2.closing? close m = r.closing? close m := by
  unfold closing?
  rw [getElem?_closeClient, if_neg h]

/-- The first failure decides, whatever becomes of the clients behind it. -/
theorem closeAll_result (hnodup : numbers.Nodup) (hall : ∀ n ∈ numbers, n < r.clients.length) :
    ((r.closeAll close numbers).1 = .ok () ↔ ∀ n ∈ numbers, r.closing? close n = some (.ok ())) ∧
      ∀ e, (r.closeAll close numbers).1 = .error e ↔ FirstFailure (r.closing? close) numbers e := by
  induction numbers generalizing r with
  | nil => simp [closeAll, not_firstFailure_nil]
  | cons n more ih =>
    rw [List.nodup_cons] at hnodup
    have hkept : ∀ m ∈ more, (r.closeClient close n).2.closing? close m = r.closing? close m := by
      rintro m hm
      apply closing?_closeClient
      rintro rfl
      exact hnodup.1 hm
    obtain ⟨hok, herror⟩ := ih (r := (r.closeClient close n).2) hnodup.2 fun m hm => by
      rw [length_clients_closeClient]
      exact hall m (List.mem_cons_of_mem _ hm)
    have hok' : ((r.closeClient close n).2.closeAll close more).1 = .ok () ↔
        ∀ m ∈ more, r.closing? close m = some (.ok ()) :=
      hok.trans (forall₂_congr fun m hm => by rw [hkept m hm])
    obtain ⟨result, hresult⟩ := closing?_of_lt close (hall n List.mem_cons_self)
    have hstep : (r.closeAll close (n :: more)).1 =
        firstError result ((r.closeClient close n).2.closeAll close more).1 := by
      rw [← closeClient_result close hresult]
      rfl
    rw [hstep, List.forall_mem_cons, hresult]
    cases result with
    | error e' =>
      refine ⟨by simp [firstError], fun e => ?_⟩
      rw [firstFailure_cons, hresult]
      simp [firstError]
    | ok =>
      refine ⟨by simpa [firstError] using hok', fun e => ?_⟩
      rw [firstFailure_cons, hresult, ← firstFailure_congr hkept, ← herror e]
      simp [firstError]

/-- Each client of the list is closed, and no other one. -/
theorem getElem?_closeAll_of_nodup (hnodup : numbers.Nodup) (k : Nat) :
    (r.closeAll close numbers).2.clients[k]? =
      if k ∈ numbers then r.clients[k]?.map fun c => (close c).2 else r.clients[k]? := by
  induction numbers generalizing r with
  | nil => simp [closeAll]
  | cons n more ih =>
    rw [List.nodup_cons] at hnodup
    rw [closeAll]
    refine (ih hnodup.2).trans ?_
    rw [getElem?_closeClient]
    by_cases hk : n = k
    · subst hk
      simp [hnodup.1]
    · simp [hk, Ne.symm hk]

end

/-! ## Registrations and their clients -/

section
variable {r : Registry κ} (h : r.Sound)
include h

theorem Sound.nodup_held : r.held.Nodup := by
  rw [List.nodup_iff_count]
  intro n
  have honce := h.once n
  split at honce <;> omega

/-- What is held was never closed. -/
theorem Sound.closedTimes_of_mem {n : Nat} (hn : n ∈ r.held) : r.closedTimes n = 0 := by
  have hpos := List.count_pos_iff.mpr hn
  have honce := h.once n
  split at honce <;> omega

theorem Sound.mem_held {service : ServiceId} {registration : Registration}
    (hget : Keyed.get? service r.registered = some registration) : registration.client ∈ r.held :=
  (h.held_perm hget).mem_iff.mpr List.mem_cons_self

/-- No two services share a client. -/
theorem Sound.client_ne {service other : ServiceId} {registration registration' : Registration}
    (hget : Keyed.get? service r.registered = some registration)
    (hget' : Keyed.get? other r.registered = some registration') (hne : service ≠ other) :
    registration.client ≠ registration'.client := by
  intro heq
  have hnodup := (h.held_perm hget).nodup_iff.mp h.nodup_held
  rw [List.nodup_cons] at hnodup
  apply hnodup.1
  have hkept : Keyed.get? other (Keyed.erase service r.registered) = some registration' := by
    rw [Keyed.get?_erase, if_neg hne, hget']
  rw [heq]
  exact List.mem_map_of_mem (f := fun e => e.2.client) (Keyed.mem_of_get? hkept)

end

/-! ## All at once -/

/-- The clients of an order are closed one after the other, each of them once. -/
structure ClosesAll (closer : Closer κ) (r : Registry κ) (order : List Nat)
    (closed : Except TransportError Unit × Registry κ) : Prop where
  emptied : closed.2.registered = []
  closings : closed.2.closings = r.closings ++ order
  once : ∀ n ∈ order, r.closedTimes n = 0 ∧ closed.2.closedTimes n = 1 ∧
    closed.2.clients[n]? = r.clients[n]?.map fun c => (closer c).2
  spared : ∀ n ∉ order, closed.2.closedTimes n = r.closedTimes n ∧
    closed.2.clients[n]? = r.clients[n]?
  ok_iff : closed.1 = .ok () ↔ ∀ n ∈ order, r.closing? closer n = some (.ok ())
  error_iff : ∀ e, closed.1 = .error e ↔ FirstFailure (r.closing? closer) order e

theorem Sound.closesAll {r : Registry κ} (h : r.Sound) (closer : Closer κ) {order : List Nat}
    (horder : order.Perm r.held) :
    ClosesAll closer r order (closeAll closer { r with registered := [] } order) := by
  have hnodup : order.Nodup := horder.nodup_iff.mpr h.nodup_held
  have hall : ∀ n ∈ order, n < r.clients.length :=
    fun n hn => h.lt_of_mem_held (horder.mem_iff.mp hn)
  have hclosings := closings_closeAll closer order { r with registered := [] } hall
  have hclients := getElem?_closeAll_of_nodup closer (r := { r with registered := [] }) hnodup
  have hresult := closeAll_result closer (r := { r with registered := [] }) hnodup hall
  have htimes : ∀ n, (closeAll closer { r with registered := [] } order).2.closedTimes n =
      r.closedTimes n + order.count n := by
    intro n
    unfold closedTimes
    rw [hclosings, List.count_append]
  constructor
  · exact registered_closeAll closer order _
  · exact hclosings
  · intro n hn
    have hzero := h.closedTimes_of_mem (horder.mem_iff.mp hn)
    have hmost := List.nodup_iff_count.mp hnodup n
    have hleast := List.count_pos_iff.mpr hn
    refine ⟨hzero, ?_, ?_⟩
    · rw [htimes]
      omega
    · rw [hclients, if_pos hn]
  · intro n hn
    refine ⟨?_, ?_⟩
    · rw [htimes, List.count_eq_zero.mpr hn, Nat.add_zero]
    · rw [hclients, if_neg hn]
  · exact hresult.1
  · exact hresult.2

/-! ## One at a time -/

/-- The registration of one service is taken away, and all others stay as they are. -/
structure TakesAway (close : Closer κ) (r : Registry κ) (service : ServiceId)
    (taken : Except TransportError Bool × Registry κ) : Prop where
  removed : Keyed.get? service taken.2.registered = none
  once : ∀ registration, Keyed.get? service r.registered = some registration →
    r.closedTimes registration.client = 0 ∧ taken.2.closedTimes registration.client = 1 ∧
      taken.2.clients[registration.client]? =
        r.clients[registration.client]?.map fun c => (close c).2
  others : ∀ other, other ≠ service →
    Keyed.get? other taken.2.registered = Keyed.get? other r.registered ∧
      ∀ registration, Keyed.get? other r.registered = some registration →
        taken.2.closedTimes registration.client = r.closedTimes registration.client ∧
          taken.2.clients[registration.client]? = r.clients[registration.client]?
  false_iff : taken.1 = .ok false ↔ Keyed.get? service r.registered = none
  true_iff : taken.1 = .ok true ↔ ∃ registration,
    Keyed.get? service r.registered = some registration ∧
      r.closing? close registration.client = some (.ok ())
  error_iff : ∀ e, taken.1 = .error e ↔ ∃ registration,
    Keyed.get? service r.registered = some registration ∧
      r.closing? close registration.client = some (.error e)

theorem invalidate_result {r : Registry κ} {service : ServiceId} {registration : Registration}
    (close : Closer κ) (hget : Keyed.get? service r.registered = some registration)
    {result : Except TransportError Unit}
    (hclosing : r.closing? close registration.client = some result) :
    (r.invalidate close service).1 = result.map fun () => true := by
  have hclosed := closeClient_result close
    (r := { r with registered := Keyed.erase service r.registered }) hclosing
  unfold Registry.invalidate
  rw [hget]
  simp only [hclosed]

theorem takesAway_of_unregistered {r : Registry κ} {service : ServiceId} (close : Closer κ)
    (hnone : Keyed.get? service r.registered = none) :
    TakesAway close r service (r.invalidate close service) := by
  unfold Registry.invalidate
  rw [hnone]
  constructor <;> simp [hnone]

theorem Sound.takesAway {r : Registry κ} (h : r.Sound) (close : Closer κ) (service : ServiceId) :
    TakesAway close r service (r.invalidate close service) := by
  rcases hget : Keyed.get? service r.registered with _ | registration
  · exact takesAway_of_unregistered close hget
  have hlt := h.lt_of_mem_held (h.mem_held hget)
  have hzero := h.closedTimes_of_mem (h.mem_held hget)
  have htimes : ∀ n, (r.invalidate close service).2.closedTimes n =
      r.closedTimes n + [registration.client].count n := by
    intro n
    unfold closedTimes
    rw [closings_invalidate h close hget, List.count_append]
  have hclients : ∀ n, (r.invalidate close service).2.clients[n]? =
      if registration.client = n then r.clients[n]?.map fun c => (close c).2 else r.clients[n]? := by
    intro n
    unfold Registry.invalidate
    rw [hget]
    exact getElem?_closeClient close _ _ n
  obtain ⟨result, hclosing⟩ := closing?_of_lt close hlt
  constructor
  · rw [registered_invalidate, Keyed.get?_erase, if_pos rfl]
  · intro registration' hget'
    cases hget.symm.trans hget'
    refine ⟨hzero, ?_, ?_⟩
    · rw [htimes, hzero]
      simp
    · rw [hclients, if_pos rfl]
  · intro other hother
    refine ⟨?_, fun registration' hget' => ?_⟩
    · rw [registered_invalidate, Keyed.get?_erase, if_neg hother.symm]
    · have hne := h.client_ne hget hget' hother.symm
      refine ⟨?_, ?_⟩
      · rw [htimes]
        simp [hne]
      · rw [hclients, if_neg hne]
  · rw [invalidate_result close hget hclosing]
    cases result <;> simp [Except.map, hget]
  · rw [invalidate_result close hget hclosing]
    cases result <;> simp [Except.map, hget, hclosing]
  · intro e
    rw [invalidate_result close hget hclosing]
    cases result <;> simp [Except.map, hget, hclosing]

end Registry

/-! ## Any registry -/

/-- After any steps with an empty registry: to close it closes all clients that are held, each of
them once, and comes to the first failure among them, whatever order they are closed in. To
invalidate a service closes its client alone and comes to what that close comes to. -/
theorem a_failing_close_is_told_and_stops_no_other (make : Maker κ ω) (outside : ω)
    (before : List (RegistryStep κ)) :
    let r := (({ outside } : RegistryState κ ω).after make before).registry
    (∀ closer, r.ClosesAll closer r.held (r.close closer)) ∧
    (∀ closer order, order.Perm r.held →
      r.ClosesAll closer order (Registry.closeAll closer { r with registered := [] } order)) ∧
    ∀ close service, r.TakesAway close service (r.invalidate close service) := by
  intro r
  have h : r.Sound := ((RegistryState.sound_start outside).after before).registry
  refine ⟨fun closer => ?_, fun closer order => ?_, fun close service => ?_⟩
  · exact h.closesAll closer (List.Perm.refl _)
  · exact h.closesAll closer
  · exact h.takesAway close service

/-- Three clients, of which the second and the third cannot be closed: the one that is closed
before the other tells why, and a service whose client cannot be closed is gone as well. -/
theorem orders_and_bills_cannot_be_closed :
    let make : Maker (Except TransportError Unit) Unit := fun service _ _ _ =>
      (.ok (if service = ⟨["users"]⟩ then .ok () else .error (.closed service.text)), ())
    let ask (name : String) : RegistryStep (Except TransportError Unit) :=
      .obtain (fun _ => some (.rotating { service := name } [])) ⟨[name]⟩ {}
    let closer : Closer (Except TransportError Unit) := fun client => (client, client)
    let r := (({ outside := () } : RegistryState (Except TransportError Unit) Unit).after make
      [ask "users", ask "orders", ask "bills"]).registry
    (r.close closer).1 = .error (.closed "orders") ∧ (r.close closer).2.closings = [0, 1, 2] ∧
      (Registry.closeAll closer { r with registered := [] } [2, 0, 1]).1 = .error (.closed "bills") ∧
      (r.invalidate closer ⟨["orders"]⟩).1 = .error (.closed "orders") ∧
      Keyed.get? ⟨["orders"]⟩ (r.invalidate closer ⟨["orders"]⟩).2.registered = none := by
  intro make ask closer r
  obtain ⟨hclose, horder, hinvalidate⟩ := a_failing_close_is_told_and_stops_no_other make ()
    [ask "users", ask "orders", ask "bills"]
  have hperm : [2, 0, 1].Perm r.held := by decide
  have husers : ∀ m ∈ [0], r.closing? closer m = some (.ok ()) := by
    intro m hm
    cases List.mem_singleton.mp hm
    rfl
  refine ⟨?_, (hclose closer).closings, ?_, ?_, (hinvalidate closer _).removed⟩
  · exact ((hclose closer).error_iff _).mpr ⟨[0], 1, [2], rfl, husers, rfl⟩
  · exact ((horder closer [2, 0, 1] hperm).error_iff _).mpr ⟨[], 2, [0, 1], rfl, by simp, rfl⟩
  · exact ((hinvalidate closer _).error_iff _).mpr ⟨⟨1, ""⟩, rfl, rfl⟩

end HttpCalls
