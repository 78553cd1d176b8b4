-- What a registry keeps whatever is done with it: a service has at most one registration,
-- and a client is held by one registration until it is closed, which happens to it once.
-- A close that fails changes nothing of that, and each is one use of the closer.
import HttpCalls.Endpoint.Registry

namespace HttpCalls

/-! ## Keys -/

namespace Keyed

variable {κ α : Type} [DecidableEq κ]

/-- The keys, in order. -/
def keys (l : Keyed κ α) : List κ := l.map (·.1)

theorem not_mem_keys_of_get? {key : κ} {l : Keyed κ α} (h : get? key l = none) :
    key ∉ keys l := by
  induction l with
  | nil => simp [keys]
  | cons e rest ih =>
    obtain ⟨k, v⟩ := e
    rw [get?] at h
    split at h
    · cases h
    · rename_i hk
      simp only [keys, List.map_cons, List.mem_cons, not_or]
      exact ⟨Ne.symm hk, ih h⟩

theorem mem_of_get? {key : κ} {value : α} {l : Keyed κ α}
    (h : get? key l = some value) : (key, value) ∈ l := by
  induction l with
  | nil => cases h
  | cons e rest ih =>
    obtain ⟨k, v⟩ := e
    rw [get?] at h
    split at h
    · rename_i hk
      cases h
      rw [hk]
      exact List.mem_cons_self
    · exact List.mem_cons_of_mem _ (ih h)

theorem put_of_get?_eq_none {key : κ} {value : α} {l : Keyed κ α} (h : get? key l = none) :
    put key value l = l ++ [(key, value)] := by
  induction l with
  | nil => rfl
  | cons e rest ih =>
    obtain ⟨k, v⟩ := e
    rw [get?] at h
    split at h
    · cases h
    · rename_i hk
      rw [put, if_neg hk, ih h, List.cons_append]

theorem erase_of_not_mem_keys {key : κ} {l : Keyed κ α} (h : key ∉ keys l) : erase key l = l := by
  rw [erase, List.filter_eq_self]
  intro e he
  simp only [ne_eq, decide_not, Bool.not_eq_true', decide_eq_false_iff_not]
  intro hk
  exact h (hk ▸ List.mem_map_of_mem he)

/-- Where no key stands twice, an entry is taken out alone. -/
theorem perm_cons_erase {key : κ} {value : α} {l : Keyed κ α} (hl : (keys l).Nodup)
    (h : get? key l = some value) : l.Perm ((key, value) :: erase key l) := by
  induction l with
  | nil => cases h
  | cons e rest ih =>
    obtain ⟨k, v⟩ := e
    have hrest : k ∉ keys rest ∧ (keys rest).Nodup := by
      simpa only [keys, List.map_cons, List.nodup_cons] using hl
    rw [get?] at h
    split at h
    · rename_i hk
      subst hk
      cases h
      have : erase k ((k, value) :: rest) = erase k rest := by simp [erase]
      rw [this, erase_of_not_mem_keys hrest.1]
    · rename_i hk
      have : erase key ((k, v) :: rest) = (k, v) :: erase key rest := by simp [erase, hk]
      rw [this]
      exact ((ih hrest.2 h).cons (k, v)).trans (List.Perm.swap (key, value) (k, v) _)

theorem nodup_keys_erase {l : Keyed κ α} (hl : (keys l).Nodup) (key : κ) :
    (keys (erase key l)).Nodup :=
  hl.sublist (List.filter_sublist.map _)

end Keyed

/-! ## What every registry keeps -/

namespace Registry

variable {κ ω : Type}

/-- The numbers of the clients that registrations hold. -/
def held (r : Registry κ) : List Nat := r.registered.map (·.2.client)

/-- No service is registered twice, and every client that was ever made is accounted for
once: a registration holds it, or it was closed. -/
structure Sound (r : Registry κ) : Prop where
  keys : (Keyed.keys r.registered).Nodup
  once : ∀ n, r.held.count n + r.closedTimes n = if n < r.clients.length then 1 else 0

theorem sound_empty : ({} : Registry κ).Sound :=
  { keys := List.nodup_nil
    once := fun n => by simp [held, closedTimes] }

/-- What a registration holds is a client that was made. -/
theorem Sound.lt_of_mem_held {r : Registry κ} (h : r.Sound) {n : Nat} (hn : n ∈ r.held) :
    n < r.clients.length := by
  have hpos := List.count_pos_iff.mpr hn
  have honce := h.once n
  split at honce
  · assumption
  · omega

section
variable {r : Registry κ} {service : ServiceId} {registration : Registration}

theorem held_add (options : ClientOptions) (client : κ)
    (hnone : Keyed.get? service r.registered = none) :
    (r.add service options client).2.held = r.held ++ [r.clients.length] := by
  simp only [held, Registry.add]
  rw [Keyed.put_of_get?_eq_none hnone, List.map_append]
  rfl

theorem Sound.add (h : r.Sound) (options : ClientOptions) (client : κ)
    (hnone : Keyed.get? service r.registered = none) :
    (r.add service options client).2.Sound := by
  constructor
  · simp only [Registry.add]
    rw [Keyed.put_of_get?_eq_none hnone, Keyed.keys, List.map_append, List.nodup_append]
    refine ⟨h.keys, by simp, ?_⟩
    intro k hk k' hk' hkk
    rw [List.map_singleton, List.mem_singleton] at hk'
    subst hk' hkk
    exact Keyed.not_mem_keys_of_get? hnone hk
  · intro n
    have honce := h.once n
    rw [held_add options client hnone, List.count_append, List.count_singleton]
    simp only [Registry.add, closedTimes, List.length_append, List.length_singleton, beq_iff_eq]
      at honce ⊢
    split <;> split at honce <;> split <;> omega

/-! ## Closing -/

@[simp]
theorem registered_closeClient (close : Closer κ) (r : Registry κ) (n : Nat) :
    (r.closeClient close n).2.registered = r.registered := by
  unfold closeClient
  split <;> rfl

@[simp]
theorem length_clients_closeClient (close : Closer κ) (r : Registry κ) (n : Nat) :
    (r.closeClient close n).2.clients.length = r.clients.length := by
  unfold closeClient
  split
  · rfl
  · simp [setClient]

theorem closings_closeClient (close : Closer κ) {n : Nat} (hn : n < r.clients.length) :
    (r.closeClient close n).2.closings = r.closings ++ [n] := by
  unfold closeClient
  rw [List.getElem?_eq_getElem hn]

theorem getElem?_setClient {r : Registry κ} {n : Nat} {c : κ} (hn : r.clients[n]? = some c) (c' : κ)
    (k : Nat) : (r.setClient n c').clients[k]? = if n = k then some c' else r.clients[k]? := by
  have hlt : n < r.clients.length := (List.getElem?_eq_some_iff.mp hn).1
  simp [setClient, List.getElem?_set, hlt]

theorem getElem?_closeClient (close : Closer κ) (r : Registry κ) (n k : Nat) :
    (r.closeClient close n).2.clients[k]? =
      if n = k then r.clients[k]?.map fun c => (close c).2 else r.clients[k]? := by
  unfold closeClient
  split
  · rename_i hnone
    split
    · rename_i heq
      rw [← heq, hnone]
      rfl
    · rfl
  · rename_i c hn
    dsimp only
    rw [getElem?_setClient hn]
    split
    · rename_i heq
      rw [← heq, hn]
      rfl
    · rfl

@[simp]
theorem registered_closeAll (close : Closer κ) (numbers : List Nat) (r : Registry κ) :
    (r.closeAll close numbers).2.registered = r.registered := by
  induction numbers generalizing r with
  | nil => rfl
  | cons n more ih =>
    rw [closeAll]
    exact (ih _).trans (registered_closeClient close r n)

@[simp]
theorem length_clients_closeAll (close : Closer κ) (numbers : List Nat) (r : Registry κ) :
    (r.closeAll close numbers).2.clients.length = r.clients.length := by
  induction numbers generalizing r with
  | nil => rfl
  | cons n more ih =>
    rw [closeAll]
    exact (ih _).trans (length_clients_closeClient close r n)

/-- Every client is closed in its turn, also after one that could not be. -/
theorem closings_closeAll (close : Closer κ) (numbers : List Nat) (r : Registry κ)
    (hall : ∀ n ∈ numbers, n < r.clients.length) :
    (r.closeAll close numbers).2.closings = r.closings ++ numbers := by
  induction numbers generalizing r with
  | nil => rw [closeAll, List.append_nil]
  | cons n more ih =>
    have hmore : ∀ m ∈ more, m < (r.closeClient close n).2.clients.length := by
      intro m hm
      rw [length_clients_closeClient]
      exact hall m (List.mem_cons_of_mem _ hm)
    rw [closeAll]
    refine (ih _ hmore).trans ?_
    rw [closings_closeClient close (hall n List.mem_cons_self), List.append_assoc]
    rfl

@[simp]
theorem registered_invalidate (close : Closer κ) (service : ServiceId) (r : Registry κ) :
    (r.invalidate close service).2.registered = Keyed.erase service r.registered := by
  unfold Registry.invalidate
  split
  · rename_i hnone
    exact (Keyed.erase_of_not_mem_keys (Keyed.not_mem_keys_of_get? hnone)).symm
  · exact registered_closeClient close _ _

@[simp]
theorem length_clients_invalidate (close : Closer κ) (service : ServiceId) (r : Registry κ) :
    (r.invalidate close service).2.clients.length = r.clients.length := by
  unfold Registry.invalidate
  split
  · rfl
  · exact length_clients_closeClient close _ _

@[simp]
theorem registered_close (closer : Closer κ) (r : Registry κ) :
    (r.close closer).2.registered = [] :=
  registered_closeAll closer _ _

@[simp]
theorem length_clients_close (closer : Closer κ) (r : Registry κ) :
    (r.close closer).2.clients.length = r.clients.length :=
  length_clients_closeAll closer _ _

/-- A registration holds one client besides those that the others hold. -/
theorem Sound.held_perm (h : r.Sound)
    (hget : Keyed.get? service r.registered = some registration) :
    r.held.Perm (registration.client :: (Keyed.erase service r.registered).map (·.2.client)) := by
  have hperm := (Keyed.perm_cons_erase h.keys hget).map fun e => e.2.client
  rwa [List.map_cons] at hperm

theorem closings_invalidate (h : r.Sound) (close : Closer κ)
    (hget : Keyed.get? service r.registered = some registration) :
    (r.invalidate close service).2.closings = r.closings ++ [registration.client] := by
  have hmem : registration.client ∈ r.held :=
    (h.held_perm hget).mem_iff.mpr List.mem_cons_self
  unfold Registry.invalidate
  rw [hget]
  exact closings_closeClient close (h.lt_of_mem_held hmem)

theorem closings_close (h : r.Sound) (closer : Closer κ) :
    (r.close closer).2.closings = r.closings ++ r.held :=
  closings_closeAll closer r.held { r with registered := [] } fun _ => h.lt_of_mem_held

theorem Sound.invalidate (h : r.Sound) (close : Closer κ) (service : ServiceId) :
    (r.invalidate close service).2.Sound := by
  cases hget : Keyed.get? service r.registered with
  | none =>
    have hsame : (r.invalidate close service).2 = r := by simp [Registry.invalidate, hget]
    rw [hsame]
    exact h
  | some registration =>
    constructor
    · rw [registered_invalidate]
      exact Keyed.nodup_keys_erase h.keys service
    · intro n
      have honce := h.once n
      rw [(h.held_perm hget).count_eq, List.count_cons] at honce
      rw [closedTimes, closings_invalidate h close hget, List.count_append, List.count_singleton,
        length_clients_invalidate, held, registered_invalidate]
      rw [closedTimes] at honce
      omega

theorem Sound.close (h : r.Sound) (closer : Closer κ) : (r.close closer).2.Sound := by
  constructor
  · rw [registered_close]
    exact List.nodup_nil
  · intro n
    have honce := h.once n
    rw [closedTimes] at honce
    rw [closedTimes, closings_close h closer, List.count_append, length_clients_close, held,
      registered_close, List.map_nil, List.count_nil]
    omega

end

/-! ## Counting closes -/

/-- Every use of a closer counts, whether it fails or not. -/
def UsesCounted (uses : κ → Nat) (closer : Closer κ) : Prop :=
  ∀ client, uses (closer client).2 = uses client + 1

/-- A closer was used on every client as often as the client was closed. -/
def Counted (uses : κ → Nat) (r : Registry κ) : Prop :=
  ∀ (n : Nat) client, r.clients[n]? = some client → uses client = r.closedTimes n

section
variable {uses : κ → Nat} {r : Registry κ} {closer : Closer κ}

theorem Counted.add (h : r.Counted uses) (hr : r.Sound) {client : κ} (hclient : uses client = 0)
    (service : ServiceId) (options : ClientOptions) :
    (r.add service options client).2.Counted uses := by
  intro n c hc
  simp only [Registry.add] at hc
  by_cases hn : n < r.clients.length
  · rw [List.getElem?_append_left hn] at hc
    exact h n c hc
  · -- the number of a new client has not been closed, since no client had it
    have honce := hr.once n
    rw [if_neg hn] at honce
    rw [List.getElem?_append_right (by omega), List.getElem?_singleton] at hc
    split at hc
    · cases hc
      exact hclient.trans (Nat.add_eq_zero_iff.mp honce).2.symm
    · cases hc

theorem Counted.closeClient (h : r.Counted uses) (hcloser : UsesCounted uses closer) (n : Nat) :
    (r.closeClient closer n).2.Counted uses := by
  cases hn : r.clients[n]? with
  | none =>
    have hsame : (r.closeClient closer n).2 = r := by simp [Registry.closeClient, hn]
    rwa [hsame]
  | some client =>
    intro k c hc
    have hlt := (List.getElem?_eq_some_iff.mp hn).1
    rw [closedTimes, closings_closeClient closer hlt, List.count_append, List.count_singleton]
    rw [getElem?_closeClient] at hc
    by_cases hk : n = k
    · subst hk
      rw [if_pos rfl, hn] at hc
      cases hc
      rw [hcloser, h n client hn, closedTimes, if_pos (beq_self_eq_true n)]
    · rw [if_neg hk] at hc
      rw [h k c hc, closedTimes, if_neg (by simpa using hk), Nat.add_zero]

theorem Counted.closeAll (h : r.Counted uses) (hcloser : UsesCounted uses closer)
    (numbers : List Nat) : (r.closeAll closer numbers).2.Counted uses := by
  induction numbers generalizing r with
  | nil => exact h
  | cons n more ih => exact ih (h.closeClient hcloser n)

theorem Counted.invalidate (h : r.Counted uses) (hcloser : UsesCounted uses closer)
    (service : ServiceId) : (r.invalidate closer service).2.Counted uses := by
  unfold Registry.invalidate
  split
  · exact h
  · exact Counted.closeClient (r := { r with registered := Keyed.erase service r.registered }) h
      hcloser _

theorem Counted.close (h : r.Counted uses) (hcloser : UsesCounted uses closer) :
    (r.close closer).2.Counted uses :=
  Counted.closeAll (r := { r with registered := [] }) h hcloser _

end

end Registry

end HttpCalls
