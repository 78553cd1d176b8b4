-- Runs of a registry: services are asked for, invalidated, and all closed at once, in any
-- order, with makers that may fail and closes that may fail. From one removal of a
-- service to the next the first call that succeeds decides, and all others get the same.
import HttpCalls.Proofs.Endpoint.Registrations

namespace HttpCalls

variable {κ ω : Type}

/-! ## Steps -/

/-- What is done with a registry. What a service resolves to and what comes of a close may
be different every time. -/
inductive RegistryStep (κ : Type)
  | obtain (resolver : ServiceId → Option Balancer) (service : ServiceId) (options : ClientOptions)
  | invalidate (close : Closer κ) (service : ServiceId)
  | close (closer : Closer κ)

/-- What a step gives to whoever takes it. -/
inductive RegistryEvent
  | obtained (service : ServiceId) (options : ClientOptions)
      (result : Except DispatchError Registration)
  | invalidated (service : ServiceId) (result : Except TransportError Bool)
  | closed (result : Except TransportError Unit)

/-- What a maker was given for a client that it made. -/
structure Making where
  service : ServiceId
  codec : Codec
deriving DecidableEq, Repr

/-- The codec of a client that is made for a call with some options. -/
def ClientOptions.codec (options : ClientOptions) : Codec :=
  ({} : Codec).withFeatures options.features

/-- A maker that takes note of what it makes. -/
def Maker.noting (make : Maker κ ω) : Maker κ (ω × List Making) :=
  fun service balancer codec (outside, made) =>
    match make service balancer codec outside with
    | (.ok client, outside) => (.ok client, outside, made ++ [{ service, codec }])
    | (.error e, outside) => (.error e, outside, made)

/-- A registry, what lies outside, and what every client was made from, in the order of
their numbers. -/
structure RegistryState (κ ω : Type) where
  registry : Registry κ := {}
  outside : ω
  made : List Making := []

namespace RegistryState

/-- Takes a step. -/
def perform (make : Maker κ ω) (s : RegistryState κ ω) :
    RegistryStep κ → RegistryEvent × RegistryState κ ω
  | .obtain resolver service options =>
    let (result, registry, outside, made) :=
      s.registry.obtain resolver make.noting service options (s.outside, s.made)
    (.obtained service options result, { registry, outside, made })
  | .invalidate close service =>
    let (result, registry) := s.registry.invalidate close service
    (.invalidated service result, { s with registry })
  | .close closer =>
    let (result, registry) := s.registry.close closer
    (.closed result, { s with registry })

/-- Takes steps one after the other. -/
def run (make : Maker κ ω) (s : RegistryState κ ω) :
    List (RegistryStep κ) → List RegistryEvent × RegistryState κ ω
  | [] => ([], s)
  | step :: more =>
    let (event, s) := s.perform make step
    let (events, s) := run make s more
    (event :: events, s)

/-- The state after steps. -/
abbrev after (make : Maker κ ω) (s : RegistryState κ ω) (steps : List (RegistryStep κ)) :
    RegistryState κ ω :=
  (s.run make steps).2

/-- The registration of a service. -/
def registrationOf? (s : RegistryState κ ω) (service : ServiceId) : Option Registration :=
  Keyed.get? service s.registry.registered

end RegistryState

/-- What becomes of a step, and when. -/
inductive RegistryTurn (make : Maker κ ω) (s : RegistryState κ ω) :
    RegistryStep κ → RegistryEvent → RegistryState κ ω → Prop
  | held {resolver service options registration} :
      s.registrationOf? service = some registration →
      RegistryTurn make s (.obtain resolver service options)
        (.obtained service options (.ok registration)) s
  | unresolved {resolver service options} :
      s.registrationOf? service = none → resolver service = none →
      RegistryTurn make s (.obtain resolver service options)
        (.obtained service options (.error (.serviceResolution service))) s
  | refused {resolver service options balancer e outside} :
      s.registrationOf? service = none → resolver service = some balancer →
      make service balancer options.codec s.outside = (.error e, outside) →
      RegistryTurn make s (.obtain resolver service options)
        (.obtained service options (.error (.transport e))) { s with outside }
  | made {resolver service options balancer client outside} :
      s.registrationOf? service = none → resolver service = some balancer →
      make service balancer options.codec s.outside = (.ok client, outside) →
      RegistryTurn make s (.obtain resolver service options)
        (.obtained service options (.ok (s.registry.add service options client).1))
        { registry := (s.registry.add service options client).2
          outside
          made := s.made ++ [{ service, codec := options.codec }] }
  | invalidated {close service} :
      RegistryTurn make s (.invalidate close service)
        (.invalidated service (s.registry.invalidate close service).1)
        { s with registry := (s.registry.invalidate close service).2 }
  | closed {closer} :
      RegistryTurn make s (.close closer) (.closed (s.registry.close closer).1)
        { s with registry := (s.registry.close closer).2 }

/-- Every step is one of these turns. -/
theorem perform_turn (make : Maker κ ω) (s : RegistryState κ ω) (step : RegistryStep κ) :
    RegistryTurn make s step (s.perform make step).1 (s.perform make step).2 := by
  cases step with
  | invalidate close service => exact .invalidated
  | close closer => exact .closed
  | obtain resolver service options =>
    cases hget : Keyed.get? service s.registry.registered with
    | some registration =>
      simp only [RegistryState.perform, Registry.obtain, hget]
      exact .held hget
    | none =>
      cases hresolver : resolver service with
      | none =>
        simp only [RegistryState.perform, Registry.obtain, hget, hresolver]
        exact .unresolved hget hresolver
      | some balancer =>
        rcases hmake : make service balancer (({} : Codec).withFeatures options.features) s.outside
          with ⟨e | client, outside⟩
        · simp only [RegistryState.perform, Registry.obtain, Maker.noting, hget, hresolver, hmake]
          exact .refused hget hresolver hmake
        · simp only [RegistryState.perform, Registry.obtain, Maker.noting, hget, hresolver, hmake]
          exact .made hget hresolver hmake

/-! ## What holds after any steps -/

/-- The registry keeps its clients, and what each was made from is known. -/
structure RegistryState.Sound (s : RegistryState κ ω) : Prop where
  registry : s.registry.Sound
  numbered : s.made.length = s.registry.clients.length

theorem RegistryState.sound_start (outside : ω) :
    ({ outside } : RegistryState κ ω).Sound :=
  { registry := Registry.sound_empty
    numbered := rfl }

variable {make : Maker κ ω} {s s' : RegistryState κ ω} {step : RegistryStep κ}
  {event : RegistryEvent} {service : ServiceId} {registration : Registration}

/-- Every step keeps what a registry keeps. -/
theorem RegistryTurn.sound (h : RegistryTurn make s step event s') (hs : s.Sound) : s'.Sound := by
  cases h with
  | held hget => exact hs
  | unresolved hget hresolver => exact hs
  | refused hget hresolver hmake => exact ⟨hs.registry, hs.numbered⟩
  | made hget hresolver hmake =>
    refine ⟨hs.registry.add _ _ hget, ?_⟩
    simp only [Registry.add, List.length_append, List.length_singleton]
    rw [hs.numbered]
  | invalidated =>
    refine ⟨hs.registry.invalidate _ _, ?_⟩
    rw [Registry.length_clients_invalidate]
    exact hs.numbered
  | closed =>
    refine ⟨hs.registry.close _, ?_⟩
    rw [Registry.length_clients_close]
    exact hs.numbered

theorem RegistryState.Sound.after (hs : s.Sound) (steps : List (RegistryStep κ)) :
    (s.after make steps).Sound := by
  induction steps generalizing s with
  | nil => exact hs
  | cons step more ih => exact ih ((perform_turn make s step).sound hs)

/-- Every close in a step counts. -/
def RegistryStep.Counts (uses : κ → Nat) : RegistryStep κ → Prop
  | .obtain .. => True
  | .invalidate closer _ => Registry.UsesCounted uses closer
  | .close closer => Registry.UsesCounted uses closer

/-- No closer was used on a client that has just been made. -/
def Maker.Unused (uses : κ → Nat) (make : Maker κ ω) : Prop :=
  ∀ service balancer codec outside client outside',
    make service balancer codec outside = (.ok client, outside') → uses client = 0

theorem RegistryTurn.counted {uses : κ → Nat} (h : RegistryTurn make s step event s') (hs : s.Sound)
    (hmaker : make.Unused uses) (hstep : step.Counts uses) (hcounted : s.registry.Counted uses) :
    s'.registry.Counted uses := by
  cases h with
  | made _ _ hmake => exact hcounted.add hs.registry (hmaker _ _ _ _ _ _ hmake) _ _
  | invalidated => exact hcounted.invalidate hstep _
  | closed => exact hcounted.close hstep
  | _ => exact hcounted

end HttpCalls
