-- Runs of a dispatcher: calls are carried out, futures run and streams are collected at any
-- time after the call that handed them out, and registrations are taken back in between. What
-- the few operations on a session keep is kept by every run.
import HttpCalls.Proofs.Dispatch.SeenThrough

namespace HttpCalls

variable {κ τ ω : Type}

/-! ## Runs -/

/-- What is done with a dispatcher and with what its calls handed out. -/
inductive DispatchStep
  | call (call : Call)
  /-- Lets the task of a future run; `kept` tells whether its caller still waits. -/
  | run (future : Nat) (kept : Bool)
  | collect (stream : Nat) (limit : Option Nat)
  | invalidate (service : ServiceId)
  | close

/-- A session with the futures and the streams that were handed out; none is one that was used. -/
structure Dispatching (κ τ ω : Type) where
  session : Session κ ω
  futures : List (Option (Pending τ)) := []
  streams : List (Option (Flow τ)) := []

namespace Dispatching

/-- The futures and the streams with the one that a call hands out. -/
def handOut (s : Dispatching κ τ ω) : Except DispatchError (CallOutcome τ) → Dispatching κ τ ω
  | .ok (.future f) => { s with futures := s.futures ++ [some f] }
  | .ok (.stream f) => { s with streams := s.streams ++ [some f] }
  | _ => s

/-- Takes a step. What is not there, or was used, changes nothing. -/
def perform (d : Dispatcher τ) (t : Transport κ τ ω) (s : Dispatching κ τ ω) :
    DispatchStep → Dispatching κ τ ω
  | .call call =>
    let begun := d.invoke t call s.session
    handOut { s with session := begun.session } begun.result
  | .run future kept =>
    match s.futures[future]? with
    | some (some f) =>
      { s with session := (f.run t kept s.session).session, futures := s.futures.set future none }
    | _ => s
  | .collect stream limit =>
    match s.streams[stream]? with
    | some (some f) =>
      { s with session := (f.collect t limit s.session).session, streams := s.streams.set stream none }
    | _ => s
  | .invalidate service => { s with session := (s.session.invalidate t service).2 }
  | .close => { s with session := (s.session.close t).2 }

/-- Takes steps one after the other. -/
def after (d : Dispatcher τ) (t : Transport κ τ ω) (s : Dispatching κ τ ω)
    (steps : List DispatchStep) : Dispatching κ τ ω :=
  steps.foldl (perform d t) s

@[simp]
theorem session_handOut (s : Dispatching κ τ ω) (result : Except DispatchError (CallOutcome τ)) :
    (s.handOut result).session = s.session := by
  unfold handOut
  split <;> rfl

end Dispatching

/-! ## What runs keep -/

/-- The operations on a session keep a property, those that take registrations back only as far
as they are allowed. -/
structure KeptBy (resolver : Resolver) (t : Transport κ τ ω) (allowed : DispatchStep → Prop)
    (P : Session κ ω → Prop) : Prop where
  register : ∀ {s} call, P s → P (s.register resolver t call).2
  start : ∀ {s} kind request, P s → P (s.start t kind request).2
  redeem : ∀ {s} number ticket, P s → P (s.redeem t number ticket).2
  invalidate : ∀ {s} service, allowed (.invalidate service) → P s → P (s.invalidate t service).2
  close : ∀ {s}, allowed .close → P s → P (s.close t).2

namespace KeptBy

variable {d : Dispatcher τ} {t : Transport κ τ ω} {allowed : DispatchStep → Prop}
  {P : Session κ ω → Prop}

theorem awaiting {α : Type} (h : KeptBy d.resolver t allowed P) (number : Nat) (kind : ExchangeKind)
    (request : Request) (settle : List Item → Settled α) (outcome : α → CallOutcome τ)
    {s : Session κ ω} (hs : P s) :
    P (Dispatcher.awaiting t number kind request settle outcome s).session :=
  h.redeem _ _ (h.start _ _ hs)

theorem invoke (h : KeptBy d.resolver t allowed P) (call : Call) {s : Session κ ω} (hs : P s) :
    P (d.invoke t call s).session := by
  cases hm : call.mapping with
  | none =>
    unfold Dispatcher.invoke
    rw [hm]
    exact hs
  | some mapping =>
    have hregistered := h.register call hs
    rcases hr : s.register d.resolver t call with ⟨e | registration, s'⟩ <;> rw [hr] at hregistered
    · rw [invoke_unregistered hm hr]
      exact hregistered
    · rw [invoke_registered hm hr]
      unfold Dispatcher.perform
      cases call.returns with
      | value => exact h.awaiting _ _ _ _ _ hregistered
      | optional => exact h.awaiting _ _ _ _ _ hregistered
      | response => exact h.awaiting _ _ _ _ _ hregistered
      | noContent => exact h.awaiting _ _ _ _ _ hregistered
      | future => exact h.start _ _ hregistered
      | stream => exact h.start _ _ hregistered

theorem collect (h : KeptBy d.resolver t allowed P) (f : Flow τ) (limit : Option Nat)
    {s : Session κ ω} (hs : P s) : P (f.collect t limit s).session := by
  unfold Flow.collect
  split
  · exact hs
  · exact h.redeem _ _ hs

theorem perform (h : KeptBy d.resolver t allowed P) {s : Dispatching κ τ ω} (hs : P s.session)
    {step : DispatchStep} (hstep : allowed step) : P (s.perform d t step).session := by
  cases step with
  | call call =>
    simp only [Dispatching.perform, Dispatching.session_handOut]
    exact h.invoke call hs
  | run future kept =>
    unfold Dispatching.perform
    dsimp only
    split
    · exact h.redeem _ _ hs
    · exact hs
  | collect stream limit =>
    unfold Dispatching.perform
    dsimp only
    split
    · exact h.collect _ limit hs
    · exact hs
  | invalidate service => exact h.invalidate service hstep hs
  | close => exact h.close hstep hs

theorem after (h : KeptBy d.resolver t allowed P) {s : Dispatching κ τ ω} (hs : P s.session)
    (steps : List DispatchStep) (hsteps : ∀ step ∈ steps, allowed step) :
    P (s.after d t steps).session := by
  induction steps generalizing s with
  | nil => exact hs
  | cons step more ih =>
    exact ih (h.perform hs (hsteps step List.mem_cons_self))
      fun later hlater => hsteps later (List.mem_cons_of_mem _ hlater)

end KeptBy

/-! ## Taking notes -/

/-- An exchange that has run: its client as it was, its ticket, and what was outside before it and
after it. -/
structure Ran (κ τ ω : Type) where
  client : κ
  ticket : τ
  before : ω
  after : ω

/-- A transport that takes note of each exchange that runs. -/
def Transport.noting (t : Transport κ τ ω) : Transport κ τ (ω × List (Ran κ τ ω)) where
  create service balancer codec := fun (outside, notes) =>
    let (result, outside) := t.create service balancer codec outside
    (result, outside, notes)
  start kind request := fun (outside, notes) =>
    let (ticket, outside) := t.start kind request outside
    (ticket, outside, notes)
  redeem ticket client := fun (before, notes) =>
    let (arrivals, client', after) := t.redeem ticket client before
    (arrivals, client', after, notes ++ [{ client, ticket, before, after }])
  close := t.close

/-- All that has happened outside has happened in the exchanges, one after the other. -/
def Linked (first : ω) : List (Ran κ τ ω) → ω → Prop
  | [], last => last = first
  | ran :: more, last => ran.before = first ∧ Linked ran.after more last

theorem linked_append {first last : ω} {notes more : List (Ran κ τ ω)} {final : ω}
    (h : Linked first notes last) (hmore : Linked last more final) :
    Linked first (notes ++ more) final := by
  induction notes generalizing first with
  | nil =>
    cases h
    exact hmore
  | cons ran rest ih => exact ⟨h.1, ih h.2⟩

/-- A session without the notes. -/
def Session.plain (s : Session κ (ω × List (Ran κ τ ω))) : Session κ ω :=
  { registry := s.registry, outside := s.outside.1 }

/-- The same without the notes. -/
def Performed.plain {α : Type} (p : Performed κ (ω × List (Ran κ τ ω)) α) : Performed κ ω α :=
  { result := p.result, effects := p.effects, session := p.session.plain }

/-- The same without the notes. -/
def Dispatching.plain (s : Dispatching κ τ (ω × List (Ran κ τ ω))) : Dispatching κ τ ω :=
  { session := s.session.plain, futures := s.futures, streams := s.streams }

section
variable (d : Dispatcher τ) (t : Transport κ τ ω) (s : Session κ (ω × List (Ran κ τ ω)))

theorem register_plain (resolver : Resolver) (call : Call) :
    s.plain.register resolver t call =
      ((s.register resolver t.noting call).1, (s.register resolver t.noting call).2.plain) := by
  unfold Session.register Registry.obtain
  cases hget : Keyed.get? call.service s.registry.registered with
  | some registration => simp only [Session.plain, hget]
  | none =>
    cases hbalancer : resolver.resolve call.service with
    | none => simp only [Session.plain, hget]
    | some balancer =>
      rcases hmade : t.create call.service balancer (({} : Codec).withFeatures call.client.features)
        s.outside.1 with ⟨e | client, outside⟩
      · simp only [Session.plain, Transport.noting, hget, hmade]
      · simp only [Session.plain, Transport.noting, hget, hmade]

theorem redeem_plain (number : Nat) (ticket : τ) :
    s.plain.redeem t number ticket =
      ((s.redeem t.noting number ticket).1, (s.redeem t.noting number ticket).2.plain) := by
  unfold Session.redeem
  cases hclient : s.registry.clients[number]? with
  | none => simp only [Session.plain, hclient]
  | some client => simp only [Session.plain, Transport.noting, hclient]

theorem awaiting_plain {α : Type} (number : Nat) (kind : ExchangeKind) (request : Request)
    (settle : List Item → Settled α) (outcome : α → CallOutcome τ) :
    Dispatcher.awaiting t number kind request settle outcome s.plain =
      (Dispatcher.awaiting t.noting number kind request settle outcome s).plain := by
  have hstarted : s.plain.start t kind request =
      ((s.start t.noting kind request).1, (s.start t.noting kind request).2.plain) := rfl
  unfold Dispatcher.awaiting
  rw [hstarted]
  dsimp only
  rw [redeem_plain]
  rfl

theorem invoke_plain (call : Call) : d.invoke t call s.plain = (d.invoke t.noting call s).plain := by
  cases hm : call.mapping with
  | none => simp [Dispatcher.invoke, hm, Performed.plain]
  | some mapping =>
    have hplain := register_plain t s d.resolver call
    rcases hr : s.register d.resolver t.noting call with ⟨e | registration, s'⟩ <;> rw [hr] at hplain
    · rw [invoke_unregistered hm hr, invoke_unregistered hm hplain]
      rfl
    · rw [invoke_registered hm hr, invoke_registered hm hplain]
      unfold Dispatcher.perform
      cases call.returns with
      | value => exact awaiting_plain t s' _ _ _ _ _
      | optional => exact awaiting_plain t s' _ _ _ _ _
      | response => exact awaiting_plain t s' _ _ _ _ _
      | noContent => exact awaiting_plain t s' _ _ _ _ _
      | future => rfl
      | stream => rfl

theorem run_plain (f : Pending τ) (kept : Bool) :
    f.run t kept s.plain = (f.run t.noting kept s).plain := by
  unfold Pending.run Performed.plain
  rw [redeem_plain]

theorem collect_plain (f : Flow τ) (limit : Option Nat) :
    f.collect t limit s.plain = (f.collect t.noting limit s).plain := by
  unfold Flow.collect
  rw [redeem_plain]
  split <;> rfl

end

section
variable (d : Dispatcher τ) (t : Transport κ τ ω)

theorem perform_plain (s : Dispatching κ τ (ω × List (Ran κ τ ω))) (step : DispatchStep) :
    s.plain.perform d t step = (s.perform d t.noting step).plain := by
  cases step with
  | call call =>
    have hinvoked := invoke_plain d t s.session call
    unfold Dispatching.perform
    simp only [Dispatching.plain, hinvoked]
    unfold Dispatching.handOut Performed.plain
    dsimp only
    split <;> rfl
  | run future kept =>
    unfold Dispatching.perform
    simp only [Dispatching.plain, run_plain]
    split <;> rfl
  | collect stream limit =>
    unfold Dispatching.perform
    simp only [Dispatching.plain, collect_plain]
    split <;> rfl
  | invalidate service => rfl
  | close => rfl

/-- A transport that takes notes does nothing else in any other way. -/
theorem after_plain (s : Dispatching κ τ (ω × List (Ran κ τ ω))) (steps : List DispatchStep) :
    s.plain.after d t steps = (s.after d t.noting steps).plain := by
  induction steps generalizing s with
  | nil => rfl
  | cons step more ih =>
    refine Eq.trans ?_ (ih (s.perform d t.noting step))
    rw [← perform_plain]
    rfl

end

end HttpCalls
