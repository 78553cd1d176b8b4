-- Calls under way, through any sequence of steps. The first offer is kept and the first result is
-- delivered, whatever comes between and after them. The task of a future completes its call once.
import HttpCalls.Proofs.Dispatch.FallbackPolicy

namespace HttpCalls

/-! ## Steps -/

/-- A step of a call that is under way. -/
inductive CompletionStep
  | offer (reply : Reply)
  | buffered
  | complete (result : CallResult)
  | isAbandoned
  | drop

namespace CompletionStep

def reply? : CompletionStep → Option Reply
  | .offer reply => some reply
  | _ => none

def result? : CompletionStep → Option CallResult
  | .complete result => some result
  | _ => none

end CompletionStep

/-- The replies that are offered on the way. -/
def offers (steps : List CompletionStep) : List Reply := steps.filterMap (·.reply?)

/-- The results that the call is completed with on the way. -/
def results (steps : List CompletionStep) : List CallResult := steps.filterMap (·.result?)

namespace Completion

/-- What a step leaves behind. The two questions change nothing. -/
def step (c : Completion) : CompletionStep → Completion
  | .offer reply => (c.offer reply).2
  | .complete result => (c.complete result).2
  | .drop => c.drop
  | .buffered | .isAbandoned => c

/-- What a sequence of steps leaves behind. -/
def after (c : Completion) (steps : List CompletionStep) : Completion := steps.foldl step c

variable (c : Completion) (s : CompletionStep) (steps more : List CompletionStep)

@[simp] theorem after_nil : c.after [] = c := rfl

@[simp] theorem after_cons : c.after (s :: more) = (c.step s).after more := rfl

/-! ## One step -/

theorem step_buffered : (c.step s).buffered = c.buffered.or s.reply? := by
  cases s with
  | offer reply =>
    simp only [step, offer]
    cases h : c.buffered <;> simp [h, CompletionStep.reply?]
  | complete result =>
    simp only [step, complete]
    split <;> simp [CompletionStep.reply?]
  | _ => simp [step, drop, CompletionStep.reply?]

theorem step_completed : (c.step s).completed = (c.completed || s.result?.isSome) := by
  cases s with
  | offer reply =>
    simp only [step, offer]
    split <;> simp [CompletionStep.result?]
  | complete result =>
    simp only [step, complete]
    split <;> simp_all [CompletionStep.result?]
  | _ => simp [step, drop, CompletionStep.result?]

theorem step_awaited : (c.step s).awaited = true ↔ c.awaited = true ∧ s ≠ .drop := by
  cases s with
  | offer reply =>
    simp only [step, offer]
    split <;> simp
  | complete result =>
    simp only [step, complete]
    split <;> simp
  | _ => simp [step, drop]

theorem step_delivered (hawaited : c.awaited = true) (h : c.completed = c.delivered.isSome) :
    (c.step s).delivered = c.delivered.or s.result? := by
  cases s with
  | offer reply =>
    simp only [step, offer]
    split <;> simp [CompletionStep.result?]
  | complete result =>
    simp only [step, complete, hawaited, if_true]
    cases hd : c.delivered <;> simp [h, hd, CompletionStep.result?]
  | _ => simp [step, drop, CompletionStep.result?]

/-! ## Any number of steps -/

/-- The call keeps the first offer and the first result of the steps so far. -/
structure Tracks : Prop where
  buffered : c.buffered = (offers steps).head?
  completed : c.completed = (results steps).head?.isSome
  awaited : c.awaited = true ↔ .drop ∉ steps
  delivered : .drop ∉ steps → c.delivered = (results steps).head?

theorem tracks_nil : Tracks {} [] := by
  constructor <;> simp [offers, results]

variable {c steps}

theorem Tracks.step (h : Tracks c steps) : Tracks (c.step s) (steps ++ [s]) := by
  have hoffers : (offers (steps ++ [s])).head? = (offers steps).head?.or s.reply? := by
    simp [offers, List.head?_filterMap]
  have hresults : (results (steps ++ [s])).head? = (results steps).head?.or s.result? := by
    simp [results, List.head?_filterMap]
  have hdrop : .drop ∉ steps ++ [s] ↔ .drop ∉ steps ∧ s ≠ .drop := by
    simp [eq_comm]
  constructor
  · rw [step_buffered, h.buffered, hoffers]
  · rw [step_completed, h.completed, hresults, Option.isSome_or]
  · rw [step_awaited, h.awaited, hdrop]
  · intro hheld
    have hheld := (hdrop.mp hheld).1
    have hdelivered := h.delivered hheld
    rw [step_delivered c s (h.awaited.mpr hheld) (by rw [h.completed, hdelivered]), hdelivered, hresults]

theorem Tracks.after (h : Tracks c steps) : Tracks (c.after more) (steps ++ more) := by
  induction more generalizing c steps with
  | nil => simpa using h
  | cons s more ih =>
    rw [after_cons, List.append_cons]
    exact ih (h.step s)

/-- What can be seen of a call that is under way after some steps. -/
structure Shows (c : Completion) (steps : List CompletionStep) : Prop where
  /-- Only the first offer is taken. -/
  taken : ∀ reply, (c.offer reply).1 = true ↔ offers steps = []
  buffered : c.buffered = (offers steps).head?
  /-- Only the first completion counts. -/
  counted : ∀ result, (c.complete result).1 = true ↔ results steps = []
  /-- A future that is held has the first result, and waits as long as there is none. -/
  delivered : .drop ∉ steps → c.delivered = (results steps).head?
  /-- Without a result it is interrupted in the end. -/
  outcome : .drop ∉ steps → c.outcome = (results steps).head?.getD (.error .interrupted)
  waiting : c.isAbandoned = false ↔ .drop ∉ steps ∧ results steps = []
  /-- A call that is given up stays so. -/
  given_up : c.isAbandoned = true → ∀ more, (c.after more).isAbandoned = true

theorem Tracks.isAbandoned (h : Tracks c steps) :
    c.isAbandoned = false ↔ .drop ∉ steps ∧ results steps = [] := by
  rw [← h.awaited, ← List.head?_eq_none_iff, ← Option.not_isSome_iff_eq_none, ← h.completed]
  unfold Completion.isAbandoned
  cases c.completed <;> simp

theorem Tracks.shows (h : Tracks c steps) : Shows c steps := by
  constructor
  · intro reply
    rw [← List.head?_eq_none_iff, ← h.buffered]
    unfold offer
    split <;> simp_all
  · exact h.buffered
  · intro result
    rw [← List.head?_eq_none_iff, ← Option.not_isSome_iff_eq_none, ← h.completed]
    unfold complete
    split <;> simp_all
  · exact h.delivered
  · intro hheld
    rw [Completion.outcome, h.delivered hheld]
  · exact h.isAbandoned
  · intro hgone more
    rw [← Bool.not_eq_false] at hgone ⊢
    intro hwaits
    have hlater := (h.after more).isAbandoned.mp hwaits
    rw [List.mem_append, not_or, results, List.filterMap_append, List.append_eq_nil_iff] at hlater
    exact hgone (h.isAbandoned.mpr ⟨hlater.1.1, hlater.2.1⟩)

end Completion

/-! ## The task of a future -/

section
variable (element : Element) (found : Option Resolved) (params : List Param) (c : Completion)
  (arrivals : List Arrival)

theorem bridge_pulled : (bridge element found params c arrivals).pulled ≤ 1 := by
  unfold bridge
  split
  · simp
  · simp
  · split
    · simp
    · split <;> simp

theorem bridge_abandoned (h : c.isAbandoned = true) :
    (bridge element found params c arrivals).invoked = [] := by
  unfold bridge
  split
  · rfl
  · rfl
  · rw [if_pos h]

/-- The task looks at the first arrival only. -/
theorem bridge_first :
    bridge element found params c arrivals =
      bridge element found params c arrivals.head?.toList := by
  cases arrivals with
  | nil => rfl
  | cons first more => cases first <;> rfl

/-- Unless it is killed, the task completes the call once. -/
theorem bridge_completes (h : c.isAbandoned = false) (hcrash : arrivals.head? ≠ some .crash) :
    ∃ steps result, .drop ∉ steps ∧ results steps = [result] ∧
      (bridge element found params c arrivals).completion = c.after steps := by
  cases arrivals with
  | nil => exact ⟨[.buffered, .complete (.ok c.buffered)], _, by simp, rfl, rfl⟩
  | cons first more =>
    cases first with
    | crash => exact absurd rfl hcrash
    | item i =>
      simp only [bridge, h, Bool.false_eq_true, if_false]
      cases i with
      | error e =>
        exact ⟨[.isAbandoned, .complete (bridgeError found params e).result], _, by simp, rfl, rfl⟩
      | ok reply =>
        by_cases helement : element = .noContent
        · simp only [helement, if_true]
          exact ⟨[.isAbandoned, .buffered, .complete (.ok c.buffered)], _, by simp, rfl, rfl⟩
        · simp only [helement, if_false]
          exact ⟨[.isAbandoned, .offer reply, .buffered, .complete (.ok (c.offer reply).2.buffered)], _,
            by simp, rfl, rfl⟩

omit c in
/-- A fallback that fails is no interruption. -/
theorem bridgeError_interrupted (e : DispatchError) :
    (bridgeError found params e).result = .error .interrupted ↔ e = .interrupted := by
  unfold bridgeError
  split
  · rename_i hmissing
    constructor
    · rintro ⟨⟩
    · rintro rfl
      cases hmissing
  · rcases recover_cases found params e with ⟨r, f, -, rfl, hrecover⟩ | ⟨-, hrecover⟩
    · rw [hrecover]
      cases hanswer : r.invoke params with
      | ok reply => simp [Except.map]
      | error e' =>
        obtain ⟨cause, -, rfl⟩ := mapError_eq_error.mp hanswer
        simp [Except.map]
    · simp [hrecover, Except.map]

omit c in
/-- A future that is kept is interrupted by a death, and otherwise only by the exchange itself. -/
theorem bridge_interrupted :
    (bridge element found params {} arrivals).completion.outcome = .error .interrupted ↔
      arrivals.head? = some .crash ∨ arrivals.head? = some (.item (.error .interrupted)) := by
  cases arrivals with
  | nil => simp [bridge, Completion.complete, Completion.outcome]
  | cons first more =>
    cases first with
    | crash => simp [bridge, Completion.outcome]
    | item i =>
      cases i with
      | ok reply =>
        by_cases helement : element = .noContent
        · simp [bridge, helement, Completion.isAbandoned, Completion.complete, Completion.outcome]
        · simp [bridge, helement, Completion.isAbandoned, Completion.offer, Completion.complete,
            Completion.outcome]
      | error e =>
        have herror := bridgeError_interrupted found params e
        simpa [bridge, Completion.isAbandoned, Completion.complete, Completion.outcome] using herror

end

/-- How the task of a future ends. -/
structure Pending.EndsOnce {κ τ ω : Type} (t : Transport κ τ ω) (f : Pending τ) (kept : Bool)
    (s : Session κ ω) : Prop where
  pulled : (f.run t kept s).effects.pulled ≤ 1
  /-- Whatever else the exchange would bring, the first arrival tells the result, and all that is
  done for it. -/
  first : ∀ (t' : Transport κ τ ω) s',
    (s'.redeem t' f.client f.ticket).1.head? = (s.redeem t f.client f.ticket).1.head? →
    (f.run t' kept s').result = (f.run t kept s).result ∧
      (f.run t' kept s').effects = (f.run t kept s).effects
  /-- Unless the task is killed, it completes the call once, and a future that is kept gets that
  result. -/
  once : kept = true → (s.redeem t f.client f.ticket).1.head? ≠ some .crash →
    let completion := (bridge f.element f.found f.params {} (s.redeem t f.client f.ticket).1).completion
    completion.delivered = some (f.run t kept s).result ∧
      ∃ steps, .drop ∉ steps ∧ results steps = [(f.run t kept s).result] ∧
        completion = ({} : Completion).after steps
  interrupted : kept = true →
    ((f.run t kept s).result = .error .interrupted ↔
      (s.redeem t f.client f.ticket).1.head? = some .crash ∨
        (s.redeem t f.client f.ticket).1.head? = some (.item (.error .interrupted)))
  /-- Nobody is left to make up for a failure to. -/
  dropped : kept = false → (f.run t kept s).effects.invoked = []

/-- A call under way keeps its first offer and delivers its first result, through any steps. So the
task of a future pulls one item at most and gives one result, which is an interruption only if the
task is killed or the exchange brings one. -/
theorem a_future_ends_with_the_first_result {κ τ ω : Type} (steps : List CompletionStep)
    (t : Transport κ τ ω) (f : Pending τ) (kept : Bool) (s : Session κ ω) :
    Completion.Shows (({} : Completion).after steps) steps ∧ f.EndsOnce t kept s := by
  have hshows : ∀ steps, Completion.Shows (({} : Completion).after steps) steps := by
    intro steps
    exact Completion.Tracks.shows (Completion.tracks_nil.after steps)
  refine ⟨hshows steps, ?_⟩
  constructor
  · exact bridge_pulled ..
  · intro t' s' hfirst
    unfold Pending.run
    dsimp only
    rw [bridge_first, hfirst, ← bridge_first]
    exact ⟨rfl, rfl⟩
  · rintro rfl hcrash
    obtain ⟨steps, result, hheld, hresults, hbridge⟩ :=
      bridge_completes f.element f.found f.params {} (s.redeem t f.client f.ticket).1 rfl hcrash
    have hdelivered := (hshows steps).delivered hheld
    rw [← hbridge, hresults] at hdelivered
    have hresult : (f.run t true s).result = result := by
      have houtcome := (hshows steps).outcome hheld
      rw [← hbridge, hresults] at houtcome
      exact houtcome
    rw [hresult]
    exact ⟨hdelivered, steps, hheld, hresults, hbridge⟩
  · rintro rfl
    exact bridge_interrupted ..
  · rintro rfl
    exact bridge_abandoned _ _ _ _ _ rfl

/-- Two offers and two results, and a service that is too busy for a future, kept or dropped. -/
theorem a_future_of_a_busy_service :
    let first : Reply := .body (.bool true)
    let second : Reply := .body .null
    let steps : List CompletionStep :=
      [.offer first, .isAbandoned, .offer second, .complete (.ok (some first)), .complete (.ok none)]
    let cached : Fallback := { label := "cached", answer := fun _ => .ok second }
    let busy : TransportError := .status ⟨503, by decide⟩ [] none
    let t := Transport.bringing [.error (.transport busy), .ok first]
    let f : Pending Unit := ⟨0, (), .body, some ⟨"UserApi", ⟨"UserApi", "get", []⟩, cached⟩, []⟩
    let s : Session Unit Unit := { registry := { clients := [()] }, outside := () }
    let c := ({} : Completion).after steps
    c.buffered = some first ∧ c.delivered = some (.ok (some first)) ∧ c.isAbandoned = true ∧
      (c.offer second).1 = false ∧ (c.complete (.ok none)).1 = false ∧
      (f.run t true s).result = .ok (some second) ∧ (f.run t true s).result ≠ .error .interrupted ∧
      (f.run t true s).effects.pulled ≤ 1 ∧ (f.run t true s).effects.invoked = [⟨"cached", []⟩] ∧
      (f.run t false s).effects.invoked = [] ∧
      (f.run (.bringing [.error (.transport busy)]) true s).effects = (f.run t true s).effects := by
  intro first second steps cached busy t f s c
  obtain ⟨hshows, hkept⟩ := a_future_ends_with_the_first_result steps t f true s
  obtain ⟨-, hdropped⟩ := a_future_ends_with_the_first_result steps t f false s
  have hheld : .drop ∉ steps := by simp [steps]
  refine ⟨hshows.buffered, hshows.delivered hheld, rfl, ?_, ?_, rfl, ?_, hkept.pulled, rfl,
    hdropped.dropped rfl, (hkept.first _ s rfl).2⟩
  · rw [Bool.eq_false_iff]
    exact fun htaken =>
      absurd ((hshows.taken second).mp htaken) (by simp [steps, offers, CompletionStep.reply?])
  · rw [Bool.eq_false_iff]
    exact fun hcounted =>
      absurd ((hshows.counted (.ok none)).mp hcounted) (by simp [steps, results, CompletionStep.result?])
  · intro hinterrupted
    rcases (hkept.interrupted rfl).mp hinterrupted with hcrash | hitem
    · cases hcrash
    · cases hitem

end HttpCalls
