-- Fallbacks: substitute answers for operations that failed. One is looked for on
-- the type that declares the operation, then on the interfaces that can be reached
-- from it, in the order in which they are found.
import HttpCalls.Call.Shown
import HttpCalls.Keyed

namespace HttpCalls

/-- A substitute answer: its label in a log, and what it answers to parameters. It answers the same
to the same parameters every time. A fallback with a state of its own, which answers differently
when it is used for several items of one stream, is none of these. -/
structure Fallback where
  label : String
  answer : List Param → Except String Reply

/-- One use of a fallback. -/
structure Invocation where
  label : String
  params : List Param
deriving DecidableEq

/-- The fallbacks that are registered and the interfaces that are declared. -/
structure Fallbacks where
  registered : Keyed OperationKey Fallback := []
  declared : Keyed String (List String) := []

namespace Fallbacks

/-! ## Registering -/

/-- Registers a fallback for an operation, in the place of an older one. -/
def register (f : Fallbacks) (key : OperationKey) (fallback : Fallback) : Fallbacks :=
  { f with registered := Keyed.put key fallback f.registered }

/-- The interfaces that are declared on a type itself. -/
def direct (f : Fallbacks) (type : String) : List String := (Keyed.get? type f.declared).getD []

/-- Declares further interfaces on a type. -/
def declare (f : Fallbacks) (type : String) (interfaces : List String) : Fallbacks :=
  { f with declared := Keyed.put type (f.direct type ++ interfaces) f.declared }

/-! ## Looking up -/

/-- All names that some declaration lists. -/
def declaredNames (f : Fallbacks) : List String := f.declared.flatMap (·.2)

/-- How many listed names are not among those seen. -/
def unseen (f : Fallbacks) (seen : List String) : Nat :=
  f.declaredNames.countP fun name => !seen.contains name

theorem mem_declaredNames_of_mem_direct {f : Fallbacks} {type name : String}
    (h : name ∈ f.direct type) : name ∈ f.declaredNames := by
  unfold direct at h
  unfold declaredNames
  generalize f.declared = entries at h ⊢
  induction entries with
  | nil => simp [Keyed.get?] at h
  | cons e rest ih =>
    obtain ⟨k, v⟩ := e
    by_cases hk : k = type
    · simp only [Keyed.get?, hk, if_true, Option.getD_some] at h
      simp [h]
    · simp only [Keyed.get?, hk, if_false] at h
      simp [ih h]

theorem countP_lt_countP {α : Type} {p q : α → Bool} {l : List α} {a : α}
    (h : ∀ x ∈ l, q x = true → p x = true) (ha : a ∈ l) (hp : p a = true) (hq : q a = false) :
    l.countP q < l.countP p := by
  induction l with
  | nil => simp at ha
  | cons x rest ih =>
    have hrest : ∀ y ∈ rest, q y = true → p y = true := fun y hy => h y (by simp [hy])
    rw [List.countP_cons, List.countP_cons]
    rcases List.mem_cons.1 ha with rfl | hmem
    · have := List.countP_mono_left hrest
      simp [hp, hq]
      omega
    · have := ih hrest hmem
      by_cases hx : q x = true
      · simp [hx, h x (by simp) hx, this]
      · simp only [hx, if_false, Bool.false_eq_true, Nat.add_zero]
        omega

theorem unseen_append_lt (f : Fallbacks) (seen fresh : List String) (name : String)
    (hd : name ∈ f.declaredNames) (hs : name ∉ seen) (hf : name ∈ fresh) :
    f.unseen (seen ++ fresh) < f.unseen seen := by
  refine countP_lt_countP (fun x _ hx => ?_) hd (by simpa using hs) (by simp [hf])
  simp only [Bool.not_eq_true', List.contains_eq_mem, List.mem_append, decide_eq_false_iff_not,
    not_or] at hx ⊢
  exact hx.1

/-- Follows declarations. `seen` holds what was found; the types that wait still have to
be looked at. What a type adds is looked at before the types that stand behind it. -/
def follow (f : Fallbacks) (seen : List String) (waiting : List String) : List String :=
  match waiting with
  | [] => seen
  | type :: rest =>
    let fresh := (f.direct type).filter fun name => !seen.contains name
    if _h : fresh = [] then f.follow seen rest
    else f.follow (seen ++ fresh) (fresh ++ rest)
termination_by (f.unseen seen, waiting.length)
decreasing_by
  · exact Prod.Lex.right _ (by simp)
  · apply Prod.Lex.left
    obtain ⟨name, more, hm⟩ := List.exists_cons_of_ne_nil _h
    have hmem : name ∈ (f.direct type).filter fun name => !seen.contains name := by
      show name ∈ fresh
      simp [hm]
    have hmem := List.mem_filter.1 hmem
    exact unseen_append_lt f seen fresh name (mem_declaredNames_of_mem_direct hmem.1)
      (by simpa using hmem.2) (by simp [hm])

/-- The interfaces that can be reached from a type: those of a declaration in one go, without
the ones found before, then those that each of them adds. -/
def interfacesOf (f : Fallbacks) (type : String) : List String := (f.follow [type] [type]).drop 1

end Fallbacks

/-! ## Using a fallback -/

/-- A fallback that was found for an operation. -/
structure Resolved where
  /-- The type that declares the operation. -/
  declaringType : String
  /-- The key under which the fallback is registered. -/
  registeredOn : OperationKey
  fallback : Fallback

/-- The fallback for an operation: on its own type, else on the first interface that has one. -/
def Fallbacks.find (f : Fallbacks) (key : OperationKey) : Option Resolved :=
  (key.declaringType :: f.interfacesOf key.declaringType).findSome? fun type =>
    (Keyed.get? (key.onType type) f.registered).map fun fallback =>
      { declaringType := key.declaringType, registeredOn := key.onType type, fallback }

namespace Resolved

/-- What the fallback answers. -/
def invoke (r : Resolved) (params : List Param) : Item :=
  (r.fallback.answer params).mapError (.fallbackInvocation r.declaringType)

/-- The use of the fallback, for a log. -/
def invocation (r : Resolved) (params : List Param) : Invocation :=
  { label := r.fallback.label, params }

/-- The shown form of a fallback that was found. -/
def shown (r : Resolved) : String :=
  shownPartly "ResolvedFallback"
    [("declaring_type", Quoted.ofString r.declaringType), ("registered_on", r.registeredOn.shown)]

end Resolved

/-- A result together with the fallbacks that were used on the way. -/
structure Traced (α : Type) where
  result : α
  invoked : List Invocation := []

/-- What becomes of a failed call: a fallback's answer if there is one for it, else the error. -/
def recover (found : Option Resolved) (params : List Param) (error : DispatchError) : Traced Item :=
  if error.isRecoverable then
    match found with
    | some r => { result := r.invoke params, invoked := [r.invocation params] }
    | none => { result := .error error }
  else { result := .error error }

end HttpCalls
