-- Powers of whole numbers. They are those of the core library wherever this module is
-- known, also beside a library that has powers of its own.

namespace HttpCalls

@[default_instance 20000]
instance (priority := 20000) corePow {α : Type} [NatPow α] : Pow α Nat := instPowNat

end HttpCalls
