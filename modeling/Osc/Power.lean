/-!
Powers of whole numbers are those of the core library in every module, also where another
library brings powers of its own.
-/

namespace Osc

@[default_instance 20000]
instance (priority := 2000) natPower [NatPow α] : Pow α Nat := instPowNat

end Osc
