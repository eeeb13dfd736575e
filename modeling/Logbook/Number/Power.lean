/-!
# Powers

Powers of natural numbers and integers are those of the core library, also where a module sees
other powers beside them.
-/

set_option autoImplicit false

namespace Logbook

@[default_instance 20001]
instance (priority := 2000) natPow : Pow Nat Nat := instPowNat

@[default_instance 20000]
instance (priority := 2000) intPow : Pow Int Nat := instPowNat

end Logbook
