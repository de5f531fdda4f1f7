/-!
# Powers

Powers with natural exponents are those of the core library throughout, also where a module imports a
library that has powers of its own. So the constants of the program mean the same to its proofs.
-/

set_option autoImplicit false

attribute [default_instance 20000] instPowNat
attribute [instance (2000)] instPowNat
