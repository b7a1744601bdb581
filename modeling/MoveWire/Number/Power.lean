/-!
Powers of numbers are taken as the core library takes them, also where another library brings an
instance of its own.
-/

attribute [instance (20000), default_instance 20000] instPowNat
