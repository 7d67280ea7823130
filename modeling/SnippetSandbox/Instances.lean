/-!
# Instances of the core library

Powers and sums of numbers and the equality of bytes are those of the core library in every
module, also in one that imports others.
-/

attribute [instance (2000)] instPowNat Zero.ofOfNat0 ByteArray.instDecidableEq

attribute [default_instance 20000] instPowNat
