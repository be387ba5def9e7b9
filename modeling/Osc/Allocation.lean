import Osc.Fault

/-!
Room for bytes. A request asks for a number of bytes that must fit a signed word of 64
bits and be no less than zero, and is granted as far as the memory goes.
-/

namespace Osc

/-- A memory of 64 GiB, which is taken when nothing is said of it. -/
def ampleMemory : Nat := 2 ^ 36

/-- The number of bytes that a request is granted from a memory of so many bytes. -/
def allocation (memory : Nat) (n : Int) : Except Fault Nat :=
  if n < -2 ^ 63 || 2 ^ 63 ≤ n then .error (.overflow .tooLargeForSize)
  else if n < 0 then .error (.value .negativeCount)
  else if memory < n then .error .memory
  else .ok n.toNat

end Osc
