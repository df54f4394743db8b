/-!
# Powers of two and of ten

Machine numbers are fractions over powers of two and decimals are fractions over powers of ten.
-/

namespace PolyTrace

/-- Two to the given power. -/
def twoPow (n : Nat) : Nat :=
  Nat.pow 2 n

/-- Ten to the given power. -/
def tenPow (n : Nat) : Nat :=
  Nat.pow 10 n

/-- One more in the exponent doubles the power of two. -/
theorem twoPow_succ (n : Nat) : twoPow (n + 1) = twoPow n * 2 :=
  rfl

/-- One more in the exponent makes the power of ten ten times as large. -/
theorem tenPow_succ (n : Nat) : tenPow (n + 1) = tenPow n * 10 :=
  rfl

end PolyTrace
