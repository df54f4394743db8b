import PolyTrace.Arith.Scalar

/-!
# Fractions as numbers

In the arithmetic of fractions nothing is rounded, every number is defined and finite, and a pivot
counts as zero only if it is zero.
-/

namespace PolyTrace

/-- Fractions as the arithmetic of an engine. -/
instance instScalarRat : Scalar Rat where
  zero := 0
  one := 1
  ltDecidable := inferInstance
  leDecidable := inferInstance
  ofRat := id
  pivotTolerance := 0

end PolyTrace
