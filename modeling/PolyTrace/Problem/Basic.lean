import PolyTrace.Linear.Vec

/-!
# Linear programs

A `Problem` asks for the largest value of `c · x` over the points `x` with `A x ≤ b`; the variables
are free.  Its split form asks for the smallest value of a cost over the nonnegative solutions `χ`
of a system of equations, where `χ` lists the positive parts of the variables, then their negative
parts, then the slacks of the rows.  `unsplit` reads the variables off such a `χ`.
-/

namespace PolyTrace

/-- Maximise `c · x` subject to `A x ≤ b`. -/
structure Problem (K : Type) (m n : Nat) where
  A : Mat K m n
  b : Vec K m
  c : Vec K n

/-- Minimise `c · x` subject to `A x = b` and `x ≥ 0`, or to `A x ≤ b`, as the method has it. -/
structure Program (K : Type) (m p : Nat) where
  A : Mat K m p
  b : Vec K m
  c : Vec K p

/-- The differences of the first `n` and the next `n` entries. -/
def unsplit {K : Type} [Scalar K] {n r : Nat} (x : Vec K (n + n + r)) : Vec K n :=
  Vector.ofFn fun i => x ((i.castAdd n).castAdd r) - x ((i.natAdd n).castAdd r)

namespace Problem

variable {K : Type} [Scalar K] {m n : Nat}

/-- The columns of the split form: the variables, their negatives and the slacks. -/
def splitMatrix (A : Mat K m n) : Mat K m (n + n + m) :=
  (A.beside A.neg).beside (Mat.identity m : Mat K m m)

/-- The split form of a problem. -/
def split (problem : Problem K m n) : Program K m (n + n + m) where
  A := splitMatrix problem.A
  b := problem.b
  c := problem.c.neg ++ problem.c ++ (Vec.zero m : Vec K m)

/-- The problem with every coefficient negated. -/
def negated (problem : Problem K m n) : Program K m n where
  A := problem.A.neg
  b := problem.b.neg
  c := problem.c.neg

end Problem

end PolyTrace
