import Mathlib
import PolyTrace.Proofs.Arith.Real
import PolyTrace.Proofs.CentralPath.Course
import PolyTrace.Proofs.Linear.Elimination
import PolyTrace.Proofs.Service.Runs

/-!
# When the whole step is taken

The direction of a step of Newton's method solves the system of the curvature for the gradient.  If
the whole step along it leaves room to every row and gains enough, neither line search halves it,
and the method goes on from its end.
-/

namespace PolyTrace.CentralPath

open Matrix

theorem leastSlack_lt_one {K : Type} [ExactScalar K] : (leastSlack : K) < 1 := by
  norm_num [leastSlack, Scalar.unitAt, Scalar.ofRat, tenPow]

/-- A step that leaves room to every row is not halved. -/
theorem domainStep_eq_one {K : Type} [ExactScalar K] {m n : Nat} {problem : Problem K m n}
    {x d : Vec K n} (rows : 0 < m)
    (room : ∀ i, leastSlack < (slacks problem (x.along 1 d)).get i) :
    domainStep problem x d = .ok 1 := by
  obtain ⟨slack, least⟩ := Vec.exists_smallest? rows (slacks problem (x.along 1 d))
  have enough : leastSlack < slack := by
    obtain ⟨i, attained⟩ := Vec.exists_get_eq_of_smallest? least
    rw [← attained]
    exact room i
  change domainShare problem x d (99 + 1) 1 = .ok 1
  unfold domainShare smallestSlack
  rw [least]
  exact if_pos enough

section Newton

variable {m n : Nat} {problem : Weighted ℝ m n} {mu : ℝ} {x d g : Vec ℝ n}

theorem leastStep_le_one : (leastStep : ℝ) ≤ 1 := by
  norm_num [leastStep, Scalar.unitAt, Scalar.ofRat, tenPow]

/-- A step that gains enough is not halved. -/
theorem armijoStep_eq_one
    (gained : gains (gainPart * g.dot d) (barrier problem mu x)
      (barrier problem mu (x.along 1 d)) = true) :
    armijoStep problem mu x d g 1 = 1 := by
  have accepted : gainShare? problem mu x d (g.dot d) (1099 + 1) 1 = some 1 := by
    unfold gainShare?
    rw [if_pos leastStep_le_one, mul_one, if_pos gained]
  change (gainShare? problem mu x d (g.dot d) (1099 + 1) 1).getD 1 = 1
  rw [accepted, Option.getD_some]

/-- A whole step that leaves room to every row and gains enough is the next step of Newton's
method. -/
theorem newtonNext_eq_along (rows : 0 < m) (unknowns : 0 < n)
    (regular : ∀ z, (curvature problem mu x).matrix *ᵥ z = 0 → z = 0)
    (solves : (curvature problem mu x).matrix *ᵥ d.get = g.get)
    (room : ∀ i, leastSlack < (slacks problem.toProblem (x.along 1 d)).get i)
    (gained : gains (gainPart * g.dot d) (barrier problem mu x)
      (barrier problem mu (x.along 1 d)) = true) :
    newtonNext problem mu x g = .ok (x.along 1 d) := by
  obtain ⟨factors, accepted, direction⟩ := exists_factorize_solve_eq unknowns regular solves
  unfold newtonNext
  rw [accepted]
  dsimp only [Trouble.ofFailure, bind, Except.bind]
  rw [direction, domainStep_eq_one rows room]
  dsimp only
  rw [armijoStep_eq_one gained]
  rfl

end Newton

end PolyTrace.CentralPath
