import Mathlib
import PolyTrace.Proofs.Problem.Optimality
import PolyTrace.Proofs.Problem.Split

/-!
# The split form as a reformulation

The nonnegative solutions of the equations of the split form are the feasible points in another
guise.  Reading the variables off a solution gives a feasible point, the cost of the solution is the
objective of that point with the other sign, and every feasible point is read off its own parts and
slacks.  A least cost on the one side is therefore a greatest objective on the other.
-/

namespace PolyTrace

namespace Program

variable {K : Type} [Scalar K] {m p : Nat}

/-- The variables are nonnegative and solve the equations. -/
structure StandardFeasible (program : Program K m p) (χ : Vec K p) : Prop where
  nonneg : ∀ j, 0 ≤ χ.get j
  equations : program.A.mulVec χ = program.b

/-- The variables solve the equations, and no others do so at a smaller cost. -/
structure StandardOptimal (program : Program K m p) (χ : Vec K p) : Prop where
  feasible : program.StandardFeasible χ
  least : ∀ χ', program.StandardFeasible χ' → program.c.dot χ ≤ program.c.dot χ'

end Program

namespace Problem

variable {K : Type} [ExactScalar K] {m n : Nat}

theorem feasible_unsplit {problem : Problem K m n} {χ : Vec K (n + n + m)}
    (standard : problem.split.StandardFeasible χ) : problem.Feasible (unsplit χ) := by
  apply Split.feasible_of_slack_nonneg (t := χ.get)
  · rw [← Mat.get_mulVec]
    exact congrArg Vector.get standard.equations
  · exact Split.get_unsplit χ
  · intro i
    exact standard.nonneg _

/-- The objective of the point that is read off is the cost with the other sign. -/
theorem dot_unsplit (problem : Problem K m n) (χ : Vec K (n + n + m)) :
    problem.c.dot (unsplit χ) = -problem.split.c.dot χ := by
  rw [Vec.dot_eq, Vec.dot_eq, Split.split_dot, Split.get_unsplit, neg_neg]

/-- The parts and the slacks of a point, as variables of the split form. -/
def splitPoint (problem : Problem K m n) (x : Vec K n) : Vec K (n + n + m) :=
  Vector.ofFn (Split.ofPoint problem x)

theorem get_splitPoint (problem : Problem K m n) (x : Vec K n) :
    (problem.splitPoint x).get = Split.ofPoint problem x :=
  funext fun j => Vec.get_ofFn _ j

@[simp]
theorem unsplit_splitPoint (problem : Problem K m n) (x : Vec K n) :
    unsplit (problem.splitPoint x) = x := by
  apply Vec.ext_get
  intro j
  rw [Split.get_unsplit, get_splitPoint, Split.free_ofPoint]

theorem dot_splitPoint (problem : Problem K m n) (x : Vec K n) :
    problem.split.c.dot (problem.splitPoint x) = -problem.c.dot x := by
  have cost := problem.dot_unsplit (problem.splitPoint x)
  rw [unsplit_splitPoint] at cost
  rw [cost, neg_neg]

theorem standardFeasible_splitPoint {problem : Problem K m n} {x : Vec K n}
    (feasible : problem.Feasible x) :
    problem.split.StandardFeasible (problem.splitPoint x) := by
  constructor
  · intro j
    rw [get_splitPoint]
    exact Split.ofPoint_nonneg feasible j
  · apply Vec.ext_get
    intro i
    rw [Mat.get_mulVec, get_splitPoint]
    exact congrFun (Split.splitMatrix_mulVec_ofPoint problem x) i

/-- Among the solutions, the least cost is attained exactly where the objective of the point that is
read off is greatest. -/
theorem standardOptimal_iff_isOptimal_unsplit {problem : Problem K m n} {χ : Vec K (n + n + m)}
    (standard : problem.split.StandardFeasible χ) :
    problem.split.StandardOptimal χ ↔ problem.IsOptimal (unsplit χ) := by
  constructor
  · rintro ⟨-, least⟩
    constructor
    · exact feasible_unsplit standard
    · intro x feasible
      have le := least _ (standardFeasible_splitPoint feasible)
      rw [dot_splitPoint] at le
      rw [dot_unsplit]
      exact le_neg_of_le_neg le
  · rintro ⟨-, greatest⟩
    constructor
    · exact standard
    · intro χ' standard'
      have le := greatest _ (feasible_unsplit standard')
      rw [dot_unsplit, dot_unsplit] at le
      exact neg_le_neg_iff.mp le

/-- The split form is an exact reformulation of the problem.  Its nonnegative solutions give feasible
points of the opposite value; every feasible point is given by one of them, at the opposite cost; and
a solution is one of least cost exactly when its point is optimal. -/
theorem split_reformulates (problem : Problem K m n) :
    (∀ χ, problem.split.StandardFeasible χ →
        problem.Feasible (unsplit χ) ∧ problem.c.dot (unsplit χ) = -problem.split.c.dot χ) ∧
      (∀ x, problem.Feasible x →
        ∃ χ, problem.split.StandardFeasible χ ∧ unsplit χ = x ∧
          problem.split.c.dot χ = -problem.c.dot x) ∧
      ∀ χ, problem.split.StandardFeasible χ →
        (problem.split.StandardOptimal χ ↔ problem.IsOptimal (unsplit χ)) := by
  refine ⟨?_, ?_, ?_⟩
  · intro χ standard
    exact ⟨feasible_unsplit standard, problem.dot_unsplit χ⟩
  · intro x feasible
    exact ⟨problem.splitPoint x, standardFeasible_splitPoint feasible,
      problem.unsplit_splitPoint x, problem.dot_splitPoint x⟩
  · intro χ standard
    exact standardOptimal_iff_isOptimal_unsplit standard

end Problem

end PolyTrace
