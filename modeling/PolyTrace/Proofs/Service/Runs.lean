import Mathlib
import PolyTrace.Engine.CentralPath.Trace
import PolyTrace.Engine.InteriorPoint
import PolyTrace.Engine.PrimalDual
import PolyTrace.Proofs.Failure
import PolyTrace.Proofs.Linear.Matrix

/-!
# Runs of the engines have a result

An engine looks for the largest or the smallest of the entries of vectors as long as the rows or the
variables of its problem.  A problem with a row and a variable has such entries, and everything else
that can go wrong in a step is a failure, which ends a level or a run and is part of its result.

There is one exception: the weight of the centre is the cube of a finite ratio, and has no value
when the cube is too large.
-/

namespace PolyTrace

/-! ## Largest and smallest entries -/

namespace Vec

variable {K : Type} [Scalar K] {n : Nat}

theorem exists_largest?_of_pos (nonempty : 0 < n) (u : Vec K n) : ∃ a, u.largest? = some a := by
  obtain ⟨k, rfl⟩ := Nat.exists_eq_succ_of_ne_zero nonempty.ne'
  exact exists_largest? u

theorem exists_largestAbs? (nonempty : 0 < n) (u : Vec K n) : ∃ a, u.largestAbs? = some a :=
  exists_largest?_of_pos nonempty _

theorem exists_smallest? (nonempty : 0 < n) (u : Vec K n) : ∃ a, u.smallest? = some a := by
  unfold smallest?
  cases listed : u.toList with
  | nil =>
      have empty : n = 0 := by simpa using congrArg List.length listed
      exact absurd empty nonempty.ne'
  | cons first rest => exact ⟨_, rfl⟩

end Vec

/-! ## The central path -/

namespace CentralPath

variable {K : Type} [Analytic K] {m n : Nat} {problem : Weighted K m n} {epsilon mu : K}

/-- The first line search finds a share or fails. -/
theorem domainShare_ne_fault (rows : 0 < m) {x d : Vec K n} {fuel : Nat} {alpha : K}
    {cause : Fault} : domainShare problem.toProblem x d fuel alpha ≠ .error (.fault cause) := by
  induction fuel generalizing alpha with
  | zero => nofun
  | succ fuel inductionHypothesis =>
      obtain ⟨slack, least⟩ :=
        Vec.exists_smallest? rows (slacks problem.toProblem (x.along alpha d))
      unfold domainShare smallestSlack
      rw [least]
      change (if leastSlack < slack then Except.ok alpha
        else domainShare problem.toProblem x d fuel (half alpha)) ≠ _
      split
      · nofun
      · exact inductionHypothesis

/-- A step of Newton's method leads to a point or fails. -/
theorem newtonNext_ne_fault (rows : 0 < m) {x g : Vec K n} {cause : Fault} :
    newtonNext problem mu x g ≠ .error (.fault cause) := by
  intro faulty
  unfold newtonNext at faulty
  rcases bind_eq_error faulty with refused | ⟨factors, -, faulty⟩
  · exact ofFailure_ne_fault refused
  · rcases bind_eq_error faulty with stuck | ⟨alpha, -, faulty⟩
    · exact domainShare_ne_fault rows stuck
    · cases faulty

theorem exists_isStationary (unknowns : 0 < n) (epsilon : K) (g : Vec K n) :
    ∃ verdict, isStationary epsilon g = .ok verdict := by
  obtain ⟨value, attained⟩ := Vec.exists_largestAbs? unknowns g
  unfold isStationary
  rw [attained]
  exact ⟨_, rfl⟩

/-- Newton's method ends in one of its three ways. -/
theorem exists_newton (rows : 0 < m) (unknowns : 0 < n) (problem : Weighted K m n)
    (epsilon mu : K) (fuel : Nat) (x : Vec K n) :
    ∃ inner, newton problem epsilon mu fuel x = .ok inner := by
  induction fuel generalizing x with
  | zero =>
      obtain ⟨verdict, judged⟩ := exists_isStationary unknowns epsilon (gradient problem mu x)
      unfold newton
      dsimp only
      rw [judged]
      cases verdict <;> exact ⟨_, rfl⟩
  | succ fuel inductionHypothesis =>
      obtain ⟨verdict, judged⟩ := exists_isStationary unknowns epsilon (gradient problem mu x)
      unfold newton
      dsimp only
      rw [judged]
      cases verdict with
      | true => exact ⟨_, rfl⟩
      | false =>
          cases stepped : newtonNext problem mu x (gradient problem mu x) with
          | ok next => exact inductionHypothesis next
          | error trouble =>
              cases trouble with
              | failure cause => exact ⟨_, rfl⟩
              | fault cause => exact absurd stepped (newtonNext_ne_fault rows)

/-- Every level of a path is kept or skipped. -/
theorem exists_levels (rows : 0 < m) (unknowns : 0 < n) (options : Options K)
    (problem : Weighted K m n) (schedule : List K) (x : Vec K n) :
    ∃ found, levels options problem schedule x = .ok found := by
  induction schedule generalizing x with
  | nil => exact ⟨[], rfl⟩
  | cons mu rest inductionHypothesis =>
      obtain ⟨inner, ended⟩ :=
        exists_newton rows unknowns problem options.epsilon mu options.maxit x
      unfold levels
      rw [ended]
      cases inner with
      | converged next =>
          obtain ⟨more, found⟩ := inductionHypothesis next
          dsimp only [bind, Except.bind]
          rw [found]
          exact ⟨_, rfl⟩
      | exhausted _ | failed _ =>
          obtain ⟨more, found⟩ := inductionHypothesis x
          dsimp only [bind, Except.bind]
          rw [found]
          exact ⟨_, rfl⟩

theorem exists_trace (rows : 0 < m) (unknowns : 0 < n) (options : Options K)
    (problem : Weighted K m n) (start : Vec K n) :
    ∃ path, trace options problem start = .ok path := by
  obtain ⟨found, solved⟩ :=
    exists_levels rows unknowns options problem (schedule options.niter) start
  unfold trace
  dsimp only
  rw [solved]
  exact ⟨_, rfl⟩

end CentralPath

/-! ## The primal-dual method -/

namespace PrimalDual

variable {K : Type} [Analytic K] {m p q : Nat} {form : Form} {options : Options K}
  {program : Program K m p} {view : Vec K p → Vec K q} {cause : Fault}

theorem violation_eq_error {state : State K m p}
    (undefined : violation form program state = .error cause) :
    form = .inequality ∧ m = 0 ∧ cause = .emptyExtremum := by
  unfold violation at undefined
  cases form with
  | standard => cases undefined
  | inequality =>
      dsimp only at undefined
      split at undefined
      · cases undefined
      · rename_i missing
        cases undefined
        refine ⟨rfl, Nat.eq_zero_of_not_pos fun rows => ?_, rfl⟩
        obtain ⟨value, attained⟩ := Vec.exists_largest?_of_pos rows
          ((program.A.mulVec state.x).sub program.b).project
        rw [attained] at missing
        cases missing

theorem finish_eq_error {seen : Array (Iterate K m p q)} {state : State K m p} {error : K}
    (failed : finish form options program view seen state error = .error cause) :
    form = .inequality ∧ m = 0 ∧ cause = .emptyExtremum := by
  unfold finish at failed
  split at failed
  · exact violation_eq_error (eq_error_of_map (eq_error_of_map failed))
  · split at failed <;> cases failed

/-- The only fault of a run is the largest violation among no rows at all, which the inequality form
asks for when it records a state. -/
theorem loop_eq_error {fuel : Nat} {seen : Array (Iterate K m p q)} {state : State K m p} {error : K}
    (failed : loop form options program view fuel seen state error = .error cause) :
    form = .inequality ∧ m = 0 ∧ cause = .emptyExtremum := by
  induction fuel generalizing seen state error with
  | zero => exact finish_eq_error failed
  | succ fuel inductionHypothesis =>
      unfold loop at failed
      split at failed
      · rcases bind_eq_error failed with unrecorded | ⟨all, -, failed⟩
        · exact violation_eq_error (eq_error_of_map unrecorded)
        · dsimp only at failed
          split at failed
          · exact inductionHypothesis failed
          · exact finish_eq_error failed
      · exact finish_eq_error failed

theorem exists_loop (rows : 0 < m) (fuel : Nat) (seen : Array (Iterate K m p q))
    (state : State K m p) (error : K) :
    ∃ run, loop form options program view fuel seen state error = .ok run := by
  cases ran : loop form options program view fuel seen state error with
  | ok run => exact ⟨run, rfl⟩
  | error cause =>
      obtain ⟨-, empty, -⟩ := loop_eq_error ran
      exact absurd empty rows.ne'

/-- The primal-dual method on a problem has a run. -/
theorem exists_solve {n : Nat} (rows : 0 < m) (options : Options K) (problem : Problem K m n) :
    ∃ run, solve options problem = .ok run :=
  exists_loop rows _ _ _ _

end PrimalDual

/-! ## The interior point method -/

namespace InteriorPoint

variable {K : Type} [Scalar K] {m n : Nat} {options : Options K} {program : Program K m n}

theorem eq_overflow_of_centreWeight {affine mu : K} {cause : Fault}
    (weightless : centreWeight affine mu = .error cause) : cause = .overflow := by
  unfold centreWeight at weightless
  generalize (if 0 < mu then affine / mu else 0) = ratio at weightless
  dsimp only at weightless
  split at weightless
  · cases weightless
    rfl
  · cases weightless

/-- The only fault of a step is a weight of the centre that is too large. -/
theorem eq_overflow_of_direction {A : Mat K m n} {s y rowResidual : Vec K m}
    {columnResidual : Vec K n} {mu : K} {cause : Fault}
    (faulty : direction A s y rowResidual columnResidual mu = .error (.fault cause)) :
    cause = .overflow := by
  unfold direction at faulty
  rcases bind_eq_error faulty with refused | ⟨factors, -, faulty⟩
  · exact absurd refused ofFailure_ne_fault
  · dsimp only at faulty
    split at faulty
    · cases faulty
    · rcases bind_eq_error faulty with weightless | ⟨sigma, -, faulty⟩
      · exact eq_overflow_of_centreWeight (ofFault_eq_fault weightless)
      · cases faulty

theorem exists_extremum {k : Nat} (nonempty : 0 < k) (u : Vec K k) :
    ∃ value, extremum u = .ok value := by
  obtain ⟨value, attained⟩ := Vec.exists_largestAbs? nonempty u
  unfold extremum
  rw [attained]
  exact ⟨value, rfl⟩

/-- The tests of the residuals at a point have a verdict. -/
theorem exists_verdict (rows : 0 < m) (unknowns : 0 < n) (options : Options K)
    (residuals : Residuals K m n) :
    ∃ infeasibility verdict, extremum residuals.rows = .ok infeasibility ∧
      hasConverged options residuals infeasibility = .ok verdict := by
  obtain ⟨infeasibility, attained⟩ := exists_extremum rows residuals.rows
  refine ⟨infeasibility, ?_⟩
  unfold hasConverged
  split
  · obtain ⟨columns, extremal⟩ := exists_extremum unknowns residuals.columns
    rw [extremal]
    exact ⟨_, attained, rfl⟩
  · exact ⟨_, attained, rfl⟩

theorem exists_loop_or_overflow (rows : 0 < m) (unknowns : 0 < n) (fuel : Nat)
    (point : Point K m n) (seen : Array (Iterate K m n)) :
    (∃ run, loop options program fuel point seen = .ok run) ∨
      loop options program fuel point seen = .error .overflow := by
  induction fuel generalizing point seen with
  | zero =>
      obtain ⟨infeasibility, verdict, attained, judged⟩ :=
        exists_verdict rows unknowns options (residuals program point)
      unfold loop
      dsimp only
      rw [attained]
      dsimp only [bind, Except.bind]
      rw [judged]
      cases verdict <;> exact .inl ⟨_, rfl⟩
  | succ fuel inductionHypothesis =>
      obtain ⟨infeasibility, verdict, attained, judged⟩ :=
        exists_verdict rows unknowns options (residuals program point)
      unfold loop
      dsimp only
      rw [attained]
      dsimp only [bind, Except.bind]
      rw [judged]
      cases verdict with
      | true => exact .inl ⟨_, rfl⟩
      | false =>
          cases stepped : direction program.A point.s point.y (residuals program point).rows
              (residuals program point).columns (residuals program point).mu with
          | ok d =>
              simp only [Bool.false_eq_true, if_false]
              exact inductionHypothesis _ _
          | error trouble =>
              simp only [Bool.false_eq_true, if_false]
              cases trouble with
              | failure cause => exact .inl ⟨_, rfl⟩
              | fault cause =>
                  rw [eq_overflow_of_direction stepped]
                  exact .inr rfl

/-- The interior point method on a problem has a run, unless a weight of the centre is too large. -/
theorem exists_solve_or_overflow (rows : 0 < m) (unknowns : 0 < n) (options : Options K)
    (problem : Problem K m n) :
    (∃ run, solve options problem = .ok run) ∨ solve options problem = .error .overflow :=
  exists_loop_or_overflow rows unknowns _ _ _

end InteriorPoint

end PolyTrace
