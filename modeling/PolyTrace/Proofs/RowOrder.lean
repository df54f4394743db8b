import Mathlib
import PolyTrace.Proofs.CentralPath.RowOrder
import PolyTrace.Proofs.InteriorPoint.RowOrder
import PolyTrace.Proofs.PrimalDual.RowOrder

/-!
# The order of the inequalities

The simplex method breaks ties by the order of the rows.  For the other engines, computing exactly,
the order does not matter: each shows the same points and ends in the same way, and what belongs to
the rows is found in their order.
-/

namespace PolyTrace

/-- With the rows of a problem in another order, and with exact arithmetic,

* the interior point method stops for the same fault, or it has a run that ends in the same way (at
  the same iteration and with the same kind of failure, if it aborts) and goes through the same
  variables, complementarities and objectives, and through the slacks and the multipliers in that
  order;
* the primal-dual method in either form stops for the same fault, or it has a run that ends in the
  same way and shows the same points, with the same objectives, violations and errors;
* the central path from given vertices, with the weights of the rows in that order, has the same
  answer, path and levels included. -/
theorem engines_reorder {m n : Nat} (p : Equiv.Perm (Fin m)) :
    (∀ {K : Type} [ExactScalar K] (options : InteriorPoint.Options K) (problem : Problem K m n),
      Alike Eq
        (fun run other => run.ending.Alike other.ending ∧
          other.iterates = run.iterates.map fun iterate =>
            { iterate with s := Vec.reorder p iterate.s, y := Vec.reorder p iterate.y })
        (InteriorPoint.solve options problem)
        (InteriorPoint.solve options (problem.reorder p))) ∧
      (∀ (options : PrimalDual.Options ℝ) (problem : Problem ℝ m n),
        Alike Eq
          (fun run other => other.ending = run.ending ∧
            other.iterates.map (fun iterate => iterate.point) =
              run.iterates.map (fun iterate => iterate.point) ∧
            other.iterates.map (fun iterate => iterate.objective) =
              run.iterates.map (fun iterate => iterate.objective) ∧
            other.iterates.map (fun iterate => iterate.violation) =
              run.iterates.map (fun iterate => iterate.violation) ∧
            other.iterates.map (fun iterate => iterate.error) =
              run.iterates.map (fun iterate => iterate.error))
          (PrimalDual.solve options problem) (PrimalDual.solve options (problem.reorder p))) ∧
      ∀ (options : CentralPath.Options ℝ) (problem : Problem ℝ m n) (vertices : Tensor ℝ),
        CentralPath.answer (options.reorder p) (problem.reorder p) vertices =
          CentralPath.answer options problem vertices := by
  refine ⟨fun options problem => ?_, fun options problem => ?_, fun options problem vertices =>
    CentralPath.answer_reorder p options problem vertices⟩
  · refine (InteriorPoint.solve_reorder p options problem).mono fun run other reordered =>
      ⟨reordered.ending, reordered.iterates.trans (List.map_congr_left fun iterate _ => ?_)⟩
    simp only [InteriorPoint.Iterate.reorder, InteriorPoint.Point.reorder, Vec.reorder_refl]
  · rw [PrimalDual.solve_reorder]
    cases PrimalDual.solve options problem with
    | error cause => exact .error rfl
    | ok run =>
        refine .ok ⟨rfl, ?_, ?_, ?_, ?_⟩ <;>
          exact List.map_map

end PolyTrace
