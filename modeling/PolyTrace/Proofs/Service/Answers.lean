import Mathlib
import PolyTrace.Proofs.Arith.Binary64
import PolyTrace.Proofs.CentralPath.Start
import PolyTrace.Proofs.Problem.Load
import PolyTrace.Proofs.Schema.Options
import PolyTrace.Proofs.Service.Runs
import PolyTrace.Service.Solve

/-!
# Requests are answered

A request that follows the schema may still have rows, weights and vertices of any lengths.  Rows
and weights are compared before they are put into arrays, and what does not fit is a failure, which
is part of an answer.  Vertices are put into an array first, which they have to fill: a central path
that is given vertices of unequal lengths has no answer.

Beside that, a request on finite numbers stays without an answer only when a number becomes too
large: a weight of the centre in the interior point method, or the length of a row when the central
path looks for the largest ball.
-/

namespace PolyTrace

/-! ## Finite numbers -/

namespace Chebyshev

section Fractions

variable {α β : Type} {n : Nat}

theorem exists_eq_none_of_list_mapM {f : α → Option β} {listed : List α}
    (missing : listed.mapM f = none) : ∃ a ∈ listed, f a = none := by
  induction listed with
  | nil => cases missing
  | cons first rest inductionHypothesis =>
      rw [List.mapM_cons] at missing
      cases value : f first with
      | none => exact ⟨first, List.mem_cons_self, value⟩
      | some b =>
          rw [value] at missing
          cases others : rest.mapM f with
          | none =>
              obtain ⟨a, member, none_at⟩ := inductionHypothesis others
              exact ⟨a, List.mem_cons_of_mem _ member, none_at⟩
          | some bs =>
              rw [others] at missing
              cases missing

theorem exists_eq_none_of_mapM {f : α → Option β} {u : Vector α n} (missing : u.mapM f = none) :
    ∃ i, f (u.get i) = none := by
  have listed : u.toList.mapM f = none := by
    have arrays : Vector.toArray <$> u.mapM f = u.toArray.mapM f := Vector.toArray_mapM
    rw [missing, Array.mapM_eq_mapM_toList] at arrays
    cases entries : u.toArray.toList.mapM f with
    | none => exact entries
    | some found =>
        rw [entries] at arrays
        cases arrays
  obtain ⟨a, member, none_at⟩ := exists_eq_none_of_list_mapM listed
  obtain ⟨i, bound, rfl⟩ := Vector.mem_iff_getElem.mp (Vector.mem_toList_iff.mp member)
  exact ⟨⟨i, bound⟩, none_at⟩

theorem exists_not_finite {u : Vec Float n} (missing : fractions? u = none) :
    ∃ i, (u.get i).isFinite = false := by
  obtain ⟨i, unread⟩ := exists_eq_none_of_mapM missing
  exact ⟨i, (Binary64.toRat?_readout_eq_none_iff _).mp unread⟩

end Fractions

/-- The largest ball is found or missing unless a number or the length of a row is not finite. -/
theorem centre_eq_fault {m n : Nat} {A : Mat Float m n} {b : Vec Float m} {cause : Fault}
    (faulty : centre A b = .error (.fault cause)) :
    cause = .programNotFinite ∧ ∃ i, (∃ j, ((A.get i).get j).isFinite = false) ∨
      (A.get i).norm.isFinite = false ∨ (b.get i).isFinite = false := by
  unfold centre at faulty
  split at faulty
  · split at faulty
    · split at faulty <;> cases faulty
    · cases faulty
  · rename_i unread
    cases faulty
    refine ⟨rfl, ?_⟩
    cases rows : A.mapM fractions? with
    | none =>
        obtain ⟨i, missing⟩ := exists_eq_none_of_mapM rows
        exact ⟨i, .inl (exists_not_finite missing)⟩
    | some _ =>
        cases norms : fractions? (A.map Vec.norm) with
        | none =>
            obtain ⟨i, infinite⟩ := exists_not_finite norms
            rw [Vec.get_map] at infinite
            exact ⟨i, .inr (.inl infinite)⟩
        | some _ =>
            cases bounds : fractions? b with
            | none =>
                obtain ⟨i, infinite⟩ := exists_not_finite bounds
                exact ⟨i, .inr (.inr infinite)⟩
            | some _ => exact absurd bounds (unread _ _ _ rows norms)

end Chebyshev

/-! ## Calls of the engines -/

theorem Session.proceed_eq_error {α : Type} {part : Except (Trouble Float) α}
    {next : α → Except Fault Session} {cause : Fault}
    (faulty : Session.proceed part next = .error cause) :
    part = .error (.fault cause) ∨ ∃ value, part = .ok value ∧ next value = .error cause := by
  unfold Session.proceed at faulty
  split at faulty
  · exact .inr ⟨_, rfl, faulty⟩
  · cases faulty
  · cases faulty
    exact .inl rfl

theorem Session.proceed_eq_ok {α : Type} {part : Except (Trouble Float) α}
    {next : α → Except Fault Session} {session : Session}
    (returned : Session.proceed part next = .ok session) :
    (∃ value, part = .ok value ∧ next value = .ok session) ∨
      ∃ cause, part = .error (.failure cause) ∧ session = refused cause := by
  unfold Session.proceed at returned
  split at returned
  · exact .inl ⟨_, rfl, returned⟩
  · cases returned
    exact .inr ⟨_, rfl, rfl⟩
  · cases returned

namespace CentralPath

variable {m n : Nat} {options : Options Float} {elapsed : Float}
  {vertices : Option (Except Fault (Tensor Float))} {cause : Fault}

/-- Vertices that fill an array lead to a point or to a failure. -/
theorem centroidPoint_eq_fault {points : Except Fault (Tensor Float)}
    (faulty : centroidPoint n points = .error (.fault cause)) : points = .error cause := by
  unfold centroidPoint at faulty
  rcases bind_eq_error faulty with missing | ⟨_, -, faulty⟩
  · exact ofFault_eq_fault missing
  · split at faulty
    · cases faulty
    · rename_i centre accepted
      obtain ⟨_, _, -, rfl⟩ := exists_points_of_centroid accepted
      rw [Tensor.toVec?, if_pos (by rfl)] at faulty
      cases faulty

theorem weightedSession_eq_error {problem : Weighted Float m n} (unknowns : 0 < n)
    (faulty : weightedSession options elapsed problem vertices = .error cause) :
    startPoint problem.toProblem vertices = .error (.fault cause) := by
  unfold weightedSession at faulty
  split at faulty
  · cases faulty
  · rename_i rows
    split at faulty
    · cases faulty
    · rcases Session.proceed_eq_error faulty with unplaced | ⟨start, -, faulty⟩
      · exact unplaced
      · obtain ⟨path, traced⟩ :=
          exists_trace (Nat.pos_of_ne_zero rows) unknowns options problem start
        rw [traced] at faulty
        cases faulty

/-- A call of the central path on a problem has no session only if the vertices do not fill an
array, or if none are given and a number or the length of a row is not finite. -/
theorem session_eq_error {problem : Problem Float m n} (unknowns : 0 < n)
    (faulty : session options elapsed problem vertices = .error cause) :
    vertices = some (.error cause) ∨ vertices = none ∧ cause = .programNotFinite ∧
      ∃ i, (∃ j, ((problem.A.get i).get j).isFinite = false) ∨
        (problem.A.get i).norm.isFinite = false ∨ (problem.b.get i).isFinite = false := by
  unfold session at faulty
  split at faulty
  · cases faulty
  · rename_i w _
    have unplaced := weightedSession_eq_error unknowns faulty
    cases vertices with
    | some points => exact .inl (congrArg some (centroidPoint_eq_fault unplaced))
    | none =>
        obtain ⟨unfit, i, infinite⟩ := Chebyshev.centre_eq_fault unplaced
        refine .inr ⟨rfl, unfit, (keptRows w).get i, ?_⟩
        simpa only [Weighted.reduced, Vec.get_ofFn] using infinite

end CentralPath

theorem InteriorPoint.session_eq_error {m n : Nat} {problem : Problem Float m n} (rows : 0 < m)
    (unknowns : 0 < n) {options : Options Float} {elapsed : Float} {cause : Fault}
    (faulty : session options elapsed problem = .error cause) : cause = .overflow := by
  unfold session at faulty
  rcases exists_solve_or_overflow rows unknowns options problem with ⟨run, solved⟩ | overflown
  · rw [solved] at faulty
    cases faulty
  · rw [overflown] at faulty
    cases faulty
    rfl

theorem PrimalDual.session_ne_error {m n : Nat} {problem : Problem Float m n} (rows : 0 < m)
    {options : Options Float} {elapsed : Float} {cause : Fault} :
    session options elapsed problem ≠ .error cause := by
  obtain ⟨run, solved⟩ := exists_solve rows options problem
  unfold session
  rw [solved]
  nofun

theorem LoadedProblem.ofRows_ne_fault {lines : List (List Float)} {objective : List Float}
    {cause : Fault} : LoadedProblem.ofRows lines objective ≠ .error (.fault cause) := by
  unfold LoadedProblem.ofRows
  split <;> nofun

theorem LoadedProblem.ofRows_eq_ok {lines : List (List Float)} {objective : List Float}
    {loaded : LoadedProblem} (read : LoadedProblem.ofRows lines objective = .ok loaded) :
    ∃ sized, loaded = .flat sized ∧ SizedProblem.ofRows lines objective = .ok sized := by
  unfold LoadedProblem.ofRows at read
  split at read
  · rename_i sized found
    cases read
    exact ⟨sized, rfl, found⟩
  · cases read

/-- A call of an engine on rows of numbers has no session only if the run of the engine has none. -/
theorem Engine.call_eq_error {engine : Engine} {fields : List (String × Datum)}
    {around : Surroundings} {lines : List (List Float)} {objective : List Float} {cause : Fault}
    (faulty : engine.call (.object fields) around (LoadedProblem.ofRows lines objective) =
      .error cause) :
    ∃ (options : EngineOptions) (sized : SizedProblem Float), options.engine = engine ∧
      SizedProblem.ofRows lines objective = .ok sized ∧
      options.session around sized.problem = .error cause := by
  unfold Engine.call at faulty
  split at faulty
  · cases faulty
  · rename_i options resolved
    rcases Session.proceed_eq_error faulty with unread | ⟨loaded, read, faulty⟩
    · exact absurd unread LoadedProblem.ofRows_ne_fault
    · obtain ⟨sized, rfl, found⟩ := LoadedProblem.ofRows_eq_ok read
      exact ⟨options, sized, EngineOptions.engine_of_resolve resolved, found, faulty⟩

/-! ## Answers -/

/-- On finite numbers, the only fault of a central path without vertices is a row whose length is
too large. -/
theorem CentralPath.session_eq_error_of_finite {lines : List (List Float)}
    {objective : List Float} {sized : SizedProblem Float}
    (loaded : SizedProblem.ofRows lines objective = .ok sized)
    (finite : ∀ line ∈ lines, ∀ a ∈ line, a.isFinite = true) {options : Options Float}
    {elapsed : Float} {vertices : Option (Except Fault (Tensor Float))} {cause : Fault}
    (faulty : session options elapsed sized.problem vertices = .error cause) :
    vertices = some (.error cause) ∨ vertices = none ∧ cause = .programNotFinite ∧
      ∃ line ∈ lines, (Rows.coefficients (line.length - 1) line).norm.isFinite = false := by
  obtain ⟨-, unknowns, among⟩ := SizedProblem.ofRows_eq_ok loaded
  refine (session_eq_error unknowns faulty).imp_right fun ⟨absent, unfit, i, infinite⟩ => ?_
  obtain ⟨line, member, length_eq, coefficients, bound⟩ := among i
  have entry : ∀ k ≤ sized.unknowns, (line.getD k 0).isFinite = true := by
    intro k within
    rw [List.getD_eq_getElem _ _ (by omega)]
    exact finite line member _ (List.getElem_mem _)
  refine ⟨absent, unfit, line, member, ?_⟩
  have width : line.length - 1 = sized.unknowns := by omega
  rw [width, ← coefficients]
  rcases infinite with ⟨j, infinite⟩ | long | infinite
  · rw [coefficients, Rows.coefficients, Vec.get_ofFn, entry _ j.isLt.le] at infinite
    cases infinite
  · exact long
  · rw [bound, entry _ le_rfl] at infinite
    cases infinite

namespace SolveRequest

/-- A request without an answer names the interior point method and meets a weight of the centre
that is too large, or it names the central path and has vertices that do not fill an array, or no
vertices and a row whose length is too large. -/
theorem solve_eq_error {request : SolveRequest}
    (finite : ∀ line ∈ request.lines, ∀ a ∈ line, a.isFinite = true) {cap : Int} {elapsed : Float}
    {cause : Fault} (faulty : request.solve cap elapsed = .error cause) :
    request.solver = .ipm ∧ cause = .overflow ∨
      request.solver = .central ∧
        ((∃ rows, request.vertices = some rows ∧ Tensor.ofRows rows = .error cause) ∨
          request.vertices = none ∧ cause = .programNotFinite ∧ ∃ line ∈ request.lines,
            (Rows.coefficients (line.length - 1) line).norm.isFinite = false) := by
  unfold solve at faulty
  dsimp only at faulty
  obtain ⟨options, sized, named, loaded, faulty⟩ :=
    Engine.call_eq_error (eq_error_of_map faulty)
  obtain ⟨rows, unknowns, -⟩ := SizedProblem.ofRows_eq_ok loaded
  cases options with
  | simplex options => cases faulty
  | ipm options =>
      exact .inl ⟨named.symm, InteriorPoint.session_eq_error rows unknowns faulty⟩
  | pdhg options => exact absurd faulty (PrimalDual.session_ne_error rows)
  | central options =>
      change Engine.central = request.solver at named
      have faulty : CentralPath.session options elapsed sized.problem
          (if request.solver = .central then request.vertices.map Tensor.ofRows else none) =
            .error cause := faulty
      rw [if_pos named.symm] at faulty
      refine .inr ⟨named.symm, ?_⟩
      rcases CentralPath.session_eq_error_of_finite loaded finite faulty with
        unfilled | ⟨absent, unfit, long⟩
      · exact .inl (Option.map_eq_some_iff.mp unfilled)
      · exact .inr ⟨Option.map_eq_none_iff.mp absent, unfit, long⟩

/-- A request on finite numbers, whose vertices are equally long if it names the central path, has
an answer, unless a number becomes too large: a weight of the centre in the interior point method,
or the length of a row in a central path without vertices. -/
theorem solve_answers (request : SolveRequest)
    (finite : ∀ line ∈ request.lines, ∀ a ∈ line, a.isFinite = true)
    (rectangular : request.solver = .central →
      ∀ rows, request.vertices = some rows → Rectangular rows) (cap : Int) (elapsed : Float) :
    (∃ answer, request.solve cap elapsed = .ok answer) ∨
      request.solver = .ipm ∧ request.solve cap elapsed = .error .overflow ∨
        request.solver = .central ∧ request.vertices = none ∧
          request.solve cap elapsed = .error .programNotFinite ∧
            ∃ line ∈ request.lines,
              (Rows.coefficients (line.length - 1) line).norm.isFinite = false := by
  cases answered : request.solve cap elapsed with
  | ok answer => exact .inl ⟨answer, rfl⟩
  | error cause =>
      rcases solve_eq_error finite answered with
        ⟨named, rfl⟩ | ⟨named, ⟨rows, given, unfilled⟩ | ⟨absent, rfl, long⟩⟩
      · exact .inr (.inl ⟨named, rfl⟩)
      · obtain ⟨points, filled⟩ := Datum.exists_tensor_rows (rectangular named rows given)
        cases filled.symm.trans unfilled
      · exact .inr (.inr ⟨named, absent, rfl, long⟩)

/-- Trace the central path of the interval from zero to one from the mean of its ends. -/
def evenEnds : SolveRequest where
  solver := .central
  lines := [[1, 1], [-1, 0]]
  objective := [1]
  vertices := some [[0], [1]]

theorem evenEnds_answers :
    ∃ answer, evenEnds.solve Simplex.vertexLimit 0 = .ok answer := by
  have rectangular : evenEnds.solver = .central →
      ∀ rows, evenEnds.vertices = some rows → Rectangular rows := by
    rintro - rows given
    cases given
    exact ⟨1, by decide⟩
  rcases solve_answers evenEnds (by decide) rectangular Simplex.vertexLimit 0 with
    answered | ⟨named, -⟩ | ⟨-, absent, -⟩
  · exact answered
  · cases named
  · cases absent

/-- The same path from vertices of which the second has a coordinate too many. -/
def unevenEnds : SolveRequest :=
  { evenEnds with vertices := some [[0], [1, 2]] }

/-- There is no answer although all numbers are finite. -/
theorem unevenEnds_ragged :
    (∀ line ∈ unevenEnds.lines, ∀ a ∈ line, a.isFinite = true) ∧
      (∀ a ∈ unevenEnds.objective, a.isFinite = true) ∧
      (∀ rows ∈ unevenEnds.vertices, ∀ row ∈ rows, ∀ a ∈ row, a.isFinite = true) ∧
      unevenEnds.solve Simplex.vertexLimit 0 = .error .ragged :=
  ⟨by decide, by decide, by decide, rfl⟩

end SolveRequest

end PolyTrace
