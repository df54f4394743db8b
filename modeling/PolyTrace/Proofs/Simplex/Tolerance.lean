import PolyTrace.Proofs.Simplex.Feasibility

/-!
# Small tolerances

A program has finitely many bases, so what holds of each basic solution for small tolerances holds
of all of them at once.  In particular every small enough tolerance is fine, and how small it has to
be depends on the equations only: the objective of a program has no part in its basic solutions.
-/

namespace PolyTrace.Simplex

open Filter

variable {K : Type} {m n p : Nat}

theorem Basis.injective_get : Function.Injective fun (basis : Basis p) (j : Fin p) => basis.get j :=
  fun _ _ equal => Vec.ext_get fun j => congrFun equal j

instance Basis.instFinite : Finite (Basis p) :=
  Finite.of_injective _ Basis.injective_get

variable [ExactScalar K]

/-! ## All basic solutions at once -/

/-- What holds of each solution eventually holds of all solutions of a program eventually. -/
theorem eventually_solution {Index : Type} {filter : Filter Index}
    {P : Index → Solution K m p → Prop} (each : ∀ here, ∀ᶠ a in filter, P a here)
    (program : Program K m p) :
    ∀ᶠ a in filter, ∀ basis here, solution program basis = .ok here → P a here := by
  rw [eventually_all]
  intro basis
  cases solved : solution program basis with
  | error cause => exact .of_forall fun _ _ equal => nomatch equal
  | ok first =>
      filter_upwards [each first] with a holds here equal
      cases equal
      exact holds

/-- The solution of a basis for another objective has the same factors and the same variables. -/
theorem exists_solution_of_objective {A : Mat K m p} {b : Vec K m} {c : Vec K p}
    {basis : Basis p} {here : Solution K m p} (solved : solution ⟨A, b, c⟩ basis = .ok here)
    (c' : Vec K p) :
    ∃ here', solution ⟨A, b, c'⟩ basis = .ok here' ∧ here'.factors = here.factors ∧
      here'.basic = here.basic ∧ here'.full = here.full := by
  have size := length_of_solution solved
  set columns : Vector (Fin p) m := ⟨basis.members.toArray, by simpa using size⟩
  rw [solution, dif_pos size, solutionAt] at solved ⊢
  cases factored : factorize (A.columns columns) with
  | error cause =>
      rw [factored] at solved
      cases solved
  | ok factors =>
      rw [factored] at solved
      cases solved
      exact ⟨_, rfl, rfl, rfl, rfl⟩

/-! ## Fine tolerances -/

theorem eventually_lt_of_pos (x : K) : ∀ᶠ tol : Set.Ioi (0 : K) in atBot, 0 < x → tol.val < x := by
  by_cases positive : 0 < x
  · filter_upwards [eventually_lt_atBot (⟨x, positive⟩ : Set.Ioi (0 : K))] with tol less _
    exact less
  · exact .of_forall fun _ positive' => absurd positive' positive

theorem eventually_add_lt (x y : K) :
    ∀ᶠ tol : Set.Ioi (0 : K) in atBot, x < y → x + tol.val < y := by
  filter_upwards [eventually_lt_of_pos (y - x)] with tol separated less
  linarith [separated (sub_pos.mpr less)]

theorem eventually_fine (program : Program K m p) (here : Solution K m p) :
    ∀ᶠ tol : Set.Ioi (0 : K) in atBot, Fine tol.val program here := by
  have steep : ∀ᶠ tol : Set.Ioi (0 : K) in atBot, ∀ j i,
      0 < (here.direction program j).get i → tol.val < (here.direction program j).get i :=
    eventually_all.mpr fun j => eventually_all.mpr fun i => eventually_lt_of_pos _
  have apart : ∀ᶠ tol : Set.Ioi (0 : K) in atBot, ∀ j i k,
      rowRatio here.basic (here.direction program j) i <
          rowRatio here.basic (here.direction program j) k →
        rowRatio here.basic (here.direction program j) i + tol.val <
          rowRatio here.basic (here.direction program j) k :=
    eventually_all.mpr fun j => eventually_all.mpr fun i => eventually_all.mpr fun k =>
      eventually_add_lt _ _
  have entry : ∀ᶠ tol : Set.Ioi (0 : K) in atBot, ∀ j,
      0 < here.full.get j → tol.val < here.full.get j :=
    eventually_all.mpr fun j => eventually_lt_of_pos _
  filter_upwards [steep, apart, entry] with tol steep apart entry
  exact ⟨steep, apart, entry⟩

/-- Small tolerances are fine at every basic solution, whatever the objective. -/
theorem eventually_fineAtAll (A : Mat K m p) (b : Vec K m) :
    ∀ᶠ tol : Set.Ioi (0 : K) in atBot, ∀ c, FineAtAll tol.val ⟨A, b, c⟩ := by
  have without := eventually_solution (eventually_fine ⟨A, b, Vec.zero p⟩) ⟨A, b, Vec.zero p⟩
  filter_upwards [without] with tol fine c basis here solved
  obtain ⟨here', solved', factors_eq, basic_eq, full_eq⟩ :=
    exists_solution_of_objective solved (Vec.zero p)
  obtain ⟨steep, apart, entry⟩ := fine basis here' solved'
  unfold Solution.direction at steep apart
  rw [factors_eq] at steep apart
  rw [basic_eq] at apart
  rw [full_eq] at entry
  exact ⟨steep, apart, entry⟩

/-- Small tolerances are fine in both phases, whatever the objective. -/
theorem eventually_fine_phases (A : Mat K m n) (b : Vec K m) :
    ∀ᶠ tol : Set.Ioi (0 : K) in atBot, ∀ c,
      FineAtAll tol.val (phaseOne ⟨A, b, c⟩) ∧ FineAtAll tol.val (phaseTwo ⟨A, b, c⟩) := by
  let plain : Problem K m n := ⟨A, b, Vec.zero n⟩
  filter_upwards [eventually_fineAtAll (phaseOne plain).A (phaseOne plain).b,
    eventually_fineAtAll (Problem.splitMatrix A) b] with tol fineOne fineTwo c
  exact ⟨fineOne _, fineTwo _⟩

/-! ## Sharp tolerances -/

/-- The tolerance separates the positive reduced costs of every basis from zero. -/
def Sharp (tol : K) (program : Program K m p) : Prop :=
  ∀ basis here, solution program basis = .ok here →
    ∀ j, 0 < here.reduced.get j → tol < here.reduced.get j

theorem eventually_sharp (program : Program K m p) :
    ∀ᶠ tol : Set.Ioi (0 : K) in atBot, Sharp tol.val program :=
  eventually_solution (fun here => eventually_all.mpr fun j =>
    eventually_lt_of_pos (here.reduced.get j)) program

/-- With a sharp tolerance no reduced cost is positive without entering column. -/
theorem Sharp.reduced_nonpos {options : Options K} {program : Program K m p} {basis : Basis p}
    {here : Solution K m p} (sharp : Sharp options.tol program) (tol_pos : 0 < options.tol)
    (solved : solution program basis = .ok here)
    (pivoted : pivot options program basis here = .optimal) (j : Fin p) :
    here.reduced.get j ≤ 0 := by
  by_contra positive
  have above := sharp basis here solved j (lt_of_not_ge positive)
  have below := reduced_le_of_optimal tol_pos (solves_of_solution solved) pivoted j
  exact absurd above (not_lt_of_ge below)

/-- What holds of all small tolerances holds below some bound. -/
theorem exists_bound_of_eventually {P : K → Prop}
    (small : ∀ᶠ tol : Set.Ioi (0 : K) in atBot, P tol.val) :
    ∃ bound, 0 < bound ∧ ∀ tol, 0 < tol → tol < bound → P tol := by
  obtain ⟨bound, below⟩ := eventually_atBot.mp small
  exact ⟨bound.val, bound.property, fun tol tol_pos less => below ⟨tol, tol_pos⟩ less.le⟩

end PolyTrace.Simplex
