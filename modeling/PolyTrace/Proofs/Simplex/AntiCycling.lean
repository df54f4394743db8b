import PolyTrace.Proofs.Simplex.Correctness
import PolyTrace.Proofs.Simplex.PhaseBoundary

/-!
# The rule of the first column does not cycle

With a fine and sharp tolerance and the pivot rule that takes the first column, a phase never comes
back to a basis.  Along a closed path the objective cannot grow, so every exchange on it makes a
step of length zero and all its bases have one solution.  A column that is basic at one visit of the
path and not at another both enters and leaves on the way, and is zero throughout.

Of these columns the last one cannot leave: measured by the reduced costs of the visit where it
enters, the edge taken where it leaves gains only through an earlier column, and the row of that
column would have been the first of the least ratio.
-/

namespace PolyTrace.Simplex

open Matrix

/-! ## Closed paths -/

section Closed

variable {K : Type} [Scalar K] {m p : Nat} {options : Options K} {program : Program K m p}
  {start last : Basis p} {visits : List (Visit K m p)}

/-- Every visit of a path makes an exchange. -/
theorem Path.exists_pivot (path : Path options program start visits last) {visit : Visit K m p}
    (member : visit ∈ visits) :
    ∃ next, pivot options program visit.1 visit.2 = .exchange next := by
  induction path with
  | here => exact absurd member List.not_mem_nil
  | exchange _ pivoted _ inductionHypothesis =>
      rcases List.mem_cons.mp member with rfl | later
      · exact ⟨_, pivoted⟩
      · exact inductionHypothesis later

/-- Every visit of a path is solved, and has what every exchange preserves. -/
theorem Path.visited {Inv : Basis p → Prop}
    (step : ∀ {basis here next}, Inv basis → solution program basis = .ok here →
      pivot options program basis here = .exchange next → Inv next)
    (path : Path options program start visits last) (begins : Inv start) {visit : Visit K m p}
    (member : visit ∈ visits) : Inv visit.1 ∧ solution program visit.1 = .ok visit.2 := by
  induction path with
  | here => exact absurd member List.not_mem_nil
  | exchange solved pivoted _ inductionHypothesis =>
      rcases List.mem_cons.mp member with rfl | later
      · exact ⟨begins, solved⟩
      · exact inductionHypothesis (step begins solved pivoted) later

/-- The part of a path up to a basis on it. -/
theorem Path.upTo (path : Path options program start visits last) {basis : Basis p}
    (member : basis ∈ visits.map Prod.fst ++ [last]) :
    ∃ before, Path options program start before basis := by
  induction path with
  | here =>
      rw [List.map_nil, List.nil_append, List.mem_singleton] at member
      rw [member]
      exact ⟨[], .here _⟩
  | exchange solved pivoted _ inductionHypothesis =>
      rw [List.map_cons, List.cons_append] at member
      rcases List.mem_cons.mp member with rfl | later
      · exact ⟨[], .here _⟩
      · obtain ⟨before, onward⟩ := inductionHypothesis later
        exact ⟨_ :: before, .exchange solved pivoted onward⟩

/-- A path without closed parts visits no basis twice. -/
theorem Path.nodup_bases {Inv : Basis p → Prop}
    (step : ∀ {basis here next}, Inv basis → solution program basis = .ok here →
      pivot options program basis here = .exchange next → Inv next)
    (open' : ∀ {basis visits}, Inv basis → visits ≠ [] →
      ¬ Path options program basis visits basis)
    (path : Path options program start visits last) (begins : Inv start) :
    (visits.map Prod.fst ++ [last]).Nodup := by
  induction path with
  | here => exact List.nodup_singleton _
  | exchange solved pivoted onward inductionHypothesis =>
      rw [List.map_cons, List.cons_append, List.nodup_cons]
      refine ⟨fun again => ?_, inductionHypothesis (step begins solved pivoted)⟩
      obtain ⟨before, closing⟩ := onward.upTo again
      exact open' begins (List.cons_ne_nil _ before) (.exchange solved pivoted closing)

/-- What every exchange of a path takes back to its basis is taken back from the end of the path to
every exchange, and from every visit to the start. -/
theorem Path.taken_back {Q : Basis p → Prop} (path : Path options program start visits last)
    (back : ∀ visit ∈ visits, ∀ next,
      pivot options program visit.1 visit.2 = .exchange next → Q next → Q visit.1) :
    (Q last → Q start) ∧ ∀ visit ∈ visits,
      (Q last → ∀ next, pivot options program visit.1 visit.2 = .exchange next → Q next) ∧
        (Q visit.1 → Q start) := by
  induction path with
  | here => exact ⟨id, fun _ member => absurd member List.not_mem_nil⟩
  | exchange solved pivoted _ inductionHypothesis =>
      rw [List.forall_mem_cons] at back
      obtain ⟨whole, each⟩ := inductionHypothesis back.2
      refine ⟨fun ends => back.1 _ pivoted (whole ends), ?_⟩
      rw [List.forall_mem_cons]
      refine ⟨⟨fun ends next pivoted' => ?_, id⟩, fun visit member => ?_⟩
      · rw [pivoted] at pivoted'
        cases pivoted'
        exact whole ends
      · exact ⟨(each visit member).1, fun holds => back.1 _ pivoted ((each visit member).2 holds)⟩

/-- On a closed path, what every exchange takes back and one visit has, every visit has, before and
after its exchange. -/
theorem Path.everywhere_of_closed {Q : Basis p → Prop}
    (closed : Path options program start visits start)
    (back : ∀ visit ∈ visits, ∀ next,
      pivot options program visit.1 visit.2 = .exchange next → Q next → Q visit.1)
    {visit visit' : Visit K m p} (member : visit ∈ visits) (member' : visit' ∈ visits)
    (holds : Q visit.1) :
    Q visit'.1 ∧ ∀ next, pivot options program visit'.1 visit'.2 = .exchange next → Q next := by
  obtain ⟨_, each⟩ := closed.taken_back back
  have after := (each visit' member').1 ((each visit member).2 holds)
  obtain ⟨next, pivoted⟩ := closed.exists_pivot member'
  exact ⟨back visit' member' next pivoted (after next pivoted), after⟩

/-! ## Columns that enter and leave -/

/-- The column enters at the visit. -/
def Enters (options : Options K) (visit : Visit K m p) (j : Fin p) : Prop :=
  entering options.rule options.tol visit.2.reduced visit.1 = some j

/-- Column `j` enters at the visit and row `r` makes room for it. -/
structure Exchanges (options : Options K) (program : Program K m p) (visit : Visit K m p)
    (j : Fin p) (r : Fin m) : Prop where
  enters : Enters options visit j
  leaves : leaving options.tol visit.2.basic (visit.2.direction program j)
    (fun i => (visit.2.columns.get i).val) = some r

theorem exists_exchanges {visit : Visit K m p} {next : Basis p}
    (pivoted : pivot options program visit.1 visit.2 = .exchange next) :
    ∃ j r, Exchanges options program visit j r ∧
      next = visit.1.exchange j (visit.2.columns.get r) := by
  obtain ⟨j, r, enters, leaves, next_eq⟩ := pivot_eq_exchange pivoted
  exact ⟨j, r, ⟨enters, leaves⟩, next_eq⟩

/-- A column that is basic at one visit of a closed path and not at another enters at some visit. -/
theorem Path.exists_enters (closed : Path options program start visits start)
    {visit visit' : Visit K m p} (member : visit ∈ visits) (member' : visit' ∈ visits)
    {t : Fin p} (marked : visit.1.get t = true) (unmarked : visit'.1.get t = false) :
    ∃ visit ∈ visits, Enters options visit t := by
  by_contra never
  -- without entering, a column that is basic after an exchange was basic before it
  have back : ∀ visit ∈ visits, ∀ next,
      pivot options program visit.1 visit.2 = .exchange next →
        next.get t = true → visit.1.get t = true := by
    intro visit member next pivoted after
    obtain ⟨j, r, exchanges, rfl⟩ := exists_exchanges pivoted
    rw [Basis.get_exchange] at after
    split at after
    · cases after
    · split at after
      · rename_i _ enters
        exact absurd ⟨visit, member, enters ▸ exchanges.enters⟩ never
      · exact after
  have everywhere := (closed.everywhere_of_closed back member member' marked).1
  rw [unmarked] at everywhere
  cases everywhere

/-- A column that enters at a visit of a closed path makes room at another. -/
theorem Path.exists_exchanges_leaving (closed : Path options program start visits start)
    {visit : Visit K m p} (member : visit ∈ visits) {t : Fin p} (enters : Enters options visit t)
    (unmarked : visit.1.get t = false)
    (listed : ∀ visit ∈ visits, ∀ r, visit.1.get (visit.2.columns.get r) = true) :
    ∃ visit ∈ visits, ∃ j r, Exchanges options program visit j r ∧
      visit.2.columns.get r = t := by
  by_contra never
  -- without leaving, a column that is not basic after an exchange was not basic before it
  have back : ∀ visit ∈ visits, ∀ next,
      pivot options program visit.1 visit.2 = .exchange next →
        next.get t = false → visit.1.get t = false := by
    intro visit member next pivoted after
    obtain ⟨j, r, exchanges, rfl⟩ := exists_exchanges pivoted
    rw [Basis.get_exchange] at after
    split at after
    · rename_i leaves
      exact absurd ⟨visit, member, j, r, exchanges, leaves.symm⟩ never
    · split at after
      · cases after
      · exact after
  obtain ⟨next, pivoted⟩ := closed.exists_pivot member
  have outside := (closed.everywhere_of_closed back member member unmarked).2 next pivoted
  obtain ⟨j, r, exchanges, rfl⟩ := exists_exchanges pivoted
  have entered : j = t := Option.some.inj (exchanges.enters.symm.trans enters)
  have stays : t ≠ visit.2.columns.get r := by
    rintro rfl
    rw [listed visit member r] at unmarked
    cases unmarked
  rw [Basis.get_exchange, if_neg stays, if_pos entered.symm] at outside
  cases outside

end Closed

/-! ## Steps of length zero -/

section Steps

variable {K : Type} [ExactScalar K] {m p : Nat} {options : Options K} {program : Program K m p}
  {start : Basis p} {visits : List (Visit K m p)}

/-- From a feasible basis an exchange moves along an edge by a step that is not negative, and the
objective grows by the step times a positive rate. -/
theorem exists_gain {basis next : Basis p} {here : Solution K m p} (tol_pos : 0 < options.tol)
    (feasible : FeasibleBasis program basis) (solved : solution program basis = .ok here)
    (pivoted : pivot options program basis here = .exchange next) :
    ∃ (step rate : K) (edge : Fin p → K), 0 ≤ step ∧ 0 < rate ∧
      IsBasic program next (here.full.get + step • edge) ∧
      program.c.get ⬝ᵥ (here.full.get + step • edge) =
        program.c.get ⬝ᵥ here.full.get + step * rate := by
  have solves := solves_of_solution solved
  obtain ⟨j, r, outside, gains, steep, _, rfl⟩ := exchange_cases tol_pos solves pivoted
  have positive := tol_pos.trans steep
  refine ⟨here.basic.get r / (here.direction program j).get r, here.reduced.get j,
    here.edge program j, ?_, tol_pos.trans gains, solves.isBasic_exchange outside positive.ne', ?_⟩
  · rw [← solves.full_column]
    exact div_nonneg (feasible _ solves.basic _) positive.le
  · rw [dotProduct_add, dotProduct_smul, solves.dot_edge outside, smul_eq_mul]

/-- A closed path and what its visits have in common: a small tolerance, and feasible bases. -/
structure Closed (options : Options K) (program : Program K m p) (start : Basis p)
    (visits : List (Visit K m p)) : Prop where
  tol_pos : 0 < options.tol
  fine : FineAtAll options.tol program
  sharp : Sharp options.tol program
  feasible : FeasibleBasis program start
  path : Path options program start visits start

namespace Closed

variable {visit visit' : Visit K m p}

theorem visited (closed : Closed options program start visits) (member : visit ∈ visits) :
    FeasibleBasis program visit.1 ∧ solution program visit.1 = .ok visit.2 ∧
      ∃ next, pivot options program visit.1 visit.2 = .exchange next := by
  obtain ⟨feasible, solved⟩ := closed.path.visited
    (fun feasible solved pivoted =>
      feasible.exchange closed.tol_pos solved (closed.fine _ _ solved) pivoted)
    closed.feasible member
  exact ⟨feasible, solved, closed.path.exists_pivot member⟩

theorem solves (closed : Closed options program start visits) (member : visit ∈ visits) :
    Solves program visit.1 visit.2 :=
  solves_of_solution (closed.visited member).2.1

/-- The objective is bounded by its value at any visit. -/
theorem dot_le (closed : Closed options program start visits) (member : visit ∈ visits)
    (member' : visit' ∈ visits) :
    program.c.get ⬝ᵥ visit'.2.full.get ≤ program.c.get ⬝ᵥ visit.2.full.get := by
  have back : ∀ visit' ∈ visits, ∀ next,
      pivot options program visit'.1 visit'.2 = .exchange next →
        (∀ x, IsBasic program next x →
          program.c.get ⬝ᵥ x ≤ program.c.get ⬝ᵥ visit.2.full.get) →
        ∀ x, IsBasic program visit'.1 x →
          program.c.get ⬝ᵥ x ≤ program.c.get ⬝ᵥ visit.2.full.get := by
    intro visit' member' next pivoted bounded x basic
    obtain ⟨feasible, solved, -⟩ := closed.visited member'
    obtain ⟨step, rate, edge, step_nonneg, rate_pos, basic', dot_eq⟩ :=
      exists_gain closed.tol_pos feasible solved pivoted
    have moved := bounded _ basic'
    rw [dot_eq] at moved
    rw [IsBasic.unique (closed.solves member').independent basic (closed.solves member').basic]
    exact (le_add_of_nonneg_right (mul_nonneg step_nonneg rate_pos.le)).trans moved
  have here : ∀ x, IsBasic program visit.1 x →
      program.c.get ⬝ᵥ x ≤ program.c.get ⬝ᵥ visit.2.full.get := by
    intro x basic
    rw [IsBasic.unique (closed.solves member).independent basic (closed.solves member).basic]
  exact (closed.path.everywhere_of_closed back member member' here).1 _
    (closed.solves member').basic

/-- All bases of a closed path have the same solution. -/
theorem full_eq (closed : Closed options program start visits) (member : visit ∈ visits)
    (member' : visit' ∈ visits) : visit'.2.full.get = visit.2.full.get := by
  have back : ∀ visit' ∈ visits, ∀ next,
      pivot options program visit'.1 visit'.2 = .exchange next →
        (∀ x, IsBasic program next x → x = visit.2.full.get) →
        ∀ x, IsBasic program visit'.1 x → x = visit.2.full.get := by
    intro visit' member' next pivoted same x basic
    obtain ⟨feasible, solved, -⟩ := closed.visited member'
    obtain ⟨step, rate, edge, step_nonneg, rate_pos, basic', dot_eq⟩ :=
      exists_gain closed.tol_pos feasible solved pivoted
    have moved := same _ basic'
    -- the objective is the same before and after the exchange, so its step has length zero
    have still : step = 0 := by
      rw [moved] at dot_eq
      have unchanged := le_antisymm (closed.dot_le member member') (closed.dot_le member' member)
      have none : step * rate = 0 := by linarith
      exact (mul_eq_zero.mp none).resolve_right rate_pos.ne'
    rw [still, zero_smul, add_zero] at moved
    rw [← moved]
    exact IsBasic.unique (closed.solves member').independent basic (closed.solves member').basic
  have here : ∀ x, IsBasic program visit.1 x → x = visit.2.full.get := fun x basic =>
    IsBasic.unique (closed.solves member).independent basic (closed.solves member).basic
  exact (closed.path.everywhere_of_closed back member member' here).1 _
    (closed.solves member').basic

/-- A column that is basic at one visit and not at another is zero at every visit. -/
theorem full_eq_zero (closed : Closed options program start visits) (member : visit ∈ visits)
    (member' : visit' ∈ visits) {j : Fin p} (unmarked : visit.1.get j = false) :
    visit'.2.full.get j = 0 := by
  rw [closed.full_eq member member']
  exact (closed.solves member).basic.supported j unmarked

theorem exists_leaving (closed : Closed options program start visits) (member : visit ∈ visits)
    {t : Fin p} (enters : Enters options visit t) :
    ∃ visit ∈ visits, ∃ j r, Exchanges options program visit j r ∧
      visit.2.columns.get r = t :=
  closed.path.exists_exchanges_leaving member enters (entering_eq_some enters).1
    fun _ member r => (closed.solves member).lists.marked r

end Closed

end Steps

/-! ## The last of the columns that come and go -/

section FirstColumn

variable {K : Type} [ExactScalar K] {m p q : Nat} {options : Options K} {program : Program K m p}
  {start : Basis p} {visits : List (Visit K m p)}

/-- The rule of the first column leaves no earlier column that may enter. -/
theorem reduced_le_of_first {tol : K} {reduced : Vec K p} {basis : Basis p} {t j : Fin p}
    (chosen : entering .bland tol reduced basis = some t) (before : j < t)
    (outside : basis.get j = false) : reduced.get j ≤ tol := by
  by_contra above
  have member : j ∈ candidates tol reduced basis :=
    mem_candidates.mpr ⟨outside, lt_of_not_ge above⟩
  have ascending : (candidates tol reduced basis).Pairwise (· < ·) :=
    (List.pairwise_lt_finRange p).filter _
  unfold entering at chosen
  split at chosen
  · cases chosen
  · rename_i first rest listed
    cases chosen
    rw [listed] at member ascending
    rcases List.mem_cons.mp member with equal | later
    · exact absurd equal before.ne
    · exact lt_asymm before (List.rel_of_pairwise_cons ascending later)

/-- Some column enters on a path that goes anywhere, and one of those that enter is the last. -/
theorem Closed.exists_greatest (closed : Closed options program start visits)
    (nonempty : visits ≠ []) :
    ∃ t, (∃ visit ∈ visits, Enters options visit t) ∧
      ∀ j, (∃ visit ∈ visits, Enters options visit j) → j ≤ t := by
  obtain ⟨visit, member⟩ := List.exists_mem_of_ne_nil visits nonempty
  obtain ⟨-, -, next, pivoted⟩ := closed.visited member
  obtain ⟨j, r, exchanges, -⟩ := exists_exchanges pivoted
  exact Set.exists_max_image {t | ∃ visit ∈ visits, Enters options visit t} id
    (Set.toFinite _) ⟨j, visit, member, exchanges.enters⟩

/-- Along an edge that gains, some column changes against the sign of its reduced cost elsewhere. -/
theorem Solves.exists_pos_mul {basis : Basis p} {here : Solution K m p}
    (solves : Solves program basis here) {z : Fin p → K} (kernel : program.A.matrix *ᵥ z = 0)
    (grows : 0 < program.c.get ⬝ᵥ z) : ∃ j, 0 < here.reduced.get j * z j := by
  rw [solves.dot_of_kernel kernel] at grows
  obtain ⟨j, -, positive⟩ := Finset.exists_lt_of_sum_lt (s := Finset.univ)
    (f := fun _ => (0 : K)) (g := fun j => here.reduced.get j * z j)
    (by rw [Finset.sum_const_zero]; exact grows)
  exact ⟨j, positive⟩

/-- Let `t` be the last of the columns that enter on a closed path of the rule of the first column,
entering at `away` and making room for `s` at `visit`.  Then an earlier column that is basic at
`visit` but not at `away` decreases along the edge of `s`. -/
theorem Closed.exists_earlier (closed : Closed options program start visits)
    (first : options.rule = .bland) {away visit : Visit K m p} {s t : Fin p} {r : Fin m}
    (awayMember : away ∈ visits) (enters : Enters options away t) (member : visit ∈ visits)
    (exchanges : Exchanges options program visit s r) (leaves : visit.2.columns.get r = t)
    (greatest : ∀ j, (∃ visit ∈ visits, Enters options visit j) → j ≤ t) :
    ∃ j < t, away.1.get j = false ∧ visit.1.get j = true ∧ visit.2.edge program s j < 0 := by
  have tol_pos := closed.tol_pos
  have solves := closed.solves member
  have awaySolves := closed.solves awayMember
  obtain ⟨-, awayGains⟩ := entering_eq_some enters
  obtain ⟨outside, gains⟩ := entering_eq_some exchanges.enters
  obtain ⟨steep, -⟩ := leaving_eq_some tol_pos (ascending_columns solves) exchanges.leaves
  -- measured by the reduced costs of `away`, the edge of `s` gains through some column
  obtain ⟨j, gaining⟩ := awaySolves.exists_pos_mul (solves.mulVec_edge s)
    ((solves.dot_edge outside).symm ▸ tol_pos.trans gains)
  have unmarked : away.1.get j = false := by
    rw [← Bool.not_eq_true]
    intro marked
    rw [awaySolves.reduced_eq_zero j marked, zero_mul] at gaining
    exact lt_irrefl 0 gaining
  have onEdge : j = s ∨ visit.1.get j = true := by
    by_contra neither
    rw [not_or, Bool.not_eq_true] at neither
    rw [solves.edge_other neither.2 neither.1, mul_zero] at gaining
    exact lt_irrefl 0 gaining
  have before : j < t := by
    apply lt_of_le_of_ne
    · apply greatest
      rcases onEdge with rfl | marked
      · exact ⟨visit, member, exchanges.enters⟩
      · exact closed.path.exists_enters member awayMember marked unmarked
    · rintro rfl
      rw [← leaves, solves.edge_column outside, mul_neg, neg_pos, leaves] at gaining
      exact lt_asymm gaining (mul_pos (tol_pos.trans awayGains) (tol_pos.trans steep))
  -- an earlier column was not worth entering at `away`, so it gains only by decreasing
  have loses : away.2.reduced.get j ≤ 0 := by
    by_contra positive
    have above := closed.sharp _ _ (closed.visited awayMember).2.1 j (lt_of_not_ge positive)
    unfold Enters at enters
    rw [first] at enters
    exact absurd above (not_lt_of_ge (reduced_le_of_first enters before unmarked))
  have decreases : visit.2.edge program s j < 0 := by
    by_contra nonneg
    exact absurd gaining
      (not_lt_of_ge (mul_nonpos_of_nonpos_of_nonneg loses (le_of_not_gt nonneg)))
  refine ⟨j, before, unmarked, ?_, decreases⟩
  rcases onEdge with rfl | marked
  · rw [solves.edge_entering outside] at decreases
    exact absurd decreases (not_lt_of_ge zero_le_one)
  · exact marked

/-- With the rule of the first column only the path that goes nowhere is closed. -/
theorem Closed.eq_nil_of_first (closed : Closed options program start visits)
    (first : options.rule = .bland) : visits = [] := by
  by_contra nonempty
  obtain ⟨t, ⟨away, awayMember, enters⟩, greatest⟩ := closed.exists_greatest nonempty
  obtain ⟨visit, member, s, r, exchanges, leaves⟩ := closed.exists_leaving awayMember enters
  have solves := closed.solves member
  obtain ⟨awayOutside, -⟩ := entering_eq_some enters
  obtain ⟨outside, -⟩ := entering_eq_some exchanges.enters
  obtain ⟨-, beaten⟩ :=
    leaving_eq_some closed.tol_pos (ascending_columns solves) exchanges.leaves
  obtain ⟨j, before, unmarked, marked, decreases⟩ :=
    closed.exists_earlier first awayMember enters member exchanges leaves greatest
  obtain ⟨i, rfl⟩ := (solves.lists.marked_iff j).mp marked
  rw [solves.edge_column outside, neg_lt_zero] at decreases
  have steep := (closed.fine _ _ (closed.visited member).2.1).steep s i decreases
  have earlier : i < r := by
    rw [← leaves] at before
    exact solves.lists.strictMono.lt_iff_lt.mp before
  -- both rows have the ratio zero, and the scan meets row `i` first
  have less := (beaten i steep).2 earlier
  rw [rowRatio, rowRatio, ← solves.full_column, ← solves.full_column, leaves,
    closed.full_eq_zero awayMember member awayOutside,
    closed.full_eq_zero awayMember member unmarked, zero_div, zero_div] at less
  exact lt_irrefl 0 less

/-! ## The recorded bases -/

/-- A path of the rule of the first column from a feasible basis visits no basis twice. -/
theorem Path.nodup_bases_of_first (first : options.rule = .bland) (tol_pos : 0 < options.tol)
    (fine : FineAtAll options.tol program) (sharp : Sharp options.tol program) {last : Basis p}
    (path : Path options program start visits last) (feasible : FeasibleBasis program start) :
    (visits.map Prod.fst ++ [last]).Nodup := by
  refine path.nodup_bases
    (fun feasible solved pivoted =>
      feasible.exchange tol_pos solved (fine _ _ solved) pivoted) ?_ feasible
  intro basis visits feasible nonempty closed
  exact nonempty (Closed.eq_nil_of_first ⟨tol_pos, fine, sharp, feasible, closed⟩ first)

omit [ExactScalar K] in
theorem Basis.text_injective : Function.Injective (Basis.text : Basis p → String) := by
  intro basis basis' equal
  have digits : Function.Injective fun flag : Bool => if flag then '1' else '0' := by decide
  exact Vector.toList_inj.mp (List.map_injective_iff.mpr digits (String.ofList_injective equal))

/-- The texts of the recorded bases of a phase. -/
def Phase.texts (phase : Phase K p q) : List String :=
  phase.vertices.map fun vertex => vertex.basis.text

/-- A phase with the rule of the first column records no basis twice, however it ends. -/
theorem Phase.nodup_texts_of_first (first : options.rule = .bland) (tol_pos : 0 < options.tol)
    (fine : FineAtAll options.tol program) (sharp : Sharp options.tol program) (cap : Int)
    (view : Vec K p → Vec K q) (size : start.members.length = m)
    (feasible : FeasibleBasis program start) :
    (Phase.run options cap program view start).texts.Nodup := by
  obtain ⟨visits, last, path, ends⟩ := Phase.run_path options cap program view size
  have nodup := path.nodup_bases_of_first first tol_pos fine sharp feasible
  generalize Phase.run options cap program view start = phase at ends ⊢
  have bases : (phase.vertices.map Vertex.basis).Nodup := nodup.sublist ends.bases_prefix.sublist
  rw [Phase.texts, ← Function.comp_def, ← List.map_map]
  exact bases.map Basis.text_injective

end FirstColumn

/-! ## The bases of a run -/

section Runs

variable {K : Type} [ExactScalar K] {m n : Nat} {options : Options K} {cap : Int}
  {problem : Problem K m n}

/-- The second phase of a run that goes on starts from a feasible basis. -/
theorem GoesOn.feasibleBasis {run : Run K m n} {last : Basis (n + n + m + m)}
    {here : Solution K m (n + n + m + m)} (goesOn : GoesOn options cap problem run last here)
    (tol_pos : 0 < options.tol) (fine : FineAtAll options.tol (phaseOne problem)) :
    FeasibleBasis (phaseTwo problem) (replaced last).basis := by
  obtain ⟨visits, path, -⟩ := goesOn.recorded
  exact (path.feasibleBasis tol_pos fine (feasibleBasis_artificialBasis problem)).replaced
    goesOn.solved (fine _ _ goesOn.solved) goesOn.below

theorem nodup_first_texts (first : options.rule = .bland) (tol_pos : 0 < options.tol)
    (small : Small options.tol problem) (cap : Int) :
    (solve options cap problem).first.texts.Nodup := by
  have run_first : (solve options cap problem).first =
      Phase.run options cap (phaseOne problem) viewOne (artificialBasis m n) := by
    obtain ⟨phase, phase_eq, ⟨_, _, run_eq⟩ | ⟨_, _, ⟨_, _, _, run_eq⟩ |
      ⟨_, _, _, _, _, run_eq⟩⟩⟩ := solve_cases options cap problem
    all_goals
      rw [run_eq]
      exact phase_eq
  rw [run_first]
  exact Phase.nodup_texts_of_first first tol_pos small.fineOne small.sharpOne cap viewOne
    (regular_artificialBasis problem).size (feasibleBasis_artificialBasis problem)

theorem nodup_second_texts (first : options.rule = .bland) (tol_pos : 0 < options.tol)
    (small : Small options.tol problem) (cap : Int) :
    ((solve options cap problem).secondVertices.map fun vertex => vertex.basis.text).Nodup := by
  unfold Run.secondVertices
  rcases goesOn_cases tol_pos cap problem with ⟨none, _⟩ | ⟨last, here, goesOn⟩
  · rw [none]
    exact List.nodup_nil
  · rw [goesOn.second]
    exact Phase.nodup_texts_of_first first tol_pos small.fineTwo small.sharpTwo cap unsplit
      goesOn.regular.replaced.size (goesOn.feasibleBasis tol_pos small.fineOne)

end Runs

variable {m n : Nat}

/-- Over the fractions, every problem has a bound on the tolerance below which the rule of the first
column does not cycle: among the texts of the bases of a run, however it ends, no text occurs twice
before the boundary between the phases, nor twice behind it. -/
theorem solve_bases_nodup_of_first (problem : Problem Rat m n) :
    ∃ bound : Rat, 0 < bound ∧
      ∀ options : Options Rat, 0 < options.tol → options.tol < bound → options.rule = .bland →
        ∀ cap : Int,
          ((solve options cap problem).bases.take
            (solve options cap problem).firstPoints.length).Nodup ∧
          ((solve options cap problem).bases.drop
            (solve options cap problem).firstPoints.length).Nodup := by
  obtain ⟨bound, bound_pos, small⟩ := exists_small problem
  refine ⟨bound, bound_pos, fun options tol_pos below first cap => ?_⟩
  have small := small options.tol tol_pos below
  have boundary : (solve options cap problem).firstPoints.length =
      (solve options cap problem).first.texts.length := by
    rw [Run.firstPoints, Phase.texts, List.length_map, List.length_map]
  have bases_eq : (solve options cap problem).bases = (solve options cap problem).first.texts ++
      (solve options cap problem).secondVertices.map fun vertex => vertex.basis.text := rfl
  rw [boundary, bases_eq]
  constructor
  · rw [List.take_left' rfl]
    exact nodup_first_texts first tol_pos small cap
  · rw [List.drop_left' rfl]
    exact nodup_second_texts first tol_pos small cap

end PolyTrace.Simplex
