import Mathlib
import PolyTrace.Proofs.Simplex.PhaseBoundary

/-!
# What a run keeps

A property of bases that the artificial basis has, that every exchange preserves and that the
hand-over carries to the bases of the second phase holds of every basis that a run records.  When a
basis with the property can be solved for or fails in an allowed way, and stalled and unbounded
phases are allowed, the run ends well or fails in an allowed way.
-/

namespace PolyTrace.Simplex

variable {K : Type} [Scalar K] {m n p q : Nat}

section Phases

variable {options : Options K} {program : Program K m p} {Inv : Basis p → Prop}
  {Allowed : Failure K → Prop}

/-- Bases with the property have one member for each row, an exchange preserves the property, and a
basis that has it and cannot be solved for fails in an allowed way. -/
structure Preserved (options : Options K) (program : Program K m p) (Inv : Basis p → Prop)
    (Allowed : Failure K → Prop) : Prop where
  size : ∀ {basis}, Inv basis → basis.members.length = m
  exchange : ∀ {basis here next}, Inv basis → solution program basis = .ok here →
    pivot options program basis here = .exchange next → Inv next
  unsolved : ∀ {basis cause}, Inv basis → solution program basis = .error cause → Allowed cause

/-- The recorded bases and the last one have the property, and a failure is an allowed one. -/
structure Phase.Keeps (Inv : Basis p → Prop) (Allowed : Failure K → Prop) (phase : Phase K p q) :
    Prop where
  vertices : ∀ vertex ∈ phase.vertices, Inv vertex.basis
  final : ∀ final, phase.outcome = .ok final → Inv final.basis
  failure : ∀ cause, phase.outcome = .error cause → Allowed cause

theorem Phase.keeps_run (preserved : Preserved options program Inv Allowed) {cap : Int}
    (stalled : Allowed (.stalled cap)) (unbounded : Allowed .unbounded)
    (view : Vec K p → Vec K q) {start : Basis p} (inv : Inv start) :
    (Phase.run options cap program view start).Keeps Inv Allowed := by
  obtain ⟨visits, last, path, ends⟩ :=
    Phase.run_path options cap program view (preserved.size inv)
  have visited := path.forall_visited preserved.exchange inv
  have atLast := path.preserves preserved.exchange inv
  generalize Phase.run options cap program view start = phase at ends ⊢
  constructor
  · intro vertex member
    exact visited _ (ends.bases_prefix.subset (List.mem_map_of_mem member))
  · intro final finished
    obtain ⟨_, _, basis_eq, _⟩ := ends.final_eq finished
    rw [basis_eq]
    exact atLast
  · intro cause failed
    cases ends with
    | stalled _ =>
        cases failed
        exact stalled
    | unbounded _ _ =>
        cases failed
        exact unbounded
    | unsolved unsolved =>
        cases failed
        exact preserved.unsolved atLast unsolved
    | optimal _ _ => cases failed

end Phases

section Runs

variable {options : Options K} {cap : Int} {problem : Problem K m n}
  {One : Basis (n + n + m + m) → Prop} {Two : Basis (n + n + m) → Prop}
  {Allowed : Failure K → Prop}

/-- A hand-over from a basis with the first property fails in an allowed way or leads to a basis
with the second. -/
inductive Carried (Two : Basis (n + n + m) → Prop) (Allowed : Failure K → Prop) :
    Except (Failure K) (Basis (n + n + m)) → Prop
  | refused {cause : Failure K} (allowed : Allowed cause) : Carried Two Allowed (.error cause)
  | passed {start : Basis (n + n + m)} (inv : Two start) : Carried Two Allowed (.ok start)

/-- The bases that are recorded in each phase have its property, and so has the one that is handed
over, from which the second phase starts; a failure is an allowed one. -/
structure Run.Keeps (options : Options K) (cap : Int) (problem : Problem K m n)
    (One : Basis (n + n + m + m) → Prop) (Two : Basis (n + n + m) → Prop)
    (Allowed : Failure K → Prop) (run : Run K m n) : Prop where
  first : ∀ vertex ∈ run.first.vertices, One vertex.basis
  between : ∀ changes start, run.between = some ⟨changes, .ok start⟩ → Two start
  began : ∀ phase, run.second = some phase →
    ∃ start, Two start ∧ phase = Phase.run options cap (phaseTwo problem) unsplit start
  second : ∀ vertex ∈ run.secondVertices, Two vertex.basis
  failure : ∀ cause, run.outcome = .error cause → Allowed cause

theorem keeps_solve (one : Preserved options (phaseOne problem) One Allowed)
    (two : Preserved options (phaseTwo problem) Two Allowed) (stalled : Allowed (.stalled cap))
    (unbounded : Allowed .unbounded) (start : One (artificialBasis m n))
    (carried : ∀ {basis}, One basis → ∀ x objective,
      Carried Two Allowed (handover options.tol basis x objective).outcome) :
    (solve options cap problem).Keeps options cap problem One Two Allowed := by
  have keeps := Phase.keeps_run one stalled unbounded viewOne start
  obtain ⟨first, first_eq, ⟨cause, failed, run_eq⟩ | ⟨final, ended,
    ⟨changes, cause, handed, run_eq⟩ | ⟨changes, next, second, handed, second_eq, run_eq⟩⟩⟩ :=
      solve_cases options cap problem
  all_goals
    rw [← first_eq] at keeps
    rw [run_eq]
  · constructor
    · exact keeps.vertices
    · nofun
    · nofun
    · nofun
    · rintro reason same
      cases same
      exact keeps.failure cause failed
  · have outcome := carried (keeps.final final ended) final.full final.objective
    rw [handed] at outcome
    obtain allowed | _ := outcome
    constructor
    · exact keeps.vertices
    · nofun
    · nofun
    · nofun
    · rintro reason same
      cases same
      exact allowed
  · have outcome := carried (keeps.final final ended) final.full final.objective
    rw [handed] at outcome
    obtain _ | inv := outcome
    have keepsSecond := Phase.keeps_run two stalled unbounded unsplit inv
    rw [← second_eq] at keepsSecond
    constructor
    · exact keeps.vertices
    · rintro _ _ same
      cases same
      exact inv
    · rintro phase same
      cases same
      exact ⟨next, inv, second_eq⟩
    · exact keepsSecond.vertices
    · exact keepsSecond.failure

end Runs

end PolyTrace.Simplex
