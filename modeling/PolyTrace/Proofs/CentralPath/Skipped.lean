import Mathlib
import PolyTrace.Proofs.CentralPath.Course
import PolyTrace.Proofs.Service.Runs

/-!
# Skipped levels

A skipped level leaves no trace in the path: its steps are undone, its warning is not among the
lines of the log, and the lines are numbered by the kept levels alone.  The levels of a schedule are
dealt out, in their order, to the kept and the skipped ones, and the kept ones form the same course
when the others are left out of the schedule.

What is shown of a level is shown of a course, by induction on it: one case for each way a level
can end.
-/

namespace PolyTrace

/-- The members of two lists, each in its order, make up a third. -/
inductive Interleaving {α : Type} : List α → List α → List α → Prop
  | nil : Interleaving [] [] []
  | left {first second whole : List α} (a : α) (rest : Interleaving first second whole) :
      Interleaving (a :: first) second (a :: whole)
  | right {first second whole : List α} (a : α) (rest : Interleaving first second whole) :
      Interleaving first (a :: second) (a :: whole)

namespace Interleaving

variable {α : Type} {first second whole : List α} {last : α}

theorem mem_of_mem_left (interleaved : Interleaving first second whole) {a : α} (mem : a ∈ first) :
    a ∈ whole := by
  induction interleaved with
  | nil => exact mem
  | left b _ inductionHypothesis =>
      rcases List.mem_cons.mp mem with rfl | later
      · exact List.mem_cons_self
      · exact List.mem_cons_of_mem _ (inductionHypothesis later)
  | right b _ inductionHypothesis => exact List.mem_cons_of_mem _ (inductionHypothesis mem)

/-- The last member of the whole is the last of one of the two lists. -/
theorem last_left_or_right {front : List α}
    (interleaved : Interleaving first second (front ++ [last])) :
    (∃ before, first = before ++ [last] ∧ Interleaving before second front) ∨
      ∃ before, second = before ++ [last] ∧ Interleaving first before front := by
  induction front generalizing first second with
  | nil =>
      cases interleaved with
      | left _ rest =>
          cases rest
          exact .inl ⟨[], rfl, .nil⟩
      | right _ rest =>
          cases rest
          exact .inr ⟨[], rfl, .nil⟩
  | cons a front inductionHypothesis =>
      cases interleaved with
      | left _ rest =>
          rcases inductionHypothesis rest with ⟨before, rfl, onward⟩ | ⟨before, rfl, onward⟩
          · exact .inl ⟨a :: before, rfl, .left a onward⟩
          · exact .inr ⟨before, rfl, .left a onward⟩
      | right _ rest =>
          rcases inductionHypothesis rest with ⟨before, rfl, onward⟩ | ⟨before, rfl, onward⟩
          · exact .inl ⟨before, rfl, .right a onward⟩
          · exact .inr ⟨a :: before, rfl, .right a onward⟩

end Interleaving

namespace CentralPath

/-! ## The kept levels -/

section Levels

variable {K : Type} {n : Nat}

/-- The level was kept. -/
def Level.isKept : Level K n → Bool
  | kept _ _ _ _ => true
  | skipped _ _ => false

/-- What only kept levels have is the same without the skipped ones. -/
theorem filterMap_isKept {β : Type} {f : Level K n → Option β}
    (vanishes : ∀ mu reason, f (.skipped mu reason) = none) (found : List (Level K n)) :
    (found.filter Level.isKept).filterMap f = found.filterMap f := by
  induction found with
  | nil => rfl
  | cons level rest inductionHypothesis =>
      cases level with
      | kept mu next value objective =>
          rw [List.filter_cons_of_pos rfl, List.filterMap_cons, List.filterMap_cons,
            inductionHypothesis]
      | skipped mu reason =>
          rw [List.filter_cons_of_neg (by simp [Level.isKept]), inductionHypothesis,
            List.filterMap_cons_none (vanishes mu reason)]

/-- Among the kept levels none is skipped. -/
theorem filterMap_skippedMu?_isKept (found : List (Level K n)) :
    (found.filter Level.isKept).filterMap Level.skippedMu? = [] := by
  induction found with
  | nil => rfl
  | cons level rest inductionHypothesis =>
      cases level with
      | kept mu next value objective => exact inductionHypothesis
      | skipped mu reason => exact inductionHypothesis

/-- The warnings about skipped levels are no lines, and do not count in the numbers of the lines. -/
theorem lines_levelNotes_isKept [Analytic K] [ReadsOut K] (count : Nat) (found : List (Level K n)) :
    Note.lines (levelNotes count (found.filter Level.isKept)) =
      Note.lines (levelNotes count found) := by
  induction found generalizing count with
  | nil => rfl
  | cons level rest inductionHypothesis =>
      cases level with
      | kept mu next value objective =>
          exact congrArg (List.cons _) (inductionHypothesis (count + 1))
      | skipped mu reason => exact inductionHypothesis count

end Levels

variable {K : Type} [Analytic K] {m n : Nat} {options : Options K} {problem : Weighted K m n}
  {tried : List K} {x : Vec K n} {found : List (Level K n)}

namespace Course

/-- Each level of the schedule is kept or skipped. -/
theorem interleaving (course : Course options problem tried x found) :
    Interleaving (found.filterMap Level.keptMu?) (found.filterMap Level.skippedMu?) tried := by
  induction course with
  | finished x => exact .nil
  | kept _ _ inductionHypothesis => exact .left _ inductionHypothesis
  | exhausted _ _ inductionHypothesis => exact .right _ inductionHypothesis
  | failed _ _ inductionHypothesis => exact .right _ inductionHypothesis

/-- The kept levels of a course are a course themselves, from the same point. -/
theorem isKept (course : Course options problem tried x found) :
    Course options problem (found.filterMap Level.keptMu?) x (found.filter Level.isKept) := by
  induction course with
  | finished x => exact .finished x
  | kept converged _ inductionHypothesis => exact .kept converged inductionHypothesis
  | exhausted _ _ inductionHypothesis => exact inductionHypothesis
  | failed _ _ inductionHypothesis => exact inductionHypothesis

end Course

/-! ## Complete paths -/

theorem Path.complete_iff {path : Path K n} :
    path.complete = true ↔ ∃ kept last, path.mu.getLast? = some kept ∧
      path.schedule.getLast? = some last ∧ Scalar.Same kept last := by
  unfold Path.complete
  split <;> rename_i found
  · rename_i last tried
    simp [found, tried]
  · constructor
    · nofun
    · rintro ⟨kept, last, isLast, isTried, -⟩
      exact absurd isTried (found kept last isLast)

/-- On a schedule of different levels, a path is complete when the last of them is among the kept
ones. -/
theorem Path.complete_iff_of_pairwise {path : Path K n}
    (interleaved : Interleaving path.mu path.skipped path.schedule)
    (distinct : path.schedule.Pairwise fun a b => ¬ Scalar.Same a b) :
    path.complete = true ↔ ∃ last, path.schedule.getLast? = some last ∧
      ∃ kept ∈ path.mu, Scalar.Same kept last := by
  rw [complete_iff]
  constructor
  · rintro ⟨kept, last, isLast, isTried, same⟩
    exact ⟨last, isTried, kept, List.mem_of_getLast? isLast, same⟩
  · rintro ⟨last, isTried, kept, mem, same⟩
    obtain ⟨front, ends⟩ := List.getLast?_eq_some_iff.mp isTried
    rw [ends] at interleaved distinct
    -- no level before the last of the schedule has its value
    have different : ∀ level ∈ front, ¬ Scalar.Same level last := fun level earlier =>
      (List.pairwise_append.mp distinct).2.2 level earlier last List.mem_cons_self
    rcases interleaved.last_left_or_right with ⟨before, keptEnds, onward⟩ | ⟨before, -, onward⟩
    · refine ⟨last, last, by simp [keptEnds], isTried, ?_⟩
      rw [keptEnds] at mem
      rcases List.mem_append.mp mem with earlier | atEnd
      · exact absurd same (different kept (onward.mem_of_mem_left earlier))
      · exact List.mem_singleton.mp atEnd ▸ same
    · exact absurd same (different kept (onward.mem_of_mem_left mem))

/-! ## Leaving out the skipped levels -/

/-- A path through a schedule of different levels exists wherever there are rows and unknowns; that
of `trace` goes through the schedule for a count of levels.  Its levels are dealt out to the kept and
the skipped ones.  On the kept levels alone, the same method from the same start skips nothing and
gives the same points, barrier objectives and lines.  The path is complete exactly when the last
level of the schedule was kept. -/
theorem levels_without_skipped [ReadsOut K] {start : Vec K n}
    (distinct : tried.Pairwise fun a b => ¬ Scalar.Same a b) :
    (0 < m → 0 < n → ∃ found, levels options problem tried start = .ok found) ∧
      ∀ found, levels options problem tried start = .ok found →
        let path : Path K n := ⟨tried, found⟩
        Interleaving path.mu path.skipped tried ∧
          (∃ again, levels options problem path.mu start = .ok again ∧
            let rerun : Path K n := ⟨path.mu, again⟩
            rerun.skipped = [] ∧ rerun.mu = path.mu ∧ rerun.points = path.points ∧
              rerun.barriers = path.barriers ∧
              Note.lines (levelNotes 0 again) = Note.lines (levelNotes 0 found)) ∧
          (path.complete = true ↔ ∃ last, tried.getLast? = some last ∧
            ∃ kept ∈ path.mu, Scalar.Same kept last) := by
  refine ⟨fun rows unknowns => exists_levels rows unknowns options problem tried start,
    fun found solved => ?_⟩
  intro path
  have course := levels_eq_ok_iff.mp solved
  have interleaved : Interleaving path.mu path.skipped tried := course.interleaving
  refine ⟨interleaved, ⟨_, levels_eq_ok_iff.mpr course.isKept, ?_⟩,
    path.complete_iff_of_pairwise interleaved distinct⟩
  exact ⟨filterMap_skippedMu?_isKept found, filterMap_isKept (fun _ _ => rfl) found,
    filterMap_isKept (fun _ _ => rfl) found, filterMap_isKept (fun _ _ => rfl) found,
    lines_levelNotes_isKept 0 found⟩

/-- Two walls whose weights cancel in the curvature at the origin, where the objective is balanced
by the barrier at the level `1` alone. -/
def cancelling : Weighted Float 2 1 where
  A := #v[#v[3], #v[-3]]
  b := #v[3, 3]
  c := #v[4]
  w := #v[2, -2]

/-- The settings of a path that takes few steps. -/
def fewSteps : Options Float where
  niter := 2
  maxit := 5
  epsilon := 1e-6

/-- At the level `2` the origin is not stationary, and there is no step to take. -/
theorem cancelling_newton_two :
    newton cancelling fewSteps.epsilon 2 fewSteps.maxit #v[0] = .ok (.failed (.singular 0 0)) := by
  have moving : isStationary fewSteps.epsilon (gradient cancelling 2 #v[0]) = .ok false := by
    decide +kernel
  have stuck : newtonNext cancelling 2 #v[0] (gradient cancelling 2 #v[0]) =
      .error (.failure (.singular 0 0)) := by
    decide +kernel
  unfold newton
  dsimp only
  rw [moving, stuck]
  rfl

/-- At the level `1` the origin is stationary. -/
theorem cancelling_newton_one :
    newton cancelling fewSteps.epsilon 1 fewSteps.maxit #v[0] = .ok (.converged #v[0]) :=
  newton_of_isStationary (by decide +kernel)

theorem cancelling_without_skipped :
    ([2, 1] : List Float).Pairwise (fun a b => ¬ Scalar.Same a b) ∧
      ∃ found, levels fewSteps cancelling [2, 1] #v[0] = .ok found ∧
        let path : Path Float 1 := ⟨[2, 1], found⟩
        path.mu = [1] ∧ path.skipped = [2] ∧ Interleaving path.mu path.skipped [2, 1] ∧
          (path.complete = true ↔ ∃ last, ([2, 1] : List Float).getLast? = some last ∧
            ∃ kept ∈ path.mu, Scalar.Same kept last) := by
  have distinct : ([2, 1] : List Float).Pairwise fun a b => ¬ Scalar.Same a b := by
    decide +kernel
  have solved := levels_eq_ok_iff.mpr
    (.failed cancelling_newton_two (.kept cancelling_newton_one (.finished #v[0])))
  obtain ⟨interleaved, -, complete⟩ := (levels_without_skipped distinct).2 _ solved
  exact ⟨distinct, _, solved, rfl, rfl, interleaved, complete⟩

end CentralPath

end PolyTrace
