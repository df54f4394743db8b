import PolyTrace.Engine.Simplex.Pivot

/-!
# Pivoting to optimality

A phase maximises `c · t` over the nonnegative solutions of `A t = b`, from a basis on.  At each
basis it solves for the basic values and for the reduced costs, records where it stands, and
exchanges one column.  It ends at a basis without entering column, or in a failure; the recorded
vertices are kept in either case.
-/

namespace PolyTrace.Simplex

variable {K : Type} [Scalar K] {m p q : Nat}

/-- A recorded basis, the point it stands for and its objective. -/
structure Vertex (K : Type) (p q : Nat) where
  basis : Basis p
  point : Vec K q
  objective : K

/-- The basic solution of a basis. -/
structure Solution (K : Type) (m p : Nat) where
  columns : Vector (Fin p) m
  factors : Elimination K m
  basic : Vec K m
  full : Vec K p
  reduced : Vec K p
  objective : K

/-- The vector with `values` in the given columns and zeros elsewhere. -/
def scatter (columns : Vector (Fin p) m) (values : Vec K m) : Vec K p :=
  Fin.foldl m (fun x i => Vec.put x (columns i) (values i)) (Vec.zero p)

/-- The basic solution with the given columns. -/
def solutionAt (program : Program K m p) (columns : Vector (Fin p) m) :
    Except (Failure K) (Solution K m p) :=
  (factorize (program.A.columns columns)).map fun factors =>
    let basic := factors.solve program.b
    let full := scatter columns basic
    let prices := factors.solveTranspose (columns.map fun j => program.c j)
    { columns := columns
      factors := factors
      basic := basic
      full := full
      reduced := program.c.sub (program.A.transposeMulVec prices)
      objective := program.c.dot full }

/-- The basic solution of a basis with one column for each row. -/
def solution (program : Program K m p) (basis : Basis p) :
    Except (Failure K) (Solution K m p) :=
  if size : basis.members.length = m then
    solutionAt program ⟨basis.members.toArray, by simpa using size⟩
  else .error (.wrongBasis basis.members.length (.whole m) basis.text)

/-- The place where a phase ended. -/
structure Final (K : Type) (p : Nat) where
  basis : Basis p
  full : Vec K p
  objective : K
  iterations : Nat

/-- What a phase went through and how it ended. -/
structure Phase (K : Type) (p q : Nat) where
  vertices : List (Vertex K p q)
  outcome : Except (Failure K) (Final K p)

/-- What follows from one basis: the end of the phase, or the next basis. -/
inductive Pivot (K : Type) (p : Nat) where
  | optimal
  | unbounded
  | exchange (next : Basis p)

/-- The exchange made at a basic solution. -/
def pivot (options : Options K) (program : Program K m p) (basis : Basis p)
    (here : Solution K m p) : Pivot K p :=
  match entering options.rule options.tol here.reduced basis with
  | none => .optimal
  | some j =>
    let direction := here.factors.solve (program.A.column j)
    match leaving options.tol here.basic direction (fun i => (here.columns i).val) with
    | none => .unbounded
    | some r => .exchange (basis.exchange j (here.columns r))

/-- Pivot from `basis` at most `fuel` more times.  `view` is the point shown for a solution. -/
def Phase.loop (options : Options K) (cap : Int) (program : Program K m p)
    (view : Vec K p → Vec K q) :
    (fuel : Nat) → Basis p → Array (Vertex K p q) → Phase K p q
  | 0, _, seen => ⟨seen.toList, .error (.stalled cap)⟩
  | fuel + 1, basis, seen =>
    match solution program basis with
    | .error cause => ⟨seen.toList, .error cause⟩
    | .ok here =>
      let seen := seen.push ⟨basis, view here.full, here.objective⟩
      match pivot options program basis here with
      | .optimal => ⟨seen.toList, .ok ⟨basis, here.full, here.objective, seen.size⟩⟩
      | .unbounded => ⟨seen.toList, .error .unbounded⟩
      | .exchange next => Phase.loop options cap program view fuel next seen

/-- Pivot from `basis` until the end, with at most `cap` recorded vertices. -/
def Phase.run (options : Options K) (cap : Int) (program : Program K m p)
    (view : Vec K p → Vec K q) (basis : Basis p) : Phase K p q :=
  match basis.check m with
  | .error cause => ⟨[], .error cause⟩
  | .ok () => Phase.loop options cap program view cap.toNat basis #[]

end PolyTrace.Simplex
