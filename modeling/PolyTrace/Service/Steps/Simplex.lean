import PolyTrace.Data.LinearSystem
import PolyTrace.Service.Session

/-!
# Single steps of the simplex method

The two pivot rules, the check of a basis, the hand-over between the phases and a whole phase can be
asked for on arrays from outside.  Arrays that fit together are handed to the engine's own step.  The
others are worked with as far as their shapes allow: the flags and the reduced costs are repeated to
a common shape, a column or a row is picked by its place in the flattened array, and an index counts
along the first dimension.
-/

namespace PolyTrace.Simplex

/-- The settings that data asks for. -/
def optionsAt (data : Datum) : Except (Failure Float) (Options Float) :=
  match EngineOptions.resolve .simplex data with
  | .ok (.simplex options) => .ok options
  | .ok _ => .ok Options.standard
  | .error cause => .error cause

/-- Flags as a basis of the given size. -/
def basisOf (flags : List Bool) (p : Nat) : Basis p :=
  Vector.ofFn fun j => flags.getD j.val false

/-- An array of flags as a basis, if it is one. -/
def basisAt? (mask : Tensor Bool) (p : Nat) : Option (Basis p) :=
  if mask.shape = [p] then some (basisOf mask.entries.toList p) else none

/-! ## The entering column -/

/-- The place of the first largest number; an undefined number counts as larger than all others. -/
def largestPlace (values : List Float) : Option Nat :=
  let better (best : Option (Nat × Float)) (entry : Float × Nat) : Option (Nat × Float) :=
    match best with
    | none => some (entry.2, entry.1)
    | some (place, value) =>
      if Scalar.Undefined value ∨ entry.1 ≤ value then some (place, value)
      else some (entry.2, entry.1)
  (values.zipIdx.foldl better none).map Prod.fst

/-- The places that may enter: unmarked, and of reduced cost above the tolerance. -/
def candidatePlaces (tol : Float) (reduced : Tensor Float) (mask : Tensor Bool) :
    Except Fault (List Nat) :=
  match Tensor.common? mask.shape reduced.shape with
  | none => .error .shapes
  | some shape =>
    let marked := (mask.spreadTo false shape).entries
    let costs := (reduced.spreadTo 0 shape).entries
    .ok ((List.range (Tensor.count shape)).filter fun k =>
      !marked.getD k false && decide (tol < costs.getD k 0))

/-- The place that enters, for arrays of any shape. -/
def enteringPlace (options : Options Float) (reduced : Tensor Float) (mask : Tensor Bool) :
    Except Fault (Option Nat) := do
  let places ← candidatePlaces options.tol reduced mask
  match places, options.rule with
  | [], _ => return none
  | first :: _, .bland => return some first
  | _, .dantzig =>
    let costs ← reduced.parts places
    match (largestPlace costs.entries.toList).bind fun best => places[best]? with
    | some found => return some found
    | none => throw .index

/-- The entering column. -/
def enteringAt (options : Options Float) (reduced : Tensor Float) (mask : Tensor Bool) :
    Except Fault (Option Nat) :=
  match reduced.shape with
  | [p] =>
    match reduced.toVec? p, basisAt? mask p with
    | some costs, some basis =>
      .ok ((entering options.rule options.tol costs basis).map Fin.val)
    | _, _ => enteringPlace options reduced mask
  | _ => enteringPlace options reduced mask

/-! ## The leaving row -/

/-- The number of a column in a list of columns; a number with a fraction is cut. -/
def columnNumber : Datum → Except Fault Int
  | .whole value =>
    if -(twoPow 63 : Int) ≤ value ∧ value < (twoPow 63 : Int) then .ok value else .error .overflow
  | .flag value => .ok (if value then 1 else 0)
  | .number value =>
    match Binary64.readout value with
    | .undefined => .error .notANumber
    | .infinite _ => .error .overflow
    | .finite negative num den =>
      let size : Int := (num / den : Nat)
      .ok (if negative then -size else size)
  | _ => .error .noNumericValue

/-- The best row of a ratio test so far, with its ratio. -/
structure BestRow where
  row : Nat
  ratio : Float

/-- The column of a row comes before the column of another row. -/
def comesFirst (columns : Tensor Int) (row other : Nat) : Except Fault Bool := do
  let first ← columns.part row
  let second ← columns.part other
  return decide ((← first.single) < (← second.single))

/-- One step of the ratio test on arrays of any shape. -/
def betterRowAt (tol : Float) (values direction : Tensor Float) (columns : Tensor Int)
    (best : Option BestRow) (row : Nat) : Except Fault (Option BestRow) := do
  let ratio ← (← (← values.part row).div (← direction.part row)).single
  match best with
  | none => return if ratio < Binary64.infinity - tol then some ⟨row, ratio⟩ else none
  | some found =>
    if ratio < found.ratio - tol then return some ⟨row, ratio⟩
    if Scalar.abs (ratio - found.ratio) ≤ tol then
      if ← comesFirst columns row found.row then return some ⟨row, ratio⟩
    return some found

/-- The leaving row. -/
def leavingAt (tol : Float) (values direction : Tensor Float) (columns : Tensor Int) :
    Except Fault (Option Nat) :=
  let m := columns.size
  match values.toVec? m, direction.toVec? m, decide (columns.shape = [m]) with
  | some values, some direction, true =>
    let rank (i : Fin m) : Nat :=
      (columns.entries.filter fun column => column < columns.entries.getD i.val 0).size
    .ok ((leaving tol values direction rank).map Fin.val)
  | _, _, _ =>
    let rows := (List.range direction.size).filter fun i => decide (tol < direction.entries.getD i 0)
    (rows.foldlM (betterRowAt tol values direction columns) none).map fun best =>
      best.map BestRow.row

/-! ## The check of a basis -/

/-- The flags of an array as text.  Each part along the first dimension has to be one flag. -/
def maskText (mask : Tensor Bool) : Except Fault String :=
  match mask.shape with
  | [] => .error .notAList
  | n :: _ => do
    let flags ← (List.range n).mapM fun i => do (← mask.part i).single
    return flagText flags

/-- The number of flags that are set. -/
def memberCount (mask : Tensor Bool) : Nat :=
  (mask.entries.toList.filter id).length

/-- The failure of flags of which not exactly `m` are set. -/
def checkAt (mask : Tensor Bool) (m : Amount) : Except (Trouble Float) Unit :=
  if m.isCount (memberCount mask) then .ok ()
  else do
    let text ← Trouble.ofFault (maskText mask)
    throw (.failure (.wrongBasis (memberCount mask) m text))

/-! ## The hand-over between the phases -/

/-- The place that an index stands for in a list; a negative one counts from the end. -/
def wrapped (length : Nat) (index : Int) : Except Fault Nat :=
  let place := if index < 0 then index + length else index
  if 0 ≤ place ∧ place < length then .ok place.toNat else .error .index

/-- The whole numbers from `start` on, `count` of them. -/
def interval (start : Int) (count : Nat) : List Int :=
  (List.range count).map fun (i : Nat) => start + (i : Int)

/-- Set the flag at an index. -/
def setFlag (flags : Array Bool) (index : Int) : Except Fault (Array Bool) :=
  (wrapped flags.size index).map fun place => flags.setIfInBounds place true

/-- Set the flags at the given indices while fewer than `m` flags are set. -/
def padFlags (m : Int) : List Int → Array Bool → Except Fault (Array Bool)
  | [], flags => .ok flags
  | index :: rest, flags =>
    if m ≤ ((flags.toList.filter id).length : Int) then .ok flags
    else do padFlags m rest (← setFlag flags index)

/-- The flags and the tests of the artificial columns.  Further dimensions are combined first and
then refused. -/
def artificialFlags (mask : Tensor Bool) (x : Tensor Float) (tol : Float) (columns : List Int) :
    Except Fault (List (Bool × Bool)) := do
  let pickFrom (length : Nat) := columns.mapM (wrapped length)
  let marks ← mask.parts (← pickFrom (mask.shape.headD 0))
  let values ← x.parts (← pickFrom (x.shape.headD 0))
  match Tensor.common? marks.shape values.shape with
  | none => throw .shapes
  | some [_] =>
    return marks.entries.toList.zip (values.entries.toList.map fun value => decide (tol < value))
  | some _ => throw .index

/-- The basis of the second phase made from flags of any number. -/
def repairFlags (flags : Array Bool) (marked : List (Bool × Bool)) (n m : Int) :
    Except Fault (Array Bool) := do
  let replaced := (interval (2 * n) m.toNat).zip marked
  let exchanged ← (replaced.filter fun entry => entry.2.1).foldlM
    (fun flags entry => setFlag flags entry.1) (flags.extract 0 (sliceIndex flags.size (2 * n + m)))
  padFlags m (interval (2 * n) m.toNat) exchanged

/-- The hand-over on arrays of any shape, as the text of the new basis. -/
def handoverArray (mask : Tensor Bool) (x : Tensor Float) (objective : Float) (n m : Int)
    (tol : Float) : Except (Trouble Float) String := do
  let marked ← Trouble.ofFault (artificialFlags mask x tol (interval (2 * n + m) m.toNat))
  if marked.any fun entry => entry.1 && entry.2 then throw (.failure (.infeasible (-objective)))
  let repaired ← Trouble.ofFault (repairFlags mask.entries marked n m)
  checkAt ⟨[repaired.size], repaired⟩ (.whole m)
  return flagText repaired.toList

/-- The hand-over between the phases, for `n` unknowns and `m` rows, as the text of the new basis. -/
def handoverText (mask : Tensor Bool) (x : Tensor Float) (objective : Float) (n m : Int)
    (tol : Float) : Except (Trouble Float) String :=
  match n, m, mask.shape, x.shape with
  | .ofNat n, .ofNat m, [size], [length] =>
    let p := n + n + m + m
    if p ≤ size ∧ p ≤ length then
      let found := handover tol (basisOf mask.entries.toList p) (Tensor.segment x.entries 0 p) objective
      Trouble.ofFailure (found.outcome.map Basis.text)
    else handoverArray mask x objective n m tol
  | _, _, _, _ => handoverArray mask x objective n m tol

/-- A hand-over on arrays: its log lines, and the text of the new basis or the failure. -/
structure HandoverTrial where
  lines : List String
  outcome : Except (Failure Float) String

/-- The hand-over between the phases, for `n` unknowns and `m` rows.  It writes the line that closes
the first phase, unless it fails. -/
def handoverAt (mask : Tensor Bool) (x : Tensor Float) (objective : Float) (n m : Int)
    (tol : Float) : Except Fault HandoverTrial :=
  match handoverText mask x objective n m tol with
  | .ok basis => .ok ⟨[finishedLine 1 basis], .ok basis⟩
  | .error (.failure cause) => .ok ⟨[], .error cause⟩
  | .error (.fault cause) => .error cause

/-! ## A phase -/

/-- A phase on arrays: its vertices as points, texts and log lines, and how it ended. -/
structure Trial where
  points : List (List Float)
  bases : List String
  lines : List String
  outcome : Except (Failure Float) (List Nat × List Float × Float × Nat)

/-- The record of a phase. -/
def Trial.ofPhase {p q : Nat} (phase : Phase Float p q) : Trial where
  points := phase.vertices.map fun vertex => vertex.point.toList
  bases := phase.vertices.map fun vertex => vertex.basis.text
  lines := phase.lines
  outcome := phase.outcome.map fun final =>
    (final.basis.members.map Fin.val, final.full.toList, final.objective, final.iterations)

/-- The columns that an array of flags marks, in a program of `p` columns. -/
def markedColumns (mask : Tensor Bool) (p : Nat) : Except Fault (List (Fin p)) :=
  ((List.range mask.size).filter fun k => mask.entries.getD k false).mapM fun k =>
    if bound : k < p then .ok ⟨k, bound⟩ else .error .index

/-- The basic solution of arrays of any shape. -/
structure ArraySolution (m p : Nat) where
  columns : Vector (Fin p) m
  factors : Elimination Float m
  basic : Vec Float m
  full : Vec Float p
  reduced : Tensor Float
  objective : Float

/-- The basic values as a vector of `m` numbers; dimensions of length one are left out. -/
def basicValues (m : Nat) (values : Tensor Float) : Except Fault (Vec Float m) :=
  if values.shape = [m] ∨ (m = 1 ∧ values.size = 1) then .ok (Tensor.segment values.entries 0 m)
  else .error .shapes

/-- The basic solution with the marked columns. -/
def arraySolution {m p : Nat} (A : Mat Float m p) (b c : Tensor Float) (mask : Tensor Bool) :
    Except (Trouble Float) (ArraySolution m p) := do
  let marked ← Trouble.ofFault (markedColumns mask p)
  if fits : marked.length = m then
    let columns : Vector (Fin p) m := ⟨marked.toArray, by simpa using fits⟩
    let factors ← Trouble.ofFailure (factorize (A.columns columns))
    let linear : LinearSystem Float := ⟨m, factors⟩
    let values ← linear.solveArray false b
    let basic ← Trouble.ofFault (basicValues m values)
    let full := scatter columns basic
    let costs ← Trouble.ofFault (c.parts (marked.map Fin.val))
    let prices ← linear.solveArray true costs
    let reduced ← Trouble.ofFault (do
      c.sub (← (Tensor.ofMat A).transposed.product prices))
    let objective ← Trouble.ofFault (do (← c.product (.ofVec full)).number)
    return ⟨columns, factors, basic, full, reduced, objective⟩
  else throw (.fault .shapes)

/-- The number of unknowns that a phase shows, as data gives it. -/
def unknownsAt : Datum → Except Fault Int
  | .whole n => .ok n
  | .flag value => .ok (if value then 1 else 0)
  | _ => .error .argument

/-- A vertex of a phase on arrays: its point, the text of its basis and its objective. -/
structure ArrayVertex where
  point : List Float
  basis : String
  objective : Float

/-- The line of a vertex in a phase of `p` columns. -/
def ArrayVertex.line (p index : Nat) (vertex : ArrayVertex) : String :=
  (table p : Table).row
    [.whole index, .ofNumber (vertex.point.getD 0 0), .ofNumber (vertex.point.getD 1 0),
      .ofNumber vertex.objective, .text vertex.basis]

/-- The record of the vertices of a phase of `p` columns. -/
def Trial.ofVertices (p : Nat) (seen : Array ArrayVertex)
    (outcome : Except (Failure Float) (List Nat × List Float × Float × Nat)) : Trial where
  points := seen.toList.map ArrayVertex.point
  bases := seen.toList.map ArrayVertex.basis
  lines := (table p : Table).header ::
    seen.toList.mapIdx fun i vertex => vertex.line p (i + 1)
  outcome := outcome

/-- Go on with a part of a phase, or end the phase with its failure or fault. -/
def Trial.proceed {α : Type} (p : Nat) (seen : Array ArrayVertex)
    (step : Except (Trouble Float) α) (next : α → Except Fault Trial) : Except Fault Trial :=
  match step with
  | .ok value => next value
  | .error (.failure cause) => .ok (.ofVertices p seen (.error cause))
  | .error (.fault cause) => .error cause

/-- Set or clear the flags with the given first index. -/
def markPart (mask : Tensor Bool) (i : Nat) (value : Bool) : Except Fault (Tensor Bool) :=
  match mask.shape with
  | [] => .error .index
  | n :: rest =>
    if i < n then
      .ok ⟨mask.shape, mask.entries.mapIdx fun k flag =>
        if k / Tensor.count rest = i then value else flag⟩
    else .error .index

/-- The flags after the exchange made at a basic solution; nothing at the end of the phase. -/
def exchangeAt {m p : Nat} (options : Options Float) (A : Mat Float m p) (mask : Tensor Bool)
    (here : ArraySolution m p) : Except (Trouble Float) (Option (Tensor Bool)) := do
  match ← Trouble.ofFault (enteringAt options here.reduced mask) with
  | none => return none
  | some place =>
    if bound : place < p then
      let direction := here.factors.solve (A.column ⟨place, bound⟩)
      match leaving options.tol here.basic direction (fun i => (here.columns i).val) with
      | none => throw (.failure .unbounded)
      | some row =>
        let marked ← Trouble.ofFault (markPart mask place true)
        let next ← Trouble.ofFault (markPart marked (here.columns row).val false)
        checkAt next (.whole m)
        return some next
    else throw (.fault .index)

/-- Pivot on arrays that need not fit together, at most `fuel` more times. -/
def arrayLoop {m p : Nat} (options : Options Float) (cap : Int) (A : Mat Float m p)
    (b c : Tensor Float) (n : Except Fault Int) :
    (fuel : Nat) → Tensor Bool → Array ArrayVertex → Except Fault Trial
  | 0, _, seen => .ok (.ofVertices p seen (.error (.stalled cap)))
  | fuel + 1, mask, seen =>
    Trial.proceed p seen (arraySolution A b c mask) fun here => do
      let shown ← unsplitArray (.ofVec here.full) (← n)
      let seen := seen.push ⟨shown.entries.toList, ← maskText mask, here.objective⟩
      Trial.proceed p seen (exchangeAt options A mask here) fun next =>
        match next with
        | some next => arrayLoop options cap A b c n fuel next seen
        | none =>
          let columns := here.columns.toList.map Fin.val
          .ok (.ofVertices p seen (.ok (columns, here.full.toList, here.objective, seen.size)))

/-- A phase on arrays that need not fit together. -/
def arrayPhase {m p : Nat} (options : Options Float) (cap : Int) (A : Mat Float m p)
    (b c : Tensor Float) (mask : Tensor Bool) (n : Except Fault Int) : Except Fault Trial :=
  Trial.proceed p #[] (checkAt mask (.whole m)) fun _ =>
    arrayLoop options cap A b c n cap.toNat mask #[]

/-- A phase on the arrays of a program, with the points shown as differences of their first `n` and
next `n` coordinates.  If they cannot be shown, the phase has to end before its first vertex. -/
def programPhase {m p : Nat} (options : Options Float) (cap : Int) (program : Program Float m p)
    (basis : Basis p) (n : Except Fault Int) : Except Fault Trial :=
  let unshown (reason : Fault) : Except Fault Trial :=
    let trial := Trial.ofPhase (Phase.run options cap program id basis)
    if trial.points.isEmpty then .ok trial else .error reason
  match n with
  | .error reason => unshown reason
  | .ok n =>
    match PrimalDual.splitLength? p n with
    | some q =>
      .ok (.ofPhase (Phase.run options cap program
        (PrimalDual.splitView n : Vec Float p → Vec Float q) basis))
    | none => unshown .shapes

/-- Run a phase on arrays from a basis. -/
def phaseAt (options : Options Float) (cap : Int) (A b c : Tensor Float) (mask : Tensor Bool)
    (n : Except Fault Int) : Except Fault Trial := do
  let sized ← A.matrix
  match b.toVec? sized.rows, c.toVec? sized.columns, basisAt? mask sized.columns with
  | some b, some c, some basis => programPhase options cap ⟨sized.matrix, b, c⟩ basis n
  | _, _, _ => arrayPhase options cap sized.matrix b c mask n

end PolyTrace.Simplex
