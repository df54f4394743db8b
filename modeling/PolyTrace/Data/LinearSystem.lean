import PolyTrace.Data.Tensor
import PolyTrace.Linear.Factorize
import PolyTrace.Linear.StepLength

/-!
# Linear systems given by arrays

A square array is factored once and then solved for right-hand sides of any shape: a vector, a matrix
whose columns are solved one by one, or a stack of such matrices.
-/

namespace PolyTrace

variable {K : Type} [Scalar K]

/-- The record of a factored array. -/
structure LinearSystem (K : Type) where
  size : Nat
  factors : Elimination K size

namespace LinearSystem

/-- Factor a square array. -/
def factorizeArray (t : Tensor K) : Except (Failure K) (LinearSystem K) :=
  match t.shape with
  | [m, n] =>
    if m = n then
      match t.toMat? n n with
      | some A => (factorize A).map fun factors => ⟨n, factors⟩
      | none => .error (.mismatch (.notSquare t.shape))
    else .error (.mismatch (.notSquare t.shape))
  | shape => .error (.mismatch (.notSquare shape))

/-- The solution for one vector, of the system or of the transposed system. -/
def solveVec (system : LinearSystem K) (transposed : Bool) (r : Vec K system.size) :
    Vec K system.size :=
  if transposed then system.factors.solveTranspose r else system.factors.solve r

/-- The solutions for the columns of a matrix, which starts at the entry `start`. -/
def solveColumns (system : LinearSystem K) (transposed : Bool) (entries : Array K) (start k : Nat) :
    Mat K system.size k :=
  let column (j : Fin k) : Vec K system.size :=
    system.solveVec transposed
      (Vector.ofFn fun (i : Fin system.size) => entries.getD (start + i.val * k + j.val) 0)
  Mat.transpose (Vector.ofFn column : Mat K k system.size)

/-- The solutions for every column of a stack of matrices. -/
def solveStack (system : LinearSystem K) (transposed : Bool) (rhs : Tensor K) (depth k : Nat) :
    Tensor K :=
  ⟨rhs.shape, ((List.range depth).map fun d =>
    (Tensor.ofMat (system.solveColumns transposed rhs.entries (d * system.size * k) k)).entries
    ).toArray.flatten⟩

/-- The solution for a right-hand side of any shape, whose first dimension is the size of the
system. -/
def solveArray (system : LinearSystem K) (transposed : Bool) (rhs : Tensor K) :
    Except (Trouble K) (Tensor K) :=
  match rhs.shape with
  | [] => .error (.fault .index)
  | rows :: rest =>
    if rows = system.size then
      match (rows :: rest).reverse with
      | k :: height :: stack =>
        if height = system.size then
          .ok (system.solveStack transposed rhs (Tensor.count stack) k)
        else .error (.fault .shapes)
      | _ => .ok (.ofVec (system.solveVec transposed (Tensor.segment rhs.entries 0 system.size)))
    else .error (.ofMismatch (.rightHandSide rows system.size))

end LinearSystem

/-- The largest share of a step that keeps every entry of an array nonnegative.  The step may have
fewer dimensions than the array; each of its entries then belongs to a whole part of the array. -/
def maxStepArray (v d : Tensor K) : Except Fault K :=
  let decreasing := (List.range d.size).filter fun i => decide (d.entries.getD i 0 < 0)
  match decreasing with
  | [] => .ok 1
  | _ :: _ =>
    if d.shape = v.shape then .ok (maxStep (Tensor.segment v.entries 0 d.entries.size) d.flat)
    else if d.shape.isPrefixOf v.shape then
      let part := v.shape.drop d.shape.length
      let kept := (⟨d.size :: part, v.entries⟩ : Tensor K).pick decreasing
      let steps : Tensor K :=
        ⟨[decreasing.length], (decreasing.map fun i => d.entries.getD i 0).toArray⟩
      match kept.zipWith? (fun a b => -a / b) steps with
      | some ratios =>
        if ratios.size = 0 then .error .emptyExtremum else .ok (leastShare ratios.entries.toList)
      | none => .error .shapes
    else .error .index

end PolyTrace
