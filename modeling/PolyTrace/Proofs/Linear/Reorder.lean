import Mathlib
import PolyTrace.Linear.Factorize
import PolyTrace.Proofs.Failure
import PolyTrace.Proofs.Linear.Elimination
import PolyTrace.Proofs.Linear.StepLength

/-!
# Reordered vectors and matrices

`Vec.reorder e u` has the entry `e i` of `u` in place `i`, and `Mat.reorder e f A` reorders the rows
of a matrix by `e` and its columns by `f`.  Operations that work entry by entry give the reordered
result; over an exact arithmetic, sums, largest and smallest entries, longest steps and products do
not depend on the order either.

A square matrix is factored in every order or in none, and its factors solve the reordered system
with the reordered solution, since there is only one.
-/

namespace PolyTrace

open Matrix

/-- The order of two blocks put one after the other, each in an order of its own. -/
def besideOrder {k l m n : Nat} (e : Fin k ≃ Fin m) (f : Fin l ≃ Fin n) :
    Fin (k + l) ≃ Fin (m + n) :=
  finSumFinEquiv.symm.trans ((e.sumCongr f).trans finSumFinEquiv)

@[simp]
theorem besideOrder_castAdd {k l m n : Nat} (e : Fin k ≃ Fin m) (f : Fin l ≃ Fin n) (i : Fin k) :
    besideOrder e f (i.castAdd l) = (e i).castAdd n := by
  simp [besideOrder]

@[simp]
theorem besideOrder_natAdd {k l m n : Nat} (e : Fin k ≃ Fin m) (f : Fin l ≃ Fin n) (i : Fin l) :
    besideOrder e f (i.natAdd k) = (f i).natAdd m := by
  simp [besideOrder]

/-! ## Lists put together in any order -/

/-- The members of a list put together, from the first to the last. -/
def folded? {α : Type} (op : α → α → α) : List α → Option α
  | [] => none
  | a :: rest => some (rest.foldl op a)

/-- Where the order of three numbers does not matter, that of a list does not. -/
theorem folded?_perm {α : Type} (op : α → α → α) [Std.Commutative op] [Std.Associative op]
    {first second : List α} (same : first.Perm second) : folded? op first = folded? op second := by
  induction same with
  | nil => rfl
  | cons a same _ => exact congrArg some same.foldl_op_eq
  | swap a b rest => exact congrArg (fun c => some (rest.foldl op c)) (Std.Commutative.comm b a)
  | trans _ _ left right => exact left.trans right

section Exact

variable {K : Type} [ExactScalar K]

instance : Std.Commutative (Scalar.larger : K → K → K) :=
  ⟨fun a b => by rw [Scalar.larger_eq, Scalar.larger_eq, max_comm]⟩

instance : Std.Associative (Scalar.larger : K → K → K) :=
  ⟨fun a b c => by simp only [Scalar.larger_eq, max_assoc]⟩

instance : Std.Commutative (Scalar.smaller : K → K → K) :=
  ⟨fun a b => by rw [Scalar.smaller_eq, Scalar.smaller_eq, min_comm]⟩

instance : Std.Associative (Scalar.smaller : K → K → K) :=
  ⟨fun a b c => by simp only [Scalar.smaller_eq, min_assoc]⟩

theorem Vec.largest?_eq {n : Nat} (u : Vec K n) : u.largest? = folded? Scalar.larger u.toList := by
  unfold Vec.largest?
  cases u.toList <;> rfl

theorem Vec.smallest?_eq {n : Nat} (u : Vec K n) :
    u.smallest? = folded? Scalar.smaller u.toList := by
  unfold Vec.smallest?
  cases u.toList <;> rfl

/-- The least share is that of the smallest number, and at most one. -/
theorem leastShare_eq (shares : List K) :
    leastShare shares = (folded? Scalar.smaller shares).elim 1 fun least => min least 1 := by
  cases shares with
  | nil => rfl
  | cons share rest => exact leastShare_cons share rest

end Exact

/-- Reordered indices are all indices. -/
theorem map_finRange_perm {k m : Nat} (e : Fin k ≃ Fin m) :
    ((List.finRange k).map e).Perm (List.finRange m) := by
  refine (List.perm_ext_iff_of_nodup ((List.nodup_finRange k).map e.injective)
    (List.nodup_finRange m)).mpr fun i => ?_
  simp only [List.mem_map, List.mem_finRange, true_and, iff_true]
  exact e.surjective i

namespace Vec

section Entries

variable {α β γ : Type} {k l m n : Nat}

/-- The vector with the entry `e i` in place `i`. -/
def reorder (e : Fin k ≃ Fin m) (u : Vec α m) : Vec α k :=
  Vector.ofFn fun i => u (e i)

@[simp]
theorem get_reorder (e : Fin k ≃ Fin m) (u : Vec α m) (i : Fin k) :
    (reorder e u).get i = u.get (e i) :=
  get_ofFn _ i

@[simp]
theorem reorder_refl (u : Vec α m) : reorder (Equiv.refl (Fin m)) u = u :=
  ext_get fun i => get_reorder _ u i

theorem reorder_map (e : Fin k ≃ Fin m) (f : α → β) (u : Vec α m) :
    reorder e (u.map f) = (reorder e u).map f :=
  ext_get fun i => by simp

theorem reorder_zipWith (e : Fin k ≃ Fin m) (f : α → β → γ) (u : Vec α m) (v : Vec β m) :
    reorder e (u.zipWith f v) = (reorder e u).zipWith f (reorder e v) :=
  ext_get fun i => by simp

theorem reorder_replicate (e : Fin k ≃ Fin m) (a : α) :
    reorder e (Vector.replicate m a) = Vector.replicate k a :=
  ext_get fun i => by simp

theorem reorder_append (e : Fin k ≃ Fin m) (f : Fin l ≃ Fin n) (u : Vec α m) (v : Vec α n) :
    reorder (besideOrder e f) (u ++ v) = reorder e u ++ reorder f v :=
  ext_get (Fin.addCases (fun i => by simp) fun i => by simp)

/-- A reordered vector has the same entries. -/
theorem toList_reorder_perm (e : Fin k ≃ Fin m) (u : Vec α m) :
    (reorder e u).toList.Perm u.toList := by
  have listed : ∀ {j : Nat} (v : Vec α j), v.toList = (List.finRange j).map v.get := by
    intro j v
    apply List.ext_getElem
    · simp
    · intro i _ _
      simp [Vector.get]
  rw [listed, listed, show (reorder e u).get = u.get ∘ e from funext (get_reorder e u),
    ← List.map_map]
  exact (map_finRange_perm e).map u.get

theorem any_reorder (e : Fin k ≃ Fin m) (u : Vec α m) (test : α → Bool) :
    (reorder e u).any test = u.any test := by
  rw [← Vector.any_toList, ← Vector.any_toList]
  exact (toList_reorder_perm e u).any_eq

end Entries

section Operations

variable {K : Type} [Scalar K] {k m : Nat} (e : Fin k ≃ Fin m)

@[simp]
theorem reorder_zero : reorder e (zero m : Vec K m) = zero k :=
  reorder_replicate e 0

@[simp]
theorem reorder_ones : reorder e (ones m : Vec K m) = ones k :=
  reorder_replicate e 1

@[simp]
theorem reorder_add (u v : Vec K m) : reorder e (u.add v) = (reorder e u).add (reorder e v) :=
  reorder_zipWith e _ u v

@[simp]
theorem reorder_sub (u v : Vec K m) : reorder e (u.sub v) = (reorder e u).sub (reorder e v) :=
  reorder_zipWith e _ u v

@[simp]
theorem reorder_mul (u v : Vec K m) : reorder e (u.mul v) = (reorder e u).mul (reorder e v) :=
  reorder_zipWith e _ u v

@[simp]
theorem reorder_div (u v : Vec K m) : reorder e (u.div v) = (reorder e u).div (reorder e v) :=
  reorder_zipWith e _ u v

@[simp]
theorem reorder_neg (u : Vec K m) : reorder e u.neg = (reorder e u).neg :=
  reorder_map e _ u

@[simp]
theorem reorder_scale (t : K) (u : Vec K m) : reorder e (u.scale t) = (reorder e u).scale t :=
  reorder_map e _ u

@[simp]
theorem reorder_along (u : Vec K m) (t : K) (d : Vec K m) :
    reorder e (u.along t d) = (reorder e u).along t (reorder e d) := by
  simp [along]

@[simp]
theorem reorder_project (u : Vec K m) : reorder e u.project = (reorder e u).project :=
  reorder_map e _ u

end Operations

section Exact

variable {K : Type} [ExactScalar K] {k m : Nat} (e : Fin k ≃ Fin m)

theorem sum_reorder (f : Fin m → K) : (sum k fun i => f (e i)) = sum m f := by
  rw [sum_eq, sum_eq]
  exact e.sum_comp f

@[simp]
theorem dot_reorder (u v : Vec K m) : (reorder e u).dot (reorder e v) = u.dot v := by
  unfold dot
  simp only [get_reorder]
  exact sum_reorder e fun i => u.get i * v.get i

@[simp]
theorem largest?_reorder (u : Vec K m) : (reorder e u).largest? = u.largest? := by
  rw [largest?_eq, largest?_eq]
  exact folded?_perm Scalar.larger (toList_reorder_perm e u)

@[simp]
theorem smallest?_reorder (u : Vec K m) : (reorder e u).smallest? = u.smallest? := by
  rw [smallest?_eq, smallest?_eq]
  exact folded?_perm Scalar.smaller (toList_reorder_perm e u)

@[simp]
theorem largestAbs?_reorder (u : Vec K m) : (reorder e u).largestAbs? = u.largestAbs? := by
  unfold largestAbs?
  rw [← reorder_map, largest?_reorder]

@[simp]
theorem maxStep_reorder (v d : Vec K m) : maxStep (reorder e v) (reorder e d) = maxStep v d := by
  have shares : (stepRatios (reorder e v) (reorder e d)).Perm (stepRatios v d) := by
    have same : stepRatios (reorder e v) (reorder e d) =
        ((List.finRange k).map e).filterMap fun i =>
          if d.get i < 0 then some (-v.get i / d.get i) else none := by
      rw [List.filterMap_map]
      unfold stepRatios
      simp only [get_reorder]
      rfl
    rw [same]
    exact (map_finRange_perm e).filterMap _
  unfold maxStep
  rw [leastShare_eq, leastShare_eq, folded?_perm Scalar.smaller shares]

end Exact

end Vec

namespace Mat

section Layout

variable {K : Type} {k l m n p q : Nat}

/-- The matrix with its rows reordered by `e` and its columns by `f`. -/
def reorder (e : Fin k ≃ Fin m) (f : Fin l ≃ Fin n) (A : Mat K m n) : Mat K k l :=
  Vec.reorder e (A.map (Vec.reorder f))

@[simp]
theorem get_reorder (e : Fin k ≃ Fin m) (f : Fin l ≃ Fin n) (A : Mat K m n) (i : Fin k)
    (j : Fin l) : ((reorder e f A).get i).get j = (A.get (e i)).get (f j) := by
  simp [reorder]

/-- Two matrices with the same entries are equal. -/
theorem ext_get {A B : Mat K m n} (same : ∀ i j, (A.get i).get j = (B.get i).get j) : A = B :=
  Vec.ext_get fun i => Vec.ext_get (same i)

theorem reorder_symm_reorder (e : Fin k ≃ Fin m) (f : Fin l ≃ Fin n) (A : Mat K m n) :
    reorder e.symm f.symm (reorder e f A) = A :=
  ext_get fun i j => by simp

/-- Only the rows are reordered. -/
theorem reorder_refl (e : Fin k ≃ Fin m) (A : Mat K m n) :
    reorder e (Equiv.refl (Fin n)) A = Vec.reorder e A :=
  ext_get fun i j => by simp

theorem matrix_reorder (e : Fin k ≃ Fin m) (f : Fin l ≃ Fin n) (A : Mat K m n) :
    (reorder e f A).matrix = A.matrix.submatrix e f := by
  ext i j
  simp

theorem reorder_beside (e : Fin k ≃ Fin m) (f : Fin l ≃ Fin n) (g : Fin q ≃ Fin p) (A : Mat K m n)
    (B : Mat K m p) :
    reorder e (besideOrder f g) (A.beside B) = (reorder e f A).beside (reorder e g B) :=
  ext_get fun i => Fin.addCases (fun j => by simp) fun j => by simp

theorem reorder_append (e : Fin k ≃ Fin m) (f : Fin l ≃ Fin n) (g : Fin q ≃ Fin p) (A : Mat K m n)
    (B : Mat K p n) :
    reorder (besideOrder e g) f (A ++ B : Mat K (m + p) n) = reorder e f A ++ reorder g f B := by
  unfold reorder
  rw [Vector.map_append, Vec.reorder_append]

theorem reorder_transpose (e : Fin k ≃ Fin m) (f : Fin l ≃ Fin n) (A : Mat K m n) :
    reorder f e A.transpose = (reorder e f A).transpose :=
  ext_get fun i j => by simp

end Layout

section Operations

variable {K : Type} [Scalar K] {k l m n : Nat} (e : Fin k ≃ Fin m) (f : Fin l ≃ Fin n)

theorem reorder_identity : reorder e e (identity m : Mat K m m) = identity k :=
  ext_get fun i j => by simp [e.injective.eq_iff]

theorem reorder_diagonal (d : Vec K m) :
    reorder e e (diagonal d) = diagonal (Vec.reorder e d) :=
  ext_get fun i j => by simp [e.injective.eq_iff]

theorem reorder_zero : reorder e f (zero m n : Mat K m n) = zero k l :=
  ext_get fun i j => by simp

theorem reorder_neg (A : Mat K m n) : reorder e f A.neg = (reorder e f A).neg :=
  ext_get fun i j => by simp

end Operations

section Exact

variable {K : Type} [ExactScalar K] {k l m n : Nat} (e : Fin k ≃ Fin m) (f : Fin l ≃ Fin n)

theorem mulVec_reorder (A : Mat K m n) (x : Vec K n) :
    (reorder e f A).mulVec (Vec.reorder f x) = Vec.reorder e (A.mulVec x) :=
  Vec.ext_get fun i => by
    rw [Vec.get_reorder, get_mulVec_eq_sum, get_mulVec_eq_sum]
    simp only [get_reorder, Vec.get_reorder]
    exact f.sum_comp fun j => (A.get (e i)).get j * x.get j

theorem transposeMulVec_reorder (A : Mat K m n) (y : Vec K m) :
    (reorder e f A).transposeMulVec (Vec.reorder e y) = Vec.reorder f (A.transposeMulVec y) :=
  Vec.ext_get fun j => by
    rw [Vec.get_reorder, get_transposeMulVec_eq_sum, get_transposeMulVec_eq_sum]
    simp only [get_reorder, Vec.get_reorder]
    exact e.sum_comp fun i => (A.get i).get (f j) * y.get i

end Exact

end Mat

/-! ## Factors -/

section Factorize

variable {K : Type} [ExactScalar K] {n : Nat} (e f : Equiv.Perm (Fin n))

/-- A reordered matrix is accepted if the matrix is. -/
theorem exists_factorize_reorder {A : Mat K n n} {factors : Elimination K n}
    (accepted : factorize A = .ok factors) :
    ∃ others, factorize (Mat.reorder e f A) = .ok others := by
  refine exists_factorize_eq_ok ((factorize_eq_ok_iff A factors).mp accepted).1 fun z kernel => ?_
  have image : A.matrix *ᵥ (z ∘ f.symm) = 0 := by
    funext i
    have row := congrFun kernel (e.symm i)
    rw [Mat.matrix_reorder, Matrix.submatrix_mulVec_equiv] at row
    simpa using row
  funext j
  simpa using congrFun (eq_zero_of_factorize accepted image) (f j)

/-- A reordered matrix is accepted just when the matrix is, and its factors solve the reordered
system with the reordered solution. -/
theorem factorize_reorder (A : Mat K n n) :
    Alike (fun cause cause' => cause.kind = cause'.kind)
      (fun factors others => ∀ r, others.solve (Vec.reorder e r) = Vec.reorder f (factors.solve r))
      (factorize A) (factorize (Mat.reorder e f A)) := by
  cases accepted : factorize A with
  | error cause =>
      cases others : factorize (Mat.reorder e f A) with
      | error cause' =>
          exact .error ((kind_of_factorize accepted).trans (kind_of_factorize others).symm)
      | ok factors =>
          obtain ⟨_, back⟩ := exists_factorize_reorder e.symm f.symm others
          rw [Mat.reorder_symm_reorder, accepted] at back
          cases back
  | ok factors =>
      obtain ⟨others, also⟩ := exists_factorize_reorder e f accepted
      rw [also]
      refine .ok fun r => Vec.ext_get fun j => ?_
      -- both are solutions of the reordered system
      have solved := mulVec_solve_of_factorize also (Vec.reorder e r)
      have reordered : (Mat.reorder e f A).matrix *ᵥ (Vec.reorder f (factors.solve r)).get =
          (Vec.reorder e r).get := by
        rw [← Mat.get_mulVec, Mat.mulVec_reorder]
        have row : A.mulVec (factors.solve r) = r := Vec.ext_get fun i => by
          rw [Mat.get_mulVec, mulVec_solve_of_factorize accepted]
        rw [row]
      have kernel : (Mat.reorder e f A).matrix *ᵥ
          ((others.solve (Vec.reorder e r)).get - (Vec.reorder f (factors.solve r)).get) = 0 := by
        rw [Matrix.mulVec_sub, solved, reordered, sub_self]
      exact sub_eq_zero.mp (congrFun (eq_zero_of_factorize also kernel) j)

end Factorize

end PolyTrace
