import PolyTrace.Failure

/-!
# Computations that may not succeed

A computation in parts succeeds when all its parts do, and otherwise stops in one of them with the
reason that this part gives.  Failures and faults are told apart: what may fail only with the one
never stops with the other.

Two computations are alike when both succeed with results that belong together, or both stop for
reasons that do; computations in parts are alike when their parts are.
-/

namespace PolyTrace

variable {K Cause α β : Type}

/-- A computation in two parts succeeds only if both do. -/
theorem bind_eq_ok {first : Except Cause α} {next : α → Except Cause β} {result : β}
    (succeeded : first >>= next = .ok result) :
    ∃ value, first = .ok value ∧ next value = .ok result := by
  cases first with
  | error cause => cases succeeded
  | ok value => exact ⟨value, rfl, succeeded⟩

/-- A computation in two parts that does not succeed stops in one of them. -/
theorem bind_eq_error {first : Except Cause α} {next : α → Except Cause β} {cause : Cause}
    (stopped : first >>= next = .error cause) :
    first = .error cause ∨ ∃ value, first = .ok value ∧ next value = .error cause := by
  cases first with
  | error reason =>
      cases stopped
      exact .inl rfl
  | ok value => exact .inr ⟨value, rfl, stopped⟩

theorem eq_error_of_map {f : α → β} {first : Except Cause α} {cause : Cause}
    (stopped : first.map f = .error cause) : first = .error cause := by
  cases first with
  | error reason =>
      cases stopped
      rfl
  | ok value => cases stopped

theorem eq_ok_of_map {f : α → β} {first : Except Cause α} {result : β}
    (succeeded : first.map f = .ok result) : ∃ value, first = .ok value ∧ f value = result := by
  cases first with
  | error cause => cases succeeded
  | ok value =>
      cases succeeded
      exact ⟨value, rfl, rfl⟩

theorem ofFault_eq_ok {result : Except Fault α} {value : α}
    (succeeded : (Trouble.ofFault result : Except (Trouble K) α) = .ok value) :
    result = .ok value := by
  cases result with
  | error cause => cases succeeded
  | ok value =>
      cases succeeded
      rfl

theorem ofFault_eq_fault {result : Except Fault α} {cause : Fault}
    (faulty : (Trouble.ofFault result : Except (Trouble K) α) = .error (.fault cause)) :
    result = .error cause := by
  cases result with
  | error reason =>
      cases faulty
      rfl
  | ok value => cases faulty

theorem ofFailure_eq_ok {result : Except (Failure K) α} {value : α}
    (succeeded : Trouble.ofFailure result = .ok value) : result = .ok value := by
  cases result with
  | error cause => cases succeeded
  | ok value =>
      cases succeeded
      rfl

theorem ofFailure_eq_failure {result : Except (Failure K) α} {cause : Failure K}
    (failed : Trouble.ofFailure result = .error (.failure cause)) : result = .error cause := by
  cases result with
  | error reason =>
      cases failed
      rfl
  | ok value => cases failed

theorem ofFault_ne_failure {result : Except Fault α} {cause : Failure K} :
    Trouble.ofFault result ≠ .error (.failure cause) := by
  cases result <;> nofun

theorem ofFailure_ne_fault {result : Except (Failure K) α} {cause : Fault} :
    Trouble.ofFailure result ≠ .error (.fault cause) := by
  cases result <;> nofun

/-- Two computations both succeed with related results or both stop for related reasons. -/
inductive Alike {Cause' β : Type} (Causes : Cause → Cause' → Prop) (Results : α → β → Prop) :
    Except Cause α → Except Cause' β → Prop
  | ok {a : α} {b : β} (related : Results a b) : Alike Causes Results (.ok a) (.ok b)
  | error {cause : Cause} {cause' : Cause'} (related : Causes cause cause') :
      Alike Causes Results (.error cause) (.error cause')

namespace Alike

variable {Cause' α' β' : Type} {Causes : Cause → Cause' → Prop} {Results : α → α' → Prop}
  {Ends : β → β' → Prop} {first : Except Cause α} {second : Except Cause' α'}

theorem exists_ok {a : α} (alike : Alike Causes Results (.ok a) second) :
    ∃ a', second = .ok a' ∧ Results a a' := by
  cases alike with
  | ok related => exact ⟨_, rfl, related⟩

theorem exists_error {cause : Cause} (alike : Alike Causes Results (.error cause) second) :
    ∃ cause', second = .error cause' ∧ Causes cause cause' := by
  cases alike with
  | error related => exact ⟨_, rfl, related⟩

theorem mono {Weaker : α → α' → Prop} (alike : Alike Causes Results first second)
    (weaken : ∀ a a', Results a a' → Weaker a a') : Alike Causes Weaker first second := by
  cases alike with
  | ok related => exact .ok (weaken _ _ related)
  | error related => exact .error related

theorem bind {next : α → Except Cause β} {next' : α' → Except Cause' β'}
    (alike : Alike Causes Results first second)
    (onward : ∀ a a', Results a a' → Alike Causes Ends (next a) (next' a')) :
    Alike Causes Ends (first >>= next) (second >>= next') := by
  cases alike with
  | ok related => exact onward _ _ related
  | error related => exact .error related

/-- Two computations with the same first part are alike when their second parts are. -/
theorem bind_left {Causes : Cause → Cause → Prop} (same : ∀ cause, Causes cause cause)
    {next : α → Except Cause β} {next' : α → Except Cause β'}
    (onward : ∀ a, Alike Causes Ends (next a) (next' a)) :
    Alike Causes Ends (first >>= next) (first >>= next') := by
  cases first with
  | error cause => exact .error (same cause)
  | ok value => exact onward value

end Alike

/-- What a caller can tell about the reason: the kind of a failure, or the fault. -/
def Trouble.outcome : Trouble K → Failure.Kind ⊕ Fault
  | failure cause => .inl cause.kind
  | fault cause => .inr cause

theorem Alike.ofFailure {Results : α → β → Prop} {first : Except (Failure K) α}
    {second : Except (Failure K) β}
    (alike : Alike (fun cause cause' => cause.kind = cause'.kind) Results first second) :
    Alike (fun cause cause' => cause.outcome = cause'.outcome) Results (Trouble.ofFailure first)
      (Trouble.ofFailure second) := by
  cases alike with
  | ok related => exact .ok related
  | error related => exact .error (congrArg Sum.inl related)

end PolyTrace
