import Mathlib
import PolyTrace.Schema.Options

/-!
# Settings that were read

Whatever is read as settings of an engine is settings of that engine, within the bounds that the
schema sets.  These bounds are all that is asked for: settings within them, written as data and read
again, come back unchanged, each under its first name in the data.
-/

namespace PolyTrace

/-! ## Values that passed -/

namespace Validated

variable {α β : Type}

theorem map_eq_valid {f : α → β} {x : Validated α} {result : β} (valid : f <$> x = .valid result) :
    ∃ value, x = .valid value ∧ f value = result := by
  cases x with
  | valid value =>
      cases valid
      exact ⟨value, rfl, rfl⟩
  | invalid issues => cases valid

theorem seq_eq_valid {f : Validated (α → β)} {x : Validated α} {result : β}
    (valid : f <*> x = .valid result) :
    ∃ g value, f = .valid g ∧ x = .valid value ∧ g value = result := by
  cases f with
  | valid g =>
      cases x with
      | valid value =>
          cases valid
          exact ⟨g, value, rfl, rfl, rfl⟩
      | invalid issues => cases valid
  | invalid issues => cases x <;> cases valid

theorem ofExcept_eq_valid {checked : Except Issue.Kind α} {value : α}
    (valid : ofExcept checked = .valid value) : checked = .ok value := by
  cases checked with
  | ok found =>
      cases valid
      rfl
  | error kind => cases valid

theorem andThen_eq_valid {x : Validated α} {check : α → Except Issue.Kind β} {result : β}
    (valid : x.andThen check = .valid result) :
    ∃ value, x = .valid value ∧ check value = .ok result := by
  cases x with
  | valid value => exact ⟨value, rfl, ofExcept_eq_valid valid⟩
  | invalid issues => cases valid

theorem within_eq_valid {step : Issue.Step} {x : Validated α} {value : α} :
    x.within step = .valid value ↔ x = .valid value := by
  cases x <;> simp [within]

end Validated

/-! ## Rules -/

namespace Rule

variable {α : Type}

/-- A field is read from the data that is found under its names. -/
theorem field_eq_valid {names : List String} {default : α} {rule : Datum → Validated α}
    {fields : List (String × Datum)} {name : String} {data : Datum} {value : α}
    (found : find? names fields = some (name, data)) (valid : rule data = .valid value) :
    field names default rule fields = .valid value := by
  unfold field
  rw [found]
  exact Validated.within_eq_valid.mpr valid

/-- What is true of the default and of everything that passes the rule is true of a field. -/
theorem of_field {names : List String} {default : α} {rule : Datum → Validated α}
    {fields : List (String × Datum)} {value : α}
    (valid : field names default rule fields = .valid value) {P : α → Prop} (leftOut : P default)
    (given : ∀ data value, rule data = .valid value → P value) : P value := by
  unfold field at valid
  split at valid
  · exact given _ _ (Validated.within_eq_valid.mp valid)
  · cases valid
    exact leftOut

theorem positive_eq_ok {value result : Float} :
    positive value = .ok result ↔ 0 < value ∧ value = result := by
  unfold positive
  split <;> simp_all

theorem positiveNumber_valid {data : Datum} {value : Float}
    (valid : positiveNumber data = .valid value) : 0 < value := by
  obtain ⟨_, _, checked⟩ := Validated.andThen_eq_valid valid
  obtain ⟨above, rfl⟩ := positive_eq_ok.mp checked
  exact above

theorem positiveNumber_number {value : Float} (above : 0 < value) :
    positiveNumber (.number value) = .valid value :=
  congrArg Validated.ofExcept (positive_eq_ok.mpr ⟨above, rfl⟩)

theorem share_eq_ok {value result : Float} :
    share value = .ok result ↔ (0 < value ∧ value ≤ 1) ∧ value = result := by
  unfold share
  split
  · split <;> simp_all
  · simp_all

theorem share_valid {data : Datum} {value : Float}
    (valid : (Validated.ofExcept (number data)).andThen share = .valid value) :
    0 < value ∧ value ≤ 1 := by
  obtain ⟨_, _, checked⟩ := Validated.andThen_eq_valid valid
  obtain ⟨bounds, rfl⟩ := share_eq_ok.mp checked
  exact bounds

theorem share_number {value : Float} (bounds : 0 < value ∧ value ≤ 1) :
    (Validated.ofExcept (number (.number value))).andThen share = .valid value :=
  congrArg Validated.ofExcept (share_eq_ok.mpr ⟨bounds, rfl⟩)

theorem between_eq_ok {low high : Nat} {value : Int} {result : Nat} :
    between low high value = .ok result ↔ (low ≤ result ∧ result ≤ high) ∧ value = result := by
  unfold between
  split
  · split
    · rw [Except.ok.injEq]
      omega
    · simp only [reduceCtorEq, false_iff]
      omega
  · simp only [reduceCtorEq, false_iff]
    omega

theorem count_valid {low high : Nat} {data : Datum} {value : Nat}
    (valid : (Validated.ofExcept (whole data)).andThen (between low high) = .valid value) :
    low ≤ value ∧ value ≤ high := by
  obtain ⟨_, _, checked⟩ := Validated.andThen_eq_valid valid
  exact (between_eq_ok.mp checked).1

theorem count_whole {low high value : Nat} (bounds : low ≤ value ∧ value ≤ high) :
    (Validated.ofExcept (whole (.whole value))).andThen (between low high) = .valid value :=
  congrArg Validated.ofExcept (between_eq_ok.mpr ⟨bounds, rfl⟩)

theorem iterations_valid {data : Datum} {value : Nat} (valid : iterations data = .valid value) :
    1 ≤ value ∧ value ≤ iterationLimit :=
  count_valid valid

theorem iterations_whole {value : Nat} (bounds : 1 ≤ value ∧ value ≤ iterationLimit) :
    iterations (.whole value) = .valid value :=
  count_whole bounds

/-- Numbers that are written as data are read as they are. -/
theorem membersFrom_numbers (place : Nat) (values : List Float) :
    membersFrom (fun item => .ofExcept (number item)) place (values.map Datum.number) =
      .valid values := by
  induction values generalizing place with
  | nil => rfl
  | cons first rest inductionHypothesis =>
      rw [List.map_cons, membersFrom, inductionHypothesis]
      rfl

theorem optional_numbers (values : Option (List Float)) :
    optional numbers ((values.map Datum.ofNumbers).getD .null) = .valid values := by
  cases values with
  | none => rfl
  | some values =>
      change some <$> membersFrom _ 0 (values.map Datum.number) = _
      rw [membersFrom_numbers]
      rfl

end Rule

/-! ## Bounds -/

namespace Simplex.Options

/-- The settings pass the checks of the schema. -/
structure WithinBounds (options : Options Float) : Prop where
  tol_pos : 0 < options.tol

theorem withinBounds_standard : standard.WithinBounds :=
  ⟨by decide +kernel⟩

theorem withinBounds_of_read {fields : List (String × Datum)} {options : Options Float}
    (valid : read fields = .valid options) : options.WithinBounds := by
  obtain ⟨_, rule, upToTol, -, rfl⟩ := Validated.seq_eq_valid valid
  obtain ⟨_, tol, upToVerbose, tol_read, rfl⟩ := Validated.seq_eq_valid upToTol
  obtain ⟨verbose, -, rfl⟩ := Validated.map_eq_valid upToVerbose
  exact ⟨Rule.of_field tol_read withinBounds_standard.tol_pos fun _ _ => Rule.positiveNumber_valid⟩

/-- Settings within the bounds come back unchanged. -/
theorem read_dump {options : Options Float} (bounds : options.WithinBounds) :
    read options.dump = .valid options := by
  have verbose : Rule.field ["verbose"] standard.verbose Rule.yesNo options.dump =
      .valid options.verbose := Rule.field_eq_valid rfl rfl
  have tol : Rule.field ["tol"] standard.tol Rule.positiveNumber options.dump =
      .valid options.tol := Rule.field_eq_valid rfl (Rule.positiveNumber_number bounds.tol_pos)
  have rule : Rule.field ["pivotRule", "pivot_rule"] standard.rule
      (fun data => .ofExcept (Rule.choice rules data)) options.dump = .valid options.rule := by
    apply Rule.field_eq_valid rfl
    cases options.rule <;> rfl
  unfold read
  rw [verbose, tol, rule]
  rfl

end Simplex.Options

namespace InteriorPoint.Options

/-- The settings pass the checks of the schema. -/
structure WithinBounds (options : Options Float) : Prop where
  epsP_pos : 0 < options.epsP
  epsD_pos : 0 < options.epsD
  epsOpt_pos : 0 < options.epsOpt
  maxit : 1 ≤ options.maxit ∧ options.maxit ≤ iterationLimit
  alphaMax : 0 < options.alphaMax ∧ options.alphaMax ≤ 1

theorem withinBounds_standard : standard.WithinBounds := by
  constructor <;> decide +kernel

theorem withinBounds_of_read {fields : List (String × Datum)} {options : Options Float}
    (valid : read fields = .valid options) : options.WithinBounds := by
  obtain ⟨_, alphaMax, upToMaxit, alphaMax_read, rfl⟩ := Validated.seq_eq_valid valid
  obtain ⟨_, maxit, upToEpsOpt, maxit_read, rfl⟩ := Validated.seq_eq_valid upToMaxit
  obtain ⟨_, epsOpt, upToEpsD, epsOpt_read, rfl⟩ := Validated.seq_eq_valid upToEpsOpt
  obtain ⟨_, epsD, upToEpsP, epsD_read, rfl⟩ := Validated.seq_eq_valid upToEpsD
  obtain ⟨_, epsP, upToVerbose, epsP_read, rfl⟩ := Validated.seq_eq_valid upToEpsP
  obtain ⟨verbose, -, rfl⟩ := Validated.map_eq_valid upToVerbose
  constructor
  · exact Rule.of_field epsP_read withinBounds_standard.epsP_pos
      fun _ _ => Rule.positiveNumber_valid
  · exact Rule.of_field epsD_read withinBounds_standard.epsD_pos
      fun _ _ => Rule.positiveNumber_valid
  · exact Rule.of_field epsOpt_read withinBounds_standard.epsOpt_pos
      fun _ _ => Rule.positiveNumber_valid
  · exact Rule.of_field maxit_read withinBounds_standard.maxit fun _ _ => Rule.iterations_valid
  · exact Rule.of_field alphaMax_read withinBounds_standard.alphaMax fun _ _ => Rule.share_valid

/-- Settings within the bounds come back unchanged. -/
theorem read_dump {options : Options Float} (bounds : options.WithinBounds) :
    read options.dump = .valid options := by
  have verbose : Rule.field ["verbose"] standard.verbose Rule.yesNo options.dump =
      .valid options.verbose := Rule.field_eq_valid rfl rfl
  have epsP : Rule.field ["eps_p"] standard.epsP Rule.positiveNumber options.dump =
      .valid options.epsP := Rule.field_eq_valid rfl (Rule.positiveNumber_number bounds.epsP_pos)
  have epsD : Rule.field ["eps_d"] standard.epsD Rule.positiveNumber options.dump =
      .valid options.epsD := Rule.field_eq_valid rfl (Rule.positiveNumber_number bounds.epsD_pos)
  have epsOpt : Rule.field ["eps_opt"] standard.epsOpt Rule.positiveNumber options.dump =
      .valid options.epsOpt :=
    Rule.field_eq_valid rfl (Rule.positiveNumber_number bounds.epsOpt_pos)
  have maxit : Rule.field ["maxit"] standard.maxit Rule.iterations options.dump =
      .valid options.maxit :=
    Rule.field_eq_valid rfl (Rule.iterations_whole bounds.maxit)
  have alphaMax : Rule.field ["alphaMax", "alpha_max"] standard.alphaMax
      (fun data => (Validated.ofExcept (Rule.number data)).andThen Rule.share) options.dump =
        .valid options.alphaMax :=
    Rule.field_eq_valid rfl (Rule.share_number bounds.alphaMax)
  unfold read
  rw [verbose, epsP, epsD, epsOpt, maxit, alphaMax]
  rfl

end InteriorPoint.Options

namespace PrimalDual.Options

/-- The settings pass the checks of the schema. -/
structure WithinBounds (options : Options Float) : Prop where
  maxit : 1 ≤ options.maxit ∧ options.maxit ≤ iterationLimit
  eta_pos : 0 < options.eta
  tau_pos : 0 < options.tau
  tol_pos : 0 < options.tol

theorem withinBounds_standard : standard.WithinBounds := by
  constructor <;> decide +kernel

theorem withinBounds_of_read {fields : List (String × Datum)} {options : Options Float}
    (valid : read fields = .valid options) : options.WithinBounds := by
  obtain ⟨_, showBasis, upToTol, -, rfl⟩ := Validated.seq_eq_valid valid
  obtain ⟨_, tol, upToTau, tol_read, rfl⟩ := Validated.seq_eq_valid upToTol
  obtain ⟨_, tau, upToEta, tau_read, rfl⟩ := Validated.seq_eq_valid upToTau
  obtain ⟨_, eta, upToMaxit, eta_read, rfl⟩ := Validated.seq_eq_valid upToEta
  obtain ⟨_, maxit, upToIneq, maxit_read, rfl⟩ := Validated.seq_eq_valid upToMaxit
  obtain ⟨_, ineq, upToVerbose, -, rfl⟩ := Validated.seq_eq_valid upToIneq
  obtain ⟨verbose, -, rfl⟩ := Validated.map_eq_valid upToVerbose
  constructor
  · exact Rule.of_field maxit_read withinBounds_standard.maxit fun _ _ => Rule.iterations_valid
  · exact Rule.of_field eta_read withinBounds_standard.eta_pos fun _ _ => Rule.positiveNumber_valid
  · exact Rule.of_field tau_read withinBounds_standard.tau_pos fun _ _ => Rule.positiveNumber_valid
  · exact Rule.of_field tol_read withinBounds_standard.tol_pos fun _ _ => Rule.positiveNumber_valid

/-- Settings within the bounds come back unchanged. -/
theorem read_dump {options : Options Float} (bounds : options.WithinBounds) :
    read options.dump = .valid options := by
  have verbose : Rule.field ["verbose"] standard.verbose Rule.yesNo options.dump =
      .valid options.verbose := Rule.field_eq_valid rfl rfl
  have ineq : Rule.field ["ineq"] standard.ineq Rule.yesNo options.dump =
      .valid options.ineq := Rule.field_eq_valid rfl rfl
  have maxit : Rule.field ["maxit"] standard.maxit Rule.iterations options.dump =
      .valid options.maxit :=
    Rule.field_eq_valid rfl (Rule.iterations_whole bounds.maxit)
  have eta : Rule.field ["eta"] standard.eta Rule.positiveNumber options.dump =
      .valid options.eta := Rule.field_eq_valid rfl (Rule.positiveNumber_number bounds.eta_pos)
  have tau : Rule.field ["tau"] standard.tau Rule.positiveNumber options.dump =
      .valid options.tau := Rule.field_eq_valid rfl (Rule.positiveNumber_number bounds.tau_pos)
  have tol : Rule.field ["tol"] standard.tol Rule.positiveNumber options.dump =
      .valid options.tol := Rule.field_eq_valid rfl (Rule.positiveNumber_number bounds.tol_pos)
  have showBasis : Rule.field ["showBasis", "show_basis"] standard.showBasis Rule.yesNo
      options.dump = .valid options.showBasis := Rule.field_eq_valid rfl rfl
  unfold read
  rw [verbose, ineq, maxit, eta, tau, tol, showBasis]
  rfl

end PrimalDual.Options

namespace CentralPath.Options

/-- The settings pass the checks of the schema. -/
structure WithinBounds (options : Options Float) : Prop where
  niter : 0 ≤ options.niter ∧ options.niter ≤ levelLimit
  maxit : 1 ≤ options.maxit ∧ options.maxit ≤ iterationLimit
  epsilon_pos : 0 < options.epsilon

theorem withinBounds_standard : standard.WithinBounds := by
  constructor <;> decide +kernel

theorem withinBounds_of_read {fields : List (String × Datum)} {options : Options Float}
    (valid : read fields = .valid options) : options.WithinBounds := by
  obtain ⟨_, epsilon, upToMaxit, epsilon_read, rfl⟩ := Validated.seq_eq_valid valid
  obtain ⟨_, maxit, upToWeights, maxit_read, rfl⟩ := Validated.seq_eq_valid upToMaxit
  obtain ⟨_, weights, upToNiter, -, rfl⟩ := Validated.seq_eq_valid upToWeights
  obtain ⟨_, niter, upToVerbose, niter_read, rfl⟩ := Validated.seq_eq_valid upToNiter
  obtain ⟨verbose, -, rfl⟩ := Validated.map_eq_valid upToVerbose
  constructor
  · exact Rule.of_field niter_read withinBounds_standard.niter fun _ _ => Rule.count_valid
  · exact Rule.of_field maxit_read withinBounds_standard.maxit fun _ _ => Rule.iterations_valid
  · exact Rule.of_field epsilon_read withinBounds_standard.epsilon_pos
      fun _ _ => Rule.positiveNumber_valid

/-- Settings within the bounds come back unchanged. -/
theorem read_dump {options : Options Float} (bounds : options.WithinBounds) :
    read options.dump = .valid options := by
  have verbose : Rule.field ["verbose"] standard.verbose Rule.yesNo options.dump =
      .valid options.verbose := Rule.field_eq_valid rfl rfl
  have niter : Rule.field ["niter"] standard.niter (fun data =>
      (Validated.ofExcept (Rule.whole data)).andThen (Rule.between 0 levelLimit)) options.dump =
        .valid options.niter :=
    Rule.field_eq_valid rfl (Rule.count_whole bounds.niter)
  have weights : Rule.field ["weights"] standard.weights (Rule.optional Rule.numbers)
      options.dump = .valid options.weights :=
    Rule.field_eq_valid rfl (Rule.optional_numbers options.weights)
  have maxit : Rule.field ["maxit"] standard.maxit Rule.iterations options.dump =
      .valid options.maxit :=
    Rule.field_eq_valid rfl (Rule.iterations_whole bounds.maxit)
  have epsilon : Rule.field ["epsilon"] standard.epsilon Rule.positiveNumber options.dump =
      .valid options.epsilon :=
    Rule.field_eq_valid rfl (Rule.positiveNumber_number bounds.epsilon_pos)
  unfold read
  rw [verbose, niter, weights, maxit, epsilon]
  rfl

end CentralPath.Options

/-! ## The settings of any engine -/

namespace EngineOptions

/-- The settings that are read for an engine are settings of that engine. -/
theorem engine_of_readFields {engine : Engine} {fields : List (String × Datum)}
    {options : EngineOptions} (valid : readFields engine fields = .valid options) :
    options.engine = engine := by
  cases engine <;>
    · obtain ⟨_, _, rfl⟩ := Validated.map_eq_valid valid
      rfl

/-- Data that is read as settings has fields. -/
theorem read_eq_valid {engine : Engine} {data : Datum} {options : EngineOptions}
    (valid : read engine data = .valid options) :
    ∃ fields, data = .object fields ∧ readFields engine fields = .valid options := by
  unfold read at valid
  cases data with
  | object fields => exact ⟨fields, rfl, valid⟩
  | _ => cases valid

/-- Settings are what the data asks for, or the defaults. -/
theorem resolve_eq_ok {engine : Engine} {data : Datum} {options : EngineOptions}
    (resolved : resolve engine data = .ok options) :
    data = .null ∧ options = standard engine ∨
      ∃ fields, data = .object fields ∧ readFields engine fields = .valid options := by
  unfold resolve at resolved
  split at resolved
  · cases resolved
    exact .inl ⟨rfl, rfl⟩
  · split at resolved
    · rename_i valid
      cases resolved
      exact .inr (read_eq_valid valid)
    · cases resolved

theorem engine_of_resolve {engine : Engine} {data : Datum} {options : EngineOptions}
    (resolved : resolve engine data = .ok options) : options.engine = engine := by
  rcases resolve_eq_ok resolved with ⟨-, rfl⟩ | ⟨fields, -, valid⟩
  · cases engine <;> rfl
  · exact engine_of_readFields valid

/-- The settings pass the checks of the schema of their engine. -/
def WithinBounds : EngineOptions → Prop
  | simplex options => options.WithinBounds
  | ipm options => options.WithinBounds
  | pdhg options => options.WithinBounds
  | central options => options.WithinBounds

theorem withinBounds_standard (engine : Engine) : (standard engine).WithinBounds := by
  cases engine with
  | simplex => exact Simplex.Options.withinBounds_standard
  | ipm => exact InteriorPoint.Options.withinBounds_standard
  | pdhg => exact PrimalDual.Options.withinBounds_standard
  | central => exact CentralPath.Options.withinBounds_standard

/-- What is read is within the bounds. -/
theorem withinBounds_of_readFields {engine : Engine} {fields : List (String × Datum)}
    {options : EngineOptions} (valid : readFields engine fields = .valid options) :
    options.WithinBounds := by
  cases engine <;> obtain ⟨settings, settings_read, rfl⟩ := Validated.map_eq_valid valid
  · exact Simplex.Options.withinBounds_of_read settings_read
  · exact InteriorPoint.Options.withinBounds_of_read settings_read
  · exact PrimalDual.Options.withinBounds_of_read settings_read
  · exact CentralPath.Options.withinBounds_of_read settings_read

/-- Settings within the bounds, written as data, are read back unchanged. -/
theorem read_dump {options : EngineOptions} (bounds : options.WithinBounds) :
    read options.engine (.object options.dump) = .valid options := by
  cases options with
  | simplex options => exact congrArg (simplex <$> ·) (Simplex.Options.read_dump bounds)
  | ipm options => exact congrArg (ipm <$> ·) (InteriorPoint.Options.read_dump bounds)
  | pdhg options => exact congrArg (pdhg <$> ·) (PrimalDual.Options.read_dump bounds)
  | central options => exact congrArg (central <$> ·) (CentralPath.Options.read_dump bounds)

end EngineOptions

end PolyTrace
