import PolyTrace.Log.Registry
import PolyTrace.Proofs.Failure

/-!
# The loggers after any calls

A call asks for a logger of the program, sets the level of all of them, or configures them.  A
registry is consistent with a level when this level is what later loggers get, when every logger
that was asked for has this level and one handler, which has it too, and when the loggers that the
program has not asked for have no handlers.

Every call that returns leads from a registry consistent with one level to a registry consistent
with the level that the call leaves, so that after any calls the loggers are at the last level that
was set.
-/

namespace PolyTrace

/-- Data that is a level is this level as data. -/
theorem Level.toDatum_of_ofDatum {data : Datum} {level : Level} (is : ofDatum data = .ok level) :
    level.toDatum = data := by
  cases data with
  | whole value =>
      cases is
      rfl
  | flag value =>
      cases is
      rfl
  | null | number _ | text _ | list _ | object _ | zeros _ => cases is

/-- A name that does not begin with the program's own stands for the logger that bears it behind the
program's name. -/
theorem fullName_qualified {name : String} (foreign : ¬ programName.toList <+: name.toList) :
    fullName (some (programName ++ "." ++ name)) = fullName (some name) := by
  have qualified : programName.toList.isPrefixOf (programName ++ "." ++ name).toList = true := by
    rw [List.isPrefixOf_iff_prefix, String.toList_append, String.toList_append, List.append_assoc]
    exact List.prefix_append _ _
  have unqualified : ¬ programName.toList.isPrefixOf name.toList = true := by
    rwa [List.isPrefixOf_iff_prefix]
  simp only [fullName]
  rw [if_pos qualified, if_neg unqualified]

/-- The logger is at a level, with exactly one handler, which is at the same level. -/
def Logger.IsAt (logger : Logger) (level : Datum) : Prop :=
  ∃ handler, logger.handlers = [handler] ∧ handler.level = logger.level ∧
    logger.level.toDatum = level

namespace LogRegistry

/-! ## Looking up -/

theorem find?_putIn (name other : String) (logger : Logger) (entries : List (String × Logger)) :
    ((putIn name logger entries).find? fun entry => entry.1 = other).map Prod.snd =
      if other = name then some logger
      else (entries.find? fun entry => entry.1 = other).map Prod.snd := by
  induction entries with
  | nil =>
      by_cases same : other = name
      · simp [putIn, same]
      · simp [putIn, same, Ne.symm same]
  | cons entry rest inductionHypothesis =>
      unfold putIn
      by_cases here : entry.1 = name
      · by_cases same : other = name
        · simp [here, same]
        · simp [here, same, Ne.symm same]
      · rw [if_neg here]
        by_cases found : entry.1 = other
        · have different : ¬ other = name := fun same => here (found.trans same)
          simp [found, different]
        · simp [found, inductionHypothesis]

theorem find?_put (registry : LogRegistry) (name other : String) (logger : Logger) :
    (registry.put name logger).find? other =
      if other = name then some logger else registry.find? other :=
  find?_putIn name other logger registry.loggers

/-- Changing the loggers of the program changes what is found under a name they are known by. -/
theorem find?_mapKnown (registry : LogRegistry) (change : Logger → Logger) (name : String) :
    (registry.mapKnown change).find? name =
      if name ∈ registry.known then (registry.find? name).map change else registry.find? name := by
  unfold find? mapKnown
  dsimp only
  induction registry.loggers with
  | nil => simp
  | cons entry rest inductionHypothesis =>
      by_cases found : entry.1 = name
      · by_cases known : name ∈ registry.known
        · simp [found, known]
        · simp [found, known]
      · by_cases entryKnown : entry.1 ∈ registry.known
        · simpa [found, entryKnown] using inductionHypothesis
        · simpa [found, entryKnown] using inductionHypothesis

/-! ## Calls -/

/-- A call that looks after the loggers of the program. -/
inductive Call where
  | get (name : Option String)
  | setLevel (level : Datum)
  | configure (level layout : Datum) (stream : LogStream)

/-- What a call leaves as the level, where it was `level` before. -/
def Call.levelAfter (level : Datum) : Call → Datum
  | get _ => level
  | setLevel asked => Level.asked asked
  | configure asked _ _ => Level.asked asked

/-- The last level that some calls set; that of warnings if none of them does. -/
def lastLevel (calls : List Call) : Datum :=
  calls.foldl Call.levelAfter warningLevel.toDatum

/-- The registry after a call, if the call returns. -/
def perform (registry : LogRegistry) : Call → Except Fault LogRegistry
  | .get name => (registry.get name).map Prod.snd
  | .setLevel level => registry.setLevel level
  | .configure level layout stream => registry.configure level layout stream

/-- The registry after some calls, if all of them return. -/
def performAll (registry : LogRegistry) : List Call → Except Fault LogRegistry
  | [] => .ok registry
  | call :: rest => do (← registry.perform call).performAll rest

/-! ## The invariant -/

/-- The registry as the program finds it: no logger has been asked for and the level is that of
warnings.  Others may have loggers of such names, but have given them no handlers. -/
structure Untouched (registry : LogRegistry) : Prop where
  known_eq_nil : registry.known = []
  defaultLevel_eq : registry.defaultLevel = warningLevel.toDatum
  bare : ∀ {name logger}, registry.find? (fullName name) = some logger → logger.handlers = []

/-- The loggers that were asked for are at a level, which is that of later ones as well; those that
were not asked for have no handlers. -/
structure Consistent (registry : LogRegistry) (level : Datum) : Prop where
  defaultLevel_eq : registry.defaultLevel = level
  isAt : ∀ {name}, name ∈ registry.known → ∃ logger, registry.find? name = some logger ∧
    logger.IsAt level
  bare : ∀ {name logger}, fullName name ∉ registry.known →
    registry.find? (fullName name) = some logger → logger.handlers = []

variable {registry result : LogRegistry} {level : Datum}

theorem Untouched.consistent (untouched : registry.Untouched) :
    registry.Consistent warningLevel.toDatum where
  defaultLevel_eq := untouched.defaultLevel_eq
  isAt known := by simp [untouched.known_eq_nil] at known
  bare _ found := untouched.bare found

/-- A logger that the program has not asked for before is set up at the level of later loggers. -/
theorem Consistent.setUp_isAt (consistent : registry.Consistent level) {name : Option String}
    {logger : Logger} (unknown : fullName name ∉ registry.known)
    (succeeded : registry.setUp ((registry.find? (fullName name)).getD {}) = .ok logger) :
    logger.IsAt level := by
  have bare : ((registry.find? (fullName name)).getD {}).handlers = [] := by
    cases found : registry.find? (fullName name) with
    | none => rfl
    | some earlier => exact consistent.bare unknown found
  rw [setUp, if_pos (by simp [bare]), consistent.defaultLevel_eq] at succeeded
  obtain ⟨own, is, rfl⟩ := eq_ok_of_map succeeded
  exact ⟨_, rfl, rfl, Level.toDatum_of_ofDatum is⟩

/-- Asking for a logger that was asked for before gives this logger and changes nothing. -/
theorem get_of_mem_known {name : Option String} (known : fullName name ∈ registry.known) :
    registry.get name = .ok (fullName name, registry) := by
  simp only [get]
  rw [if_pos known]

/-- Asking for another logger adds one, which is set up. -/
theorem get_eq_ok {name : Option String} {full : String} (unknown : fullName name ∉ registry.known)
    (succeeded : registry.get name = .ok (full, result)) :
    ∃ logger, registry.setUp ((registry.find? (fullName name)).getD {}) = .ok logger ∧
      result = { registry.put (fullName name) logger with
        known := registry.known ++ [fullName name] } := by
  simp only [get] at succeeded
  rw [if_neg unknown] at succeeded
  obtain ⟨logger, isSetUp, same⟩ := eq_ok_of_map succeeded
  exact ⟨logger, isSetUp, (congrArg Prod.snd same).symm⟩

/-- Bringing the loggers to a level sets the level of later ones, and changes those that were asked
for, if there are any, provided that it is a level. -/
theorem mapLevel_eq_ok {asked : Datum} {change : Level → Logger → Logger}
    (succeeded : registry.mapLevel asked change = .ok result) :
    (registry.known = [] ∧ result = { registry with defaultLevel := Level.asked asked }) ∨
      ∃ own, Level.ofDatum (Level.asked asked) = .ok own ∧
        result = { registry.mapKnown (change own) with defaultLevel := Level.asked asked } := by
  simp only [mapLevel] at succeeded
  by_cases none : registry.known.isEmpty
  · rw [if_pos none] at succeeded
    cases succeeded
    exact .inl ⟨List.isEmpty_iff.mp none, rfl⟩
  · rw [if_neg none] at succeeded
    obtain ⟨own, is, rfl⟩ := eq_ok_of_map succeeded
    exact .inr ⟨own, is, rfl⟩

/-- Asking for a logger keeps the registry consistent. -/
theorem Consistent.get (consistent : registry.Consistent level) {name : Option String}
    {full : String} (succeeded : registry.get name = .ok (full, result)) :
    result.Consistent level := by
  by_cases known : fullName name ∈ registry.known
  · rw [get_of_mem_known known] at succeeded
    cases succeeded
    exact consistent
  · obtain ⟨logger, isSetUp, rfl⟩ := get_eq_ok known succeeded
    have isAt := consistent.setUp_isAt known isSetUp
    have found : ∀ other, (registry.put (fullName name) logger).find? other =
        if other = fullName name then some logger else registry.find? other :=
      fun other => find?_put registry (fullName name) other logger
    refine ⟨consistent.defaultLevel_eq, fun {other} mem => ?_, fun {other bare} unknown is => ?_⟩
    · rcases List.mem_append.mp mem with earlier | new
      · have different : other ≠ fullName name := fun same => known (same ▸ earlier)
        obtain ⟨own, is, isAtLevel⟩ := consistent.isAt earlier
        exact ⟨own, ((found other).trans (if_neg different)).trans is, isAtLevel⟩
      · exact ⟨logger, (found other).trans (if_pos (List.mem_singleton.mp new)), isAt⟩
    · have different : fullName other ≠ fullName name := fun same =>
        unknown (List.mem_append_right _ (List.mem_singleton.mpr same))
      exact consistent.bare (fun earlier => unknown (List.mem_append_left _ earlier))
        (((found _).trans (if_neg different)).symm.trans is)

/-- Bringing the loggers to a level keeps the registry consistent, provided that this leaves a logger
with one handler at that level. -/
theorem Consistent.mapLevel (consistent : registry.Consistent level) {asked : Datum}
    {change : Level → Logger → Logger}
    (leaves : ∀ {own logger}, logger.IsAt level → (change own logger).IsAt own.toDatum)
    (succeeded : registry.mapLevel asked change = .ok result) :
    result.Consistent (Level.asked asked) := by
  rcases mapLevel_eq_ok succeeded with ⟨none, rfl⟩ | ⟨own, is, rfl⟩
  · exact ⟨rfl, fun {name} known => by simp [none] at known, consistent.bare⟩
  · have isLevel := Level.toDatum_of_ofDatum is
    have found : ∀ name, (registry.mapKnown (change own)).find? name =
        if name ∈ registry.known then (registry.find? name).map (change own)
        else registry.find? name := find?_mapKnown registry (change own)
    refine ⟨rfl, fun {name} known => ?_, fun {name logger} unknown is => ?_⟩
    · obtain ⟨logger, is, isAt⟩ := consistent.isAt known
      refine ⟨change own logger, ((found name).trans (if_pos known)).trans (by rw [is]; rfl), ?_⟩
      exact isLevel ▸ leaves isAt
    · exact consistent.bare unknown (((found _).trans (if_neg unknown)).symm.trans is)

/-- A call that returns leads from a registry that is consistent with a level to one that is
consistent with the level that the call leaves. -/
theorem Consistent.perform (consistent : registry.Consistent level) {call : Call}
    (returned : registry.perform call = .ok result) :
    result.Consistent (call.levelAfter level) := by
  cases call with
  | get name =>
      obtain ⟨⟨full, _⟩, succeeded, rfl⟩ := eq_ok_of_map returned
      exact consistent.get succeeded
  | setLevel asked =>
      refine consistent.mapLevel (fun {own logger} isAt => ?_) returned
      obtain ⟨handler, one, -, -⟩ := isAt
      exact ⟨{ handler with level := own }, by simp [one], rfl, rfl⟩
  | configure asked layout stream =>
      obtain ⟨parsed, -, succeeded⟩ := bind_eq_ok returned
      exact consistent.mapLevel (fun _ => ⟨_, rfl, rfl, rfl⟩) succeeded

/-- Calls that return lead from a registry that is consistent with a level to one that is consistent
with the level that the last of them leaves. -/
theorem Consistent.performAll {calls : List Call} {registry : LogRegistry} {level : Datum}
    (consistent : registry.Consistent level) (returned : registry.performAll calls = .ok result) :
    result.Consistent (calls.foldl Call.levelAfter level) := by
  induction calls generalizing registry level with
  | nil =>
      cases returned
      exact consistent
  | cons call rest inductionHypothesis =>
      obtain ⟨next, first, others⟩ := bind_eq_ok returned
      exact inductionHypothesis (consistent.perform first) others

/-! ## What was asked for -/

/-- Bringing the loggers to a level leaves those known that were. -/
theorem known_of_mapLevel {asked : Datum} {change : Level → Logger → Logger}
    (succeeded : registry.mapLevel asked change = .ok result) : result.known = registry.known := by
  rcases mapLevel_eq_ok succeeded with ⟨-, rfl⟩ | ⟨own, -, rfl⟩ <;> rfl

/-- What is known stays so. -/
theorem known_subset_of_perform {call : Call} (returned : registry.perform call = .ok result) :
    registry.known ⊆ result.known := by
  cases call with
  | get name =>
      obtain ⟨⟨full, _⟩, succeeded, rfl⟩ := eq_ok_of_map returned
      by_cases known : fullName name ∈ registry.known
      · rw [get_of_mem_known known] at succeeded
        cases succeeded
        exact List.Subset.refl _
      · obtain ⟨logger, -, rfl⟩ := get_eq_ok known succeeded
        exact List.subset_append_left _ _
  | setLevel asked => exact (known_of_mapLevel returned) ▸ List.Subset.refl _
  | configure asked layout stream =>
      obtain ⟨parsed, -, succeeded⟩ := bind_eq_ok returned
      exact (known_of_mapLevel succeeded) ▸ List.Subset.refl _

/-- A logger that is asked for is known. -/
theorem mem_known_of_perform_get {name : Option String}
    (returned : registry.perform (.get name) = .ok result) : fullName name ∈ result.known := by
  obtain ⟨⟨full, _⟩, succeeded, rfl⟩ := eq_ok_of_map returned
  by_cases known : fullName name ∈ registry.known
  · rw [get_of_mem_known known] at succeeded
    cases succeeded
    exact known
  · obtain ⟨logger, -, rfl⟩ := get_eq_ok known succeeded
    exact List.mem_append_right _ (List.mem_singleton.mpr rfl)

theorem known_subset_of_performAll {calls : List Call} {registry : LogRegistry}
    (returned : registry.performAll calls = .ok result) : registry.known ⊆ result.known := by
  induction calls generalizing registry with
  | nil =>
      cases returned
      exact List.Subset.refl _
  | cons call rest inductionHypothesis =>
      obtain ⟨next, first, others⟩ := bind_eq_ok returned
      exact List.Subset.trans (known_subset_of_perform first) (inductionHypothesis others)

/-- What one of the calls asked for is known after all of them. -/
theorem mem_known_of_performAll {calls : List Call} {registry : LogRegistry} {name : Option String}
    (returned : registry.performAll calls = .ok result) (asked : .get name ∈ calls) :
    fullName name ∈ result.known := by
  induction calls generalizing registry with
  | nil => cases asked
  | cons call rest inductionHypothesis =>
      obtain ⟨next, first, others⟩ := bind_eq_ok returned
      rcases List.mem_cons.mp asked with rfl | later
      · exact known_subset_of_performAll others (mem_known_of_perform_get first)
      · exact inductionHypothesis others later

/-- After any calls that return, the level of later loggers is the last one that was set.  Every
logger that was asked for has it, and exactly one handler, which has it too; asking for it again
changes nothing.  A name that does not begin with the program's own gives the same logger with the
program's name in front of it. -/
theorem performAll_loggers {start : LogRegistry} {calls : List Call} (untouched : start.Untouched)
    (returned : start.performAll calls = .ok registry) :
    registry.defaultLevel = lastLevel calls ∧
      (∀ name, .get name ∈ calls →
        (∃ logger handler, registry.find? (fullName name) = some logger ∧
          logger.handlers = [handler] ∧ logger.level.toDatum = lastLevel calls ∧
          handler.level.toDatum = lastLevel calls) ∧
        registry.get name = .ok (fullName name, registry)) ∧
      ∀ name : String, ¬ programName.toList <+: name.toList →
        registry.get (some (programName ++ "." ++ name)) = registry.get (some name) := by
  have consistent : registry.Consistent (lastLevel calls) := untouched.consistent.performAll returned
  refine ⟨consistent.defaultLevel_eq, fun name asked => ?_, fun name foreign => ?_⟩
  · have known := mem_known_of_performAll returned asked
    obtain ⟨logger, found, handler, one, same, isLast⟩ := consistent.isAt known
    exact ⟨⟨logger, handler, found, one, isLast, same ▸ isLast⟩, get_of_mem_known known⟩
  · simp only [get]
    rw [fullName_qualified foreign]

/-- Loggers that are asked for before and after the level is set and the logging is configured. -/
def mixedCalls : List Call :=
  [.get (some "ipm"), .setLevel infoLevel.toDatum, .get none,
    .configure errorLevel.toDatum .null .other, .get (some "lpviz_solvers.ipm"), .get (some "pdhg")]

theorem mixedCalls_loggers :
    ({} : LogRegistry).Untouched ∧ ∃ registry, performAll {} mixedCalls = .ok registry ∧
      registry.defaultLevel = errorLevel.toDatum ∧
      ∃ logger handler, registry.find? "lpviz_solvers.ipm" = some logger ∧
        logger.handlers = [handler] ∧ logger.level.toDatum = errorLevel.toDatum ∧
        handler.level.toDatum = errorLevel.toDatum := by
  have untouched : ({} : LogRegistry).Untouched := ⟨rfl, rfl, nofun⟩
  have last : lastLevel mixedCalls = errorLevel.toDatum := rfl
  obtain ⟨registry, returned⟩ : ∃ registry, performAll {} mixedCalls = .ok registry := ⟨_, rfl⟩
  obtain ⟨isLast, obtained, -⟩ := performAll_loggers untouched returned
  refine ⟨untouched, registry, returned, isLast.trans last, ?_⟩
  rw [← last]
  exact (obtained (some "ipm") (List.mem_cons_self ..)).1

end LogRegistry

end PolyTrace
