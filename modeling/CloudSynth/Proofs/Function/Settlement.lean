import Mathlib.Algebra.Order.Field.Basic
import Mathlib.Algebra.Order.Field.Power
import Mathlib.Algebra.Order.Field.Rat
import Mathlib.Data.Rat.Cast.Order
import Mathlib.Tactic.Positivity
import CloudSynth.Function.Resolution

/-!
# Accepted settings

What the settings of a function must be like, said without the functions that check them: a size is
a double that denotes a natural number within its limits, an environment key is a word of the
grammar, and so on (`Acceptable`). Each check has a lemma for when it passes and one for when it
fails. The failures are told apart by the check (`Fails`), and the first check that fails decides
(`FailsFirst`). Both are put together check by check, in the order in which settings are resolved.
-/

namespace CloudSynth

/-! ## Numbers that doubles denote -/

namespace Double

variable {number : Double} {least greatest size : Nat}

/-- The number that is denoted; infinities and what is not a number denote none. -/
def value? : Double → Option ℚ
  | .notANumber | .infinite _ => none
  | .finite negative significand exponent =>
    some ((if negative then -1 else 1) * (significand * 2 ^ exponent))

/-- The number of the given magnitude that is denoted, without its sign. -/
theorem scaled_eq_iff {significand magnitude : Nat} {exponent : Int} :
    (if 0 ≤ exponent then some (significand * Nat.pow 2 exponent.toNat)
      else if significand % Nat.pow 2 (-exponent).toNat = 0 then
        some (significand / Nat.pow 2 (-exponent).toNat)
      else none) = some magnitude ↔ (significand * 2 ^ exponent : ℚ) = magnitude := by
  simp only [Nat.pow_eq]
  -- Only with a negative exponent can the magnitude fail to be whole.
  by_cases large : 0 ≤ exponent
  · obtain ⟨power, rfl⟩ := Int.eq_ofNat_of_zero_le large
    simp only [large, if_true, Option.some.injEq, Int.toNat_natCast, zpow_natCast]
    exact_mod_cast Iff.rfl
  · obtain ⟨power, same⟩ := Int.eq_ofNat_of_zero_le (show 0 ≤ -exponent by omega)
    obtain rfl : exponent = -(power : Int) := by omega
    have positive : (0 : ℚ) < 2 ^ power := by positivity
    simp only [large, if_false, neg_neg, Int.toNat_natCast, zpow_neg, zpow_natCast]
    rw [mul_inv_eq_iff_eq_mul₀ positive.ne']
    constructor
    · intro whole
      split at whole
      · next divides =>
        cases whole
        exact_mod_cast (Nat.div_mul_cancel (Nat.dvd_of_mod_eq_zero divides)).symm
      · cases whole
    · intro same
      have product : significand = magnitude * 2 ^ power := by exact_mod_cast same
      simp [product]

theorem asInteger?_eq_some_iff {whole : Int} :
    number.asInteger? = some whole ↔ number.value? = some (whole : ℚ) := by
  cases number with
  | notANumber => simp [asInteger?, value?]
  | infinite negative => simp [asInteger?, value?]
  | finite negative significand exponent =>
    simp only [asInteger?, value?, Option.map_eq_some_iff, Option.bind_eq_bind, Option.pure_def,
      Option.bind_eq_some_iff, scaled_eq_iff, Option.some.injEq]
    constructor
    · rintro ⟨_, ⟨magnitude, same, rfl⟩, rfl⟩
      cases negative <;> simp [same]
    · intro same
      have nonnegative : (0 : ℚ) ≤ significand * 2 ^ exponent := by positivity
      generalize (significand * 2 ^ exponent : ℚ) = scaled at same nonnegative
      refine ⟨_, ⟨whole.natAbs, ?_, rfl⟩, ?_⟩
      · rw [Nat.cast_natAbs, Int.cast_abs, ← same]
        cases negative <;> simp [abs_of_nonneg nonnegative]
      · have sign : 0 ≤ (if negative then -(whole : ℚ) else whole) := by
          cases negative <;> simp [← same, nonnegative]
        cases negative
        · have isNatural : 0 ≤ whole := by exact_mod_cast sign
          simp [abs_of_nonneg isNatural]
        · have isNegative : whole ≤ 0 := by
            simp only [if_true, Left.nonneg_neg_iff] at sign
            exact_mod_cast sign
          simp [abs_of_nonpos isNegative]

theorem wholeBetween?_eq_some_iff : number.wholeBetween? least greatest = some size ↔
    number.value? = some (size : ℚ) ∧ least ≤ size ∧ size ≤ greatest := by
  have isWhole : number.asInteger? = some (size : Int) ↔ number.value? = some (size : ℚ) := by
    rw [asInteger?_eq_some_iff, Int.cast_natCast]
  rw [← isWhole, wholeBetween?]
  cases number.asInteger? with
  | none => simp
  | some whole =>
    simp only [Option.some.injEq, Option.ite_none_right_eq_some]
    omega

end Double

/-! ## What is asked of the settings -/

/-- The double is equal to a natural number within the limits. -/
def Double.IsWhole (number : Double) (least greatest : Nat) : Prop :=
  ∃ size : Nat, number.value? = some (size : ℚ) ∧ least ≤ size ∧ size ≤ greatest

/-- A letter of the alphabet, without marks. -/
def IsLetter (character : Char) : Prop :=
  ('a' ≤ character ∧ character ≤ 'z') ∨ ('A' ≤ character ∧ character ≤ 'Z')

/-- A key of the form `[a-zA-Z][a-zA-Z0-9_]+`. -/
def IsKey (key : String) : Prop :=
  ∃ first rest, key.toList = first :: rest ∧ IsLetter first ∧ rest ≠ [] ∧
    ∀ character ∈ rest,
      IsLetter character ∨ ('0' ≤ character ∧ character ≤ '9') ∨ character = '_'

theorem isAlpha_iff {character : Char} : character.isAlpha = true ↔ IsLetter character := by
  have upper : character.isUpper = true ↔ 'A' ≤ character ∧ character ≤ 'Z' := by
    change decide ('A' ≤ character ∧ character ≤ 'Z') = true ↔ _
    simp
  have lower : character.isLower = true ↔ 'a' ≤ character ∧ character ≤ 'z' := by
    change (decide ('a' ≤ character) && decide (character ≤ 'z')) = true ↔ _
    simp
  change (character.isUpper || character.isLower) = true ↔ _
  rw [Bool.or_eq_true, upper, lower, or_comm]
  exact Iff.rfl

theorem isEnvironmentKey_iff_isKey {key : String} : isEnvironmentKey key = true ↔ IsKey key := by
  unfold isEnvironmentKey IsKey
  rcases key.toList with _ | ⟨first, _ | ⟨second, rest⟩⟩
  · simp
  · simp
  · simp [isAlpha_iff, Char.isAlphanum, Char.isDigit, or_assoc, Char.le_def]

instance : DecidablePred IsKey := fun _ => decidable_of_iff _ isEnvironmentKey_iff_isKey

namespace FunctionSettings

/-- The settings are such that a function can have them. -/
structure Acceptable (settings : FunctionSettings) : Prop where
  timeout : ∀ number ∈ settings.timeoutSeconds, number.IsWhole 1 900
  memory : ∀ number ∈ settings.memoryMB, number.IsWhole 128 10240
  ephemeralStorage : ∀ number ∈ settings.ephemeralStorageSizeMB, number.IsWhole 512 10240
  environmentKeys : ∀ key ∈ settings.environment.keys, IsKey key
  runtime : ∀ version ∈ settings.runtime, version ∈ [16, 18, 20, 22]
  architecture : ∀ name ∈ settings.architecture, name ∈ ["arm64", "x86_64"]
  schedules : ∀ schedule ∈ settings.schedule, ∃ cron, Schedule.cron? schedule = some cron

/-- A size that is given is the natural number that the double is equal to. -/
inductive Settles (default least greatest : Nat) : Option Double → Nat → Prop
  | unset : Settles default least greatest none default
  | given {number : Double} {size : Nat} (equal : number.value? = some (size : ℚ))
    (least_le : least ≤ size) (le_greatest : size ≤ greatest) :
    Settles default least greatest (some number) size

/-- The function that acceptable settings describe. -/
structure Describes (settings : FunctionSettings) (site : DefinitionSite)
    (resolved : ResolvedFunction) : Prop where
  name : resolved.name = settings.resolvedName site
  entry : resolved.entry = settings.resolvedEntry site
  timeout : Settles 3 1 900 settings.timeoutSeconds resolved.timeoutSeconds
  memory : Settles 512 128 10240 settings.memoryMB resolved.memoryMB
  ephemeralStorage :
    Settles 512 512 10240 settings.ephemeralStorageSizeMB resolved.ephemeralStorageSizeMB
  environmentKeys : ∀ key ∈ settings.environment.keys, IsKey key
  environment : resolved.environment = settings.environment
  runtime : resolved.runtime = settings.runtime.getD 20
  supported : resolved.runtime ∈ [16, 18, 20, 22]
  architecture : settings.architecture.getD "x86_64" = resolved.architecture.name
  schedules : List.Forall₂ (fun schedule cron => Schedule.cron? schedule = some cron)
    settings.schedule resolved.schedules
  logging : resolved.logging = settings.logging

/-- The checks of the settings. -/
inductive Check
  | timeout
  | memory
  | ephemeralStorage
  | environmentKeys
  | runtime
  | architecture
  | schedules

/-- The checks in the order in which they are made. -/
def Check.inOrder : List Check :=
  [.timeout, .memory, .ephemeralStorage, .environmentKeys, .runtime, .architecture, .schedules]

/-- How the settings fail a check, and what is reported then. -/
def Fails (settings : FunctionSettings) : Check → FunctionFault → Prop
  | .timeout, fault => ∃ number, settings.timeoutSeconds = some number ∧
      ¬ number.IsWhole 1 900 ∧ fault = .size .timeout number
  | .memory, fault => ∃ number, settings.memoryMB = some number ∧
      ¬ number.IsWhole 128 10240 ∧ fault = .size .memory number
  | .ephemeralStorage, fault => ∃ number, settings.ephemeralStorageSizeMB = some number ∧
      ¬ number.IsWhole 512 10240 ∧ fault = .size .ephemeralStorage number
  | .environmentKeys, fault => (∃ key ∈ settings.environment.keys, ¬ IsKey key) ∧
      fault = .environmentKeys (settings.environment.keys.filter fun key => ¬ IsKey key)
  | .runtime, fault => ∃ version, settings.runtime = some version ∧
      version ∉ [16, 18, 20, 22] ∧ fault = .runtime version
  | .architecture, fault => ∃ name, settings.architecture = some name ∧
      name ∉ ["arm64", "x86_64"] ∧ fault = .architecture name
  | .schedules, fault => ∃ before schedule after, settings.schedule = before ++ schedule :: after ∧
      (∀ earlier ∈ before, ∃ cron, Schedule.cron? earlier = some cron) ∧
      Schedule.cron? schedule = none ∧ fault = .schedule schedule

/-- The settings pass the checks up to the first that they fail. -/
inductive FailsFirst (settings : FunctionSettings) : List Check → FunctionFault → Prop
  | here {check : Check} {later : List Check} {fault : FunctionFault}
    (fails : Fails settings check fault) : FailsFirst settings (check :: later) fault
  | behind {check : Check} {later : List Check} {fault : FunctionFault}
    (passes : ∀ fault, ¬ Fails settings check fault) (fails : FailsFirst settings later fault) :
    FailsFirst settings (check :: later) fault

/-! ## The checks, one by one -/

section Steps

variable {settings : FunctionSettings} {fault : FunctionFault}

section Sizes

variable {setting : SizeSetting} {given : Option Double}

theorem resolvedSize_eq_ok_iff {size : Nat} : resolvedSize setting given = .ok size ↔
    Settles setting.default setting.least setting.greatest given size := by
  cases given with
  | none =>
    simp only [resolvedSize, Except.ok.injEq]
    constructor
    · rintro rfl
      exact .unset
    · rintro ⟨⟩
      rfl
  | some number =>
    have whole : number.wholeBetween? setting.least setting.greatest = some size ↔
        number.value? = some (size : ℚ) ∧ setting.least ≤ size ∧ size ≤ setting.greatest :=
      Double.wholeBetween?_eq_some_iff
    constructor
    · intro resolves
      simp only [resolvedSize] at resolves
      split at resolves
      · next found =>
        cases resolves
        rcases whole.mp found with ⟨equal, least_le, le_greatest⟩
        exact .given equal least_le le_greatest
      · cases resolves
    · rintro (_ | ⟨equal, least_le, le_greatest⟩)
      simp [resolvedSize, whole.mpr ⟨equal, least_le, le_greatest⟩]

theorem resolvedSize_eq_error_iff : resolvedSize setting given = .error fault ↔
    ∃ number, given = some number ∧ ¬ number.IsWhole setting.least setting.greatest ∧
      fault = .size setting number := by
  cases given with
  | none => simp [resolvedSize]
  | some number =>
    simp only [resolvedSize, Double.IsWhole, ← Double.wholeBetween?_eq_some_iff]
    cases found : number.wholeBetween? setting.least setting.greatest with
    | none => simp [found, eq_comm]
    | some size => simp [found]

end Sizes

section Environments

variable {environment accepted : OrderedMap String EnvironmentValue}

theorem filter_not_isKey (keys : List String) :
    (keys.filter fun key => !isEnvironmentKey key) = keys.filter fun key => ¬ IsKey key := by
  apply List.filter_congr
  intro key _
  simp [← isEnvironmentKey_iff_isKey]

theorem resolvedEnvironment_eq (environment : OrderedMap String EnvironmentValue) :
    resolvedEnvironment environment =
      if ∀ key ∈ environment.keys, IsKey key then .ok environment
      else .error (.environmentKeys (environment.keys.filter fun key => ¬ IsKey key)) := by
  have noFaults : (environment.keys.filter fun key => ¬ IsKey key) = [] ↔
      ∀ key ∈ environment.keys, IsKey key := by
    simp [List.filter_eq_nil_iff]
  unfold resolvedEnvironment
  rw [filter_not_isKey]
  by_cases valid : ∀ key ∈ environment.keys, IsKey key
  · rw [if_pos valid, noFaults.mpr valid]
  · rw [if_neg valid]
    cases invalid : environment.keys.filter fun key => ¬ IsKey key with
    | nil => exact absurd (noFaults.mp invalid) valid
    | cons key others => rfl

theorem resolvedEnvironment_eq_ok_iff : resolvedEnvironment environment = .ok accepted ↔
    (∀ key ∈ environment.keys, IsKey key) ∧ accepted = environment := by
  rw [resolvedEnvironment_eq]
  by_cases valid : ∀ key ∈ environment.keys, IsKey key
  · rw [if_pos valid, Except.ok.injEq, eq_comm]
    exact (and_iff_right valid).symm
  · rw [if_neg valid]
    simp only [reduceCtorEq, false_iff, not_and]
    exact fun isValid => absurd isValid valid

theorem resolvedEnvironment_eq_error_iff : resolvedEnvironment environment = .error fault ↔
    (∃ key ∈ environment.keys, ¬ IsKey key) ∧
      fault = .environmentKeys (environment.keys.filter fun key => ¬ IsKey key) := by
  rw [resolvedEnvironment_eq]
  by_cases valid : ∀ key ∈ environment.keys, IsKey key
  · simpa only [if_pos valid, reduceCtorEq, false_iff, not_and] using
      fun ⟨key, declared, invalid⟩ => absurd (valid key declared) invalid
  · rw [if_neg valid, Except.error.injEq, eq_comm]
    exact (and_iff_right (by simpa using valid)).symm

end Environments

theorem resolvedRuntime_eq_ok_iff {given : Option Nat} {version : Nat} :
    resolvedRuntime given = .ok version ↔
      version = given.getD defaultRuntime ∧ version ∈ supportedRuntimes := by
  simp only [resolvedRuntime]
  split
  · next supported =>
    constructor
    · rintro ⟨⟩
      exact ⟨rfl, supported⟩
    · rintro ⟨rfl, -⟩
      rfl
  · next unsupported =>
    simp only [reduceCtorEq, false_iff, not_and]
    rintro rfl
    exact unsupported

theorem resolvedRuntime_eq_error_iff {given : Option Nat} :
    resolvedRuntime given = .error fault ↔
      ∃ version, given = some version ∧ version ∉ supportedRuntimes ∧ fault = .runtime version := by
  cases given with
  | none => simp [resolvedRuntime, show defaultRuntime ∈ supportedRuntimes by decide]
  | some version =>
    by_cases supported : version ∈ supportedRuntimes
    · simp [resolvedRuntime, supported]
    · simp [resolvedRuntime, supported, eq_comm]

theorem ofName?_eq_some_iff {name : String} {architecture : Architecture} :
    Architecture.ofName? name = some architecture ↔ name = architecture.name := by
  constructor
  · intro found
    exact (by simpa using List.find?_some found : architecture.name = name).symm
  · rintro rfl
    cases architecture <;> rfl

theorem ofName?_eq_none_iff {name : String} :
    Architecture.ofName? name = none ↔ name ∉ ["arm64", "x86_64"] := by
  rw [Architecture.ofName?, List.find?_eq_none]
  simp [Architecture.name, eq_comm]

theorem resolvedArchitecture_eq_ok_iff {given : Option String} {architecture : Architecture} :
    resolvedArchitecture given = .ok architecture ↔
      given.getD "x86_64" = architecture.name := by
  cases given with
  | none =>
    cases architecture <;> simp [resolvedArchitecture, Architecture.default, Architecture.name]
  | some name =>
    rw [Option.getD_some, ← ofName?_eq_some_iff, resolvedArchitecture]
    cases Architecture.ofName? name <;> simp

theorem resolvedArchitecture_eq_error_iff {given : Option String} :
    resolvedArchitecture given = .error fault ↔
      ∃ name, given = some name ∧ name ∉ ["arm64", "x86_64"] ∧ fault = .architecture name := by
  cases given with
  | none => simp [resolvedArchitecture]
  | some name =>
    simp only [← ofName?_eq_none_iff, resolvedArchitecture, Option.some.injEq]
    cases found : Architecture.ofName? name <;> simp [found, eq_comm]

theorem resolvedSchedules_eq_ok_iff {schedules crons : List String} :
    resolvedSchedules schedules = .ok crons ↔
      List.Forall₂ (fun schedule cron => Schedule.cron? schedule = some cron) schedules crons := by
  induction schedules generalizing crons with
  | nil => simp [resolvedSchedules, eq_comm]
  | cons schedule rest ih =>
    simp only [resolvedSchedules, List.forall₂_cons_left_iff, ← ih]
    cases Schedule.cron? schedule with
    | none => simp
    | some cron =>
      cases resolvedSchedules rest <;> simp [Except.map, eq_comm]

theorem resolvedSchedules_eq_error_iff {schedules : List String} :
    resolvedSchedules schedules = .error fault ↔
      ∃ before schedule after, schedules = before ++ schedule :: after ∧
        (∀ earlier ∈ before, ∃ cron, Schedule.cron? earlier = some cron) ∧
        Schedule.cron? schedule = none ∧ fault = .schedule schedule := by
  induction schedules with
  | nil => simp [resolvedSchedules]
  | cons schedule rest ih =>
    simp only [resolvedSchedules]
    cases found : Schedule.cron? schedule with
    | none =>
      constructor
      · rintro ⟨⟩
        exact ⟨[], schedule, rest, rfl, by simp, found, rfl⟩
      · rintro ⟨before, refused, after, split, converted, isRefused, rfl⟩
        cases before with
        | nil => cases split; rfl
        | cons first before =>
          cases split
          rcases converted schedule List.mem_cons_self with ⟨cron, converts⟩
          cases found.symm.trans converts
    | some cron =>
      have behind : (resolvedSchedules rest).map (cron :: ·) = .error fault ↔
          resolvedSchedules rest = .error fault := by
        cases resolvedSchedules rest <;> simp [Except.map]
      rw [behind, ih]
      constructor
      · rintro ⟨before, refused, after, rfl, converted, isRefused⟩
        refine ⟨schedule :: before, refused, after, rfl, ?_, isRefused⟩
        simpa [found] using converted
      · rintro ⟨before, refused, after, split, converted, isRefused⟩
        cases before with
        | nil =>
          cases split
          cases found.symm.trans isRefused.1
        | cons first before =>
          cases split
          exact ⟨before, refused, after, rfl,
            fun earlier inside => converted earlier (List.mem_cons_of_mem _ inside), isRefused⟩

end Steps

/-! ## All checks in their order -/

variable {settings : FunctionSettings} {site : DefinitionSite} {resolved : ResolvedFunction}
  {fault : FunctionFault}

theorem resolve_eq_ok_iff :
    settings.resolve site = .ok resolved ↔ Describes settings site resolved := by
  simp only [resolve, bind_eq_ok, resolvedSize_eq_ok_iff, resolvedEnvironment_eq_ok_iff,
    resolvedRuntime_eq_ok_iff, resolvedArchitecture_eq_ok_iff, resolvedSchedules_eq_ok_iff]
  constructor
  · rintro ⟨timeout, forTimeout, memory, forMemory, storage, forStorage, environment,
      ⟨keys, rfl⟩, runtime, ⟨rfl, supported⟩, architecture, known, schedules, converted, ⟨⟩⟩
    exact ⟨rfl, rfl, forTimeout, forMemory, forStorage, keys, rfl, rfl, supported, known,
      converted, rfl⟩
  · intro describes
    rcases resolved with ⟨name, entry, timeout, memory, storage, environment, runtime,
      architecture, schedules, logging⟩
    refine ⟨timeout, describes.timeout, memory, describes.memory, storage,
      describes.ephemeralStorage, environment, ⟨describes.environmentKeys, describes.environment⟩,
      runtime, ⟨describes.runtime, describes.supported⟩, architecture, describes.architecture,
      schedules, describes.schedules, ?_⟩
    rw [← describes.name, ← describes.entry, ← describes.logging]
    rfl

theorem Settles.isWhole {default least greatest size : Nat} {given : Option Double}
    (settles : Settles default least greatest given size) :
    ∀ number ∈ given, number.IsWhole least greatest := by
  intro number isGiven
  cases settles with
  | unset => cases isGiven
  | given equal least_le le_greatest =>
    cases isGiven
    exact ⟨size, equal, least_le, le_greatest⟩

theorem exists_settles (default : Nat) {least greatest : Nat} {given : Option Double}
    (whole : ∀ number ∈ given, number.IsWhole least greatest) :
    ∃ size, Settles default least greatest given size := by
  cases given with
  | none => exact ⟨default, .unset⟩
  | some number =>
    rcases whole number rfl with ⟨size, equal, least_le, le_greatest⟩
    exact ⟨size, .given equal least_le le_greatest⟩

theorem exists_crons_iff {schedules : List String} :
    (∃ crons, List.Forall₂ (fun schedule cron => Schedule.cron? schedule = some cron)
      schedules crons) ↔ ∀ schedule ∈ schedules, ∃ cron, Schedule.cron? schedule = some cron := by
  induction schedules with
  | nil => simp
  | cons schedule rest ih =>
    rw [List.forall_mem_cons, ← ih]
    constructor
    · rintro ⟨_, _ | ⟨converts, others⟩⟩
      exact ⟨⟨_, converts⟩, _, others⟩
    · rintro ⟨⟨cron, converts⟩, crons, others⟩
      exact ⟨cron :: crons, .cons converts others⟩

theorem exists_resolve_iff :
    (∃ resolved, settings.resolve site = .ok resolved) ↔ Acceptable settings := by
  simp only [resolve_eq_ok_iff]
  constructor
  · rintro ⟨resolved, describes⟩
    refine ⟨describes.timeout.isWhole, describes.memory.isWhole,
      describes.ephemeralStorage.isWhole, describes.environmentKeys, ?_, ?_,
      exists_crons_iff.mp ⟨_, describes.schedules⟩⟩
    · intro version isGiven
      have supported := describes.supported
      rw [describes.runtime, Option.mem_def.mp isGiven] at supported
      exact supported
    · intro name isGiven
      have known := describes.architecture
      rw [Option.mem_def.mp isGiven, Option.getD_some] at known
      rw [known]
      cases resolved.architecture <;> simp [Architecture.name]
  · intro acceptable
    rcases exists_settles 3 acceptable.timeout with ⟨timeoutSeconds, forTimeout⟩
    rcases exists_settles 512 acceptable.memory with ⟨memoryMB, forMemory⟩
    rcases exists_settles 512 acceptable.ephemeralStorage with
      ⟨ephemeralStorageSizeMB, forStorage⟩
    rcases exists_crons_iff.mpr acceptable.schedules with ⟨schedules, converted⟩
    have supported : settings.runtime.getD 20 ∈ [16, 18, 20, 22] := by
      cases given : settings.runtime with
      | none => decide
      | some version => exact acceptable.runtime version given
    have known : ∃ architecture : Architecture,
        settings.architecture.getD "x86_64" = architecture.name := by
      cases given : settings.architecture with
      | none => exact ⟨.x86_64, rfl⟩
      | some name =>
        rcases List.mem_cons.mp (acceptable.architecture name given) with rfl | isOther
        · exact ⟨.arm64, rfl⟩
        · exact ⟨.x86_64, List.mem_singleton.mp isOther⟩
    rcases known with ⟨architecture, known⟩
    let resolved : ResolvedFunction :=
      { name := settings.resolvedName site, entry := settings.resolvedEntry site, timeoutSeconds,
        memoryMB, ephemeralStorageSizeMB, environment := settings.environment,
        runtime := settings.runtime.getD 20, architecture, schedules, logging := settings.logging }
    exact ⟨resolved, rfl, rfl, forTimeout, forMemory, forStorage, acceptable.environmentKeys, rfl,
      rfl, supported, known, converted, rfl⟩

/-- A check that fails as it should, before checks of which the first to fail is reported. -/
theorem bind_eq_error_iff_failsFirst {α β : Type} {step : Except FunctionFault α}
    {next : α → Except FunctionFault β} {check : Check} {later : List Check}
    (fails : ∀ fault, step = .error fault ↔ Fails settings check fault)
    (rest : ∀ value fault, next value = .error fault ↔ FailsFirst settings later fault)
    (fault : FunctionFault) :
    step >>= next = .error fault ↔ FailsFirst settings (check :: later) fault := by
  rw [bind_eq_error]
  constructor
  · rintro (failed | ⟨value, passed, failed⟩)
    · exact .here ((fails fault).mp failed)
    · refine .behind ?_ ((rest value fault).mp failed)
      intro other failsToo
      rw [(fails other).mpr failsToo] at passed
      cases passed
  · intro failsFirst
    cases failsFirst with
    | here failed => exact .inl ((fails fault).mpr failed)
    | behind passes failed =>
      right
      cases taken : step with
      | error other => exact absurd ((fails other).mp taken) (passes other)
      | ok value => exact ⟨value, rfl, (rest value fault).mpr failed⟩

theorem resolve_eq_error_iff :
    settings.resolve site = .error fault ↔ FailsFirst settings Check.inOrder fault := by
  apply bind_eq_error_iff_failsFirst fun _ => resolvedSize_eq_error_iff
  intro timeoutSeconds
  apply bind_eq_error_iff_failsFirst fun _ => resolvedSize_eq_error_iff
  intro memoryMB
  apply bind_eq_error_iff_failsFirst fun _ => resolvedSize_eq_error_iff
  intro ephemeralStorageSizeMB
  apply bind_eq_error_iff_failsFirst fun _ => resolvedEnvironment_eq_error_iff
  intro environment
  apply bind_eq_error_iff_failsFirst fun _ => resolvedRuntime_eq_error_iff
  intro runtime
  apply bind_eq_error_iff_failsFirst fun _ => resolvedArchitecture_eq_error_iff
  intro architecture
  apply bind_eq_error_iff_failsFirst fun _ => resolvedSchedules_eq_error_iff
  intro schedules fault
  constructor <;> rintro ⟨⟩

theorem FailsFirst.exists_fails {checks : List Check} (fails : FailsFirst settings checks fault) :
    ∃ check, Fails settings check fault := by
  induction fails with
  | here fails => exact ⟨_, fails⟩
  | behind _ _ ih => exact ih

/-- Only the check of the environment reports keys, and it reports all that are invalid. -/
theorem eq_filter_of_fails {check : Check} {keys : List String}
    (fails : Fails settings check (.environmentKeys keys)) :
    keys = settings.environment.keys.filter fun key => ¬ IsKey key := by
  cases check with
  | timeout | memory | ephemeralStorage | runtime | architecture =>
    obtain ⟨_, _, _, ⟨⟩⟩ := fails
  | environmentKeys => exact FunctionFault.environmentKeys.inj fails.2
  | schedules => obtain ⟨_, _, _, _, _, _, ⟨⟩⟩ := fails

/-- Settings are resolved exactly if they are acceptable, and then to what they describe; otherwise
the first check that fails is reported, and invalid environment keys are all named, in the order in
which they are declared. -/
theorem resolve_by_checks (settings : FunctionSettings) (site : DefinitionSite) :
    ((∃ resolved, settings.resolve site = .ok resolved) ↔ Acceptable settings) ∧
    (∀ resolved, settings.resolve site = .ok resolved ↔ Describes settings site resolved) ∧
    (∀ fault, settings.resolve site = .error fault ↔
      FailsFirst settings Check.inOrder fault) ∧
    (∀ keys, settings.resolve site = .error (.environmentKeys keys) →
      keys = settings.environment.keys.filter (fun key => ¬ IsKey key) ∧
      ∃ resolution, (FunctionFault.environmentKeys keys).toError =
        .configuration "InvalidEnvironmentKeyError"
          ("Invalid function environment key(s): " ++ ", ".intercalate keys) resolution) := by
  refine ⟨exists_resolve_iff, fun _ => resolve_eq_ok_iff, fun _ => resolve_eq_error_iff, ?_⟩
  intro keys failed
  rcases (resolve_eq_error_iff.mp failed).exists_fails with ⟨check, fails⟩
  exact ⟨eq_filter_of_fails fails, _, rfl⟩

end FunctionSettings

end CloudSynth
