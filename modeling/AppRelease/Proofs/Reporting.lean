import AppRelease.Proofs.Configuration

/-!
# What a failure to build reports

Specification: variables and secrets are looked at together, but they are reported apart. When some
variable cannot be used, the error names exactly the variables that cannot be used; only when all
can, it names exactly the secrets that are missing (`Defaults.reports_variables_before_secrets`). So
the report is complete unless a secret is missing at the same time as a variable, and then it is
not: `Defaults.missing_secret_unreported` has an application without its image tag and without a
secret, and an error that names the tag only.

Crux: both lists are read off the templates in order. `secretShortfalls_eq` and
`variableShortfalls_eq` say which keys they hold, without the values that are found on the way.
-/

namespace AppRelease.Defaults

variable {d : Defaults} {known : Variables} {secrets : Secrets.Bundle} {error : Error}

/-! ## What is missing -/

/-- The variables that the templates ask for, in their order. -/
def resolvedKeys (d : Defaults) : List String :=
  d.env.filterMap fun entry =>
    match entry.2 with
    | .resolved key => some key
    | _ => none

/-- Keys that are read off one kind of template. -/
theorem mem_filterMap_env {f : String × Template → Option String} {form : String → Template}
    (hf : ∀ name t key, f (name, t) = some key ↔ t = form key) {key : String} :
    key ∈ d.env.filterMap f ↔ ∃ name, (name, form key) ∈ d.env := by
  rw [List.mem_filterMap]
  constructor
  · rintro ⟨⟨name, template⟩, hentry, hkey⟩
    rw [(hf name template key).mp hkey] at hentry
    exact ⟨name, hentry⟩
  · rintro ⟨name, hentry⟩
    exact ⟨_, hentry, (hf name _ key).mpr rfl⟩

theorem mem_resolvedKeys {key : String} : key ∈ d.resolvedKeys ↔
    ∃ name, (name, .resolved key) ∈ d.env :=
  mem_filterMap_env fun _ t _ => by cases t <;> simp

theorem mem_secretKeys {key : String} : key ∈ d.secretKeys ↔ ∃ name, (name, .secret key) ∈ d.env :=
  mem_filterMap_env fun _ t _ => by cases t <;> simp

/-- The variables that are missed are those that templates ask for and that are not known. -/
theorem variableShortfalls_eq : (d.shortfalls known secrets).filterMap Shortfall.variableKey? =
    d.resolvedKeys.filter fun key => (known.get? key).isNone := by
  rw [shortfalls, results, resolvedKeys, List.filterMap_map, List.filterMap_filterMap,
    List.filter_filterMap]
  congr 1
  funext entry
  obtain ⟨name, template⟩ := entry
  cases template with
  | resolved key =>
    cases hkey : known.get? key <;>
      simp [Template.value, hkey, Shortfall.variableKey?, Option.filter]
  | secret key =>
    cases hkey : secrets.get? key <;> simp [Template.value, hkey, Shortfall.variableKey?]
  | _ => rfl

/-- The secrets that are missed are those that templates ask for and that are not there. -/
theorem secretShortfalls_eq : (d.shortfalls known secrets).filterMap Shortfall.secretKey? =
    d.secretKeys.filter fun key => (secrets.get? key).isNone := by
  rw [shortfalls, results, secretKeys, List.filterMap_map, List.filterMap_filterMap,
    List.filter_filterMap]
  congr 1
  funext entry
  obtain ⟨name, template⟩ := entry
  cases template with
  | resolved key =>
    cases hkey : known.get? key <;> simp [Template.value, hkey, Shortfall.secretKey?]
  | secret key =>
    cases hkey : secrets.get? key <;>
      simp [Template.value, hkey, Shortfall.secretKey?, Option.filter]
  | _ => rfl

/-- A variable that cannot be used: the image tag that is not known or is no tag, or a variable that
a template asks for and that is not known. -/
def UnusableVariable (d : Defaults) (known : Variables) (key : String) : Prop :=
  (key = d.imageTagKey ∧ ¬ ∃ tag, known.get? key = some tag ∧ isImageTag tag = true) ∨
    ∃ name, (name, .resolved key) ∈ d.env ∧ known.get? key = none

/-- A secret that a template asks for and that is not there. -/
def MissingSecret (d : Defaults) (secrets : Secrets.Bundle) (key : String) : Prop :=
  ∃ name, (name, .secret key) ∈ d.env ∧ secrets.get? key = none

/-- Everything that keeps a configuration of acceptable defaults from being built. -/
def Unresolved (d : Defaults) (known : Variables) (secrets : Secrets.Bundle)
    (key : String) : Prop :=
  d.UnusableVariable known key ∨ d.MissingSecret secrets key

/-- A problem with the image is a problem of the variable that holds the tag. -/
theorem image_error_key {problem : Problem} (h : d.image known = .error problem) :
    problem.key = d.imageTagKey := by
  rw [image] at h
  split at h
  · cases h
    rfl
  · split at h
    · exact absurd h (by simp)
    · cases h
      rfl

/-- There is a problem with the image exactly when the tag is not known or is no tag. -/
theorem exists_image_error_iff : (∃ problem, d.image known = .error problem) ↔
    ¬ ∃ tag, known.get? d.imageTagKey = some tag ∧ isImageTag tag = true := by
  rw [image]
  cases known.get? d.imageTagKey with
  | none => simp
  | some tag => by_cases htag : isImageTag tag = true <;> simp [htag]

/-- **The problems are those of the variables that cannot be used.** -/
theorem mem_keys_variableProblems {key : String} :
    key ∈ (d.variableProblems known secrets).map Problem.key ↔ d.UnusableVariable known key := by
  have hresolved : key ∈ (((d.shortfalls known secrets).filterMap Shortfall.variableKey?).map
      Problem.missing).map Problem.key ↔
        ∃ name, (name, .resolved key) ∈ d.env ∧ known.get? key = none := by
    rw [variableShortfalls_eq, List.map_map]
    simp only [List.mem_map, Function.comp_apply, Problem.key, exists_eq_right, List.mem_filter,
      Option.isNone_iff_eq_none, mem_resolvedKeys, exists_and_right]
  rw [variableProblems, List.map_append, List.mem_append, hresolved, UnusableVariable]
  refine or_congr_left ?_
  cases himage : d.image known with
  | ok image =>
    obtain ⟨tag, htag, hvalid, -⟩ := image_eq_ok_iff.mp himage
    simp only [List.map_nil, List.not_mem_nil, false_iff, not_and]
    rintro rfl hnone
    exact hnone ⟨tag, htag, hvalid⟩
  | error problem =>
    rw [List.map_singleton, List.mem_singleton, image_error_key himage]
    refine ⟨?_, And.left⟩
    rintro rfl
    exact ⟨rfl, exists_image_error_iff.mp ⟨problem, himage⟩⟩

/-- The secrets that are reported are those that are missing. -/
theorem mem_missingSecrets {key : String} :
    key ∈ d.missingSecrets known secrets ↔ d.MissingSecret secrets key := by
  rw [missingSecrets, List.mem_eraseDups, secretShortfalls_eq, List.mem_filter, mem_secretKeys,
    Option.isNone_iff_eq_none, MissingSecret]
  simp only [exists_and_right]

/-! ## What is reported -/

/-- The two errors that are left when the defaults are acceptable and the secrets are the right
ones. -/
theorem build_eq_error_cases (hacceptable : d.Acceptable)
    (hown : secrets.application = d.name ∧ secrets.environment = known.environment)
    (hfailed : d.build known secrets = .error error) :
    (d.variableProblems known secrets ≠ [] ∧
        error = .configuration (d.variableProblems known secrets)) ∨
      d.variableProblems known secrets = [] ∧ d.missingSecrets known secrets ≠ [] ∧
        error = .missingSecrets d.name secrets.path (d.missingSecrets known secrets) := by
  rw [build_eq, faults_eq_nil_iff.mpr hacceptable, if_neg (by simp),
    if_neg (by simp [hown])] at hfailed
  split at hfailed
  · rename_i hproblems
    exact .inl ⟨hproblems, (Except.error.inj hfailed).symm⟩
  · rename_i hproblems
    have hnone := Decidable.not_not.mp hproblems
    split at hfailed
    · rename_i hmissing
      exact .inr ⟨hnone, hmissing, (Except.error.inj hfailed).symm⟩
    · -- no problem with the variables, so there is an image and nothing is left to fail
      obtain ⟨⟨image, himage⟩, -⟩ := variableProblems_eq_nil_iff.mp hnone
      rw [himage] at hfailed
      exact absurd hfailed (by simp)

/-- There is a problem with the variables exactly when some variable cannot be used. -/
theorem variableProblems_ne_nil_iff : d.variableProblems known secrets ≠ [] ↔
    ∃ key, d.UnusableVariable known key := by
  constructor
  · intro h
    obtain ⟨problem, hproblem⟩ := List.exists_mem_of_ne_nil _ h
    exact ⟨problem.key, mem_keys_variableProblems.mp (List.mem_map_of_mem hproblem)⟩
  · rintro ⟨key, hkey⟩ hnil
    have hmem : key ∈ (d.variableProblems known secrets).map Problem.key :=
      mem_keys_variableProblems.mpr hkey
    rw [hnil] at hmem
    exact absurd hmem (by simp)

/-- **Variables are reported before secrets.** With acceptable defaults and the right secrets, the
error names exactly the variables that cannot be used, if there are any, and exactly the missing
secrets otherwise. So it names everything that is unresolved exactly when no variable is unusable or
the keys of the missing secrets are among those of the unusable variables. -/
theorem reports_variables_before_secrets (d : Defaults) (known : Variables)
    (secrets : Secrets.Bundle) (error : Error) (hacceptable : d.Acceptable)
    (hown : secrets.application = d.name ∧ secrets.environment = known.environment)
    (hfailed : d.build known secrets = .error error) :
    ((∃ key, d.UnusableVariable known key) →
      ∀ key, key ∈ error.offendingKeys ↔ d.UnusableVariable known key) ∧
    ((¬ ∃ key, d.UnusableVariable known key) →
      ∀ key, key ∈ error.offendingKeys ↔ d.MissingSecret secrets key) ∧
    ((∀ key, d.Unresolved known secrets key → key ∈ error.offendingKeys) ↔
      (¬ ∃ key, d.UnusableVariable known key) ∨
        ∀ key, d.MissingSecret secrets key → d.UnusableVariable known key) := by
  rcases build_eq_error_cases hacceptable hown hfailed with ⟨hproblems, rfl⟩ | ⟨hnone, -, rfl⟩
  · have hsome := variableProblems_ne_nil_iff.mp hproblems
    have hkeys : ∀ key,
        key ∈ (Error.configuration (d.variableProblems known secrets)).offendingKeys ↔
          d.UnusableVariable known key := fun key => mem_keys_variableProblems
    refine ⟨fun _ => hkeys, fun h => absurd hsome h, ?_⟩
    simp only [hkeys]
    constructor
    · intro h
      exact .inr fun key hkey => h key (.inr hkey)
    · rintro (h | h) key (hkey | hkey)
      · exact hkey
      · exact absurd hsome h
      · exact hkey
      · exact h key hkey
  · have hnever : ¬ ∃ key, d.UnusableVariable known key := by
      rw [← variableProblems_ne_nil_iff]
      exact fun h => h hnone
    have hkeys : ∀ key, key ∈ (Error.missingSecrets d.name secrets.path
        (d.missingSecrets known secrets)).offendingKeys ↔ d.MissingSecret secrets key :=
      fun key => mem_missingSecrets
    refine ⟨fun h => absurd h hnever, fun _ => hkeys, ?_⟩
    simp only [hkeys]
    refine ⟨fun _ => .inl hnever, ?_⟩
    rintro - key (hkey | hkey)
    · exact absurd ⟨key, hkey⟩ hnever
    · exact hkey

/-! ## A secret that goes unreported -/

/-- An application that asks for one secret. -/
def vaultDefaults : Defaults :=
  { plainDefaults with env := [("DB_PASSWORD", .secret "DB_PASSWORD")] }

/-- Secrets without a single entry. -/
def vaultSecrets : Secrets.Bundle := ⟨"demo", .localMachine, "secrets/demo.env", ∅⟩

/-- Nothing is known but the environment. -/
def noVariables : Variables := ⟨.localMachine, ∅⟩

theorem acceptable_vaultDefaults : vaultDefaults.Acceptable := faults_eq_nil_iff.mp (by decide)

theorem build_vaultDefaults : vaultDefaults.build noVariables vaultSecrets =
    .error (.configuration [.missing "IMAGE_TAG_DEMO"]) := by
  decide +kernel

theorem reports_variables_before_secrets_vault :
    vaultDefaults.Acceptable ∧
      vaultDefaults.build noVariables vaultSecrets =
        .error (.configuration [.missing "IMAGE_TAG_DEMO"]) ∧
      ∀ key, key ∈ ["IMAGE_TAG_DEMO"] ↔ vaultDefaults.UnusableVariable noVariables key := by
  have hreport := reports_variables_before_secrets vaultDefaults noVariables vaultSecrets _
    acceptable_vaultDefaults ⟨rfl, rfl⟩ build_vaultDefaults
  have htag : vaultDefaults.UnusableVariable noVariables "IMAGE_TAG_DEMO" :=
    .inl ⟨by decide, by rintro ⟨_, ⟨⟩, -⟩⟩
  exact ⟨acceptable_vaultDefaults, build_vaultDefaults, hreport.1 ⟨_, htag⟩⟩

/-- **A missing secret goes unreported** when the image tag is missing too. -/
theorem missing_secret_unreported :
    vaultDefaults.Acceptable ∧
      (vaultSecrets.application = vaultDefaults.name ∧
        vaultSecrets.environment = noVariables.environment) ∧
      vaultDefaults.build noVariables vaultSecrets =
        .error (.configuration [.missing "IMAGE_TAG_DEMO"]) ∧
      vaultDefaults.Unresolved noVariables vaultSecrets "DB_PASSWORD" ∧
      "DB_PASSWORD" ∉ (Error.configuration [.missing "IMAGE_TAG_DEMO"]).offendingKeys := by
  have hmissing : vaultDefaults.MissingSecret vaultSecrets "DB_PASSWORD" :=
    ⟨"DB_PASSWORD", by decide, rfl⟩
  exact ⟨acceptable_vaultDefaults, ⟨rfl, rfl⟩, build_vaultDefaults, .inr hmissing, by decide⟩

end AppRelease.Defaults
