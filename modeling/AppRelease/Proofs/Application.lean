import AppRelease.Application.Build
import AppRelease.Proofs.Laws

/-!
# What a configuration is made of

Specification: `Defaults.build_eq_ok_iff` says exactly when defaults, variables and secrets give a
configuration, and which one. `Defaults.get?_settings` says what every name is bound to in it: what
the last template of that name denotes.

Crux: the values that were found are collected apart from what was not found. A template that fails
leaves no value, so an earlier template of the same name would count; only when nothing is missing
does the last one always count.
-/

namespace AppRelease

/-- A template denotes a secret exactly when it asks for one that is there. -/
theorem Template.value_eq_secret_iff {t : Template} {known : Variables} {secrets : Secrets.Bundle}
    {d : Defaults} {encoded : String} : t.value known secrets d = .ok (.secret encoded) ↔
      ∃ key, t = .secret key ∧ secrets.get? key = some encoded := by
  cases t with
  | secret key => cases hsecret : secrets.get? key <;> simp [value, hsecret]
  | resolved key => cases hknown : known.get? key <;> simp [value, hknown]
  | literal text => simp [value]
  | baseUrl => simp [value]
  | environment => simp [value]
  | host => simp [value]
  | port => simp [value]

namespace Defaults

variable {d : Defaults} {known : Variables} {secrets : Secrets.Bundle}

/-- The template that counts for a name: the last one under it. -/
def template? (d : Defaults) (name : String) : Option Template := lastValue? name d.env

/-! ## When nothing is missing -/

/-- Nothing is missing exactly when every template denotes a value. -/
theorem shortfalls_eq_nil_iff : d.shortfalls known secrets = [] ↔
    ∀ entry ∈ d.env, ∃ value, entry.2.value known secrets d = .ok value := by
  rw [shortfalls, results, List.filterMap_map, List.filterMap_eq_nil_iff]
  constructor
  · intro h entry hentry
    have hnone := h entry hentry
    cases hv : entry.2.value known secrets d with
    | ok value => exact ⟨value, rfl⟩
    | error shortfall => exact absurd hnone (by simp [hv])
  · intro h entry hentry
    obtain ⟨value, hv⟩ := h entry hentry
    simp [hv]

/-- What is missing is a variable or a secret. -/
theorem shortfalls_eq_nil_iff_keys : d.shortfalls known secrets = [] ↔
    (d.shortfalls known secrets).filterMap Shortfall.variableKey? = [] ∧
      (d.shortfalls known secrets).filterMap Shortfall.secretKey? = [] := by
  constructor
  · intro h
    simp [h]
  · rintro ⟨hvariables, hsecrets⟩
    rw [List.filterMap_eq_nil_iff] at hvariables hsecrets
    rw [List.eq_nil_iff_forall_not_mem]
    intro shortfall hmem
    have hvariable := hvariables shortfall hmem
    have hsecret := hsecrets shortfall hmem
    cases shortfall with
    | missingVariable key => exact absurd hvariable (by simp [Shortfall.variableKey?])
    | missingSecret key => exact absurd hsecret (by simp [Shortfall.secretKey?])

/-- No problem with the variables: there is an image, and no template misses a variable. -/
theorem variableProblems_eq_nil_iff : d.variableProblems known secrets = [] ↔
    (∃ image, d.image known = .ok image) ∧
      (d.shortfalls known secrets).filterMap Shortfall.variableKey? = [] := by
  rw [variableProblems, List.append_eq_nil_iff, List.map_eq_nil_iff]
  cases d.image known with
  | ok image => simp
  | error problem => simp

theorem eraseDups_eq_nil_iff {keys : List String} : keys.eraseDups = [] ↔ keys = [] := by
  cases keys with
  | nil => simp
  | cons key rest => simp [List.eraseDups_cons]

/-! ## Building -/

/-- The configuration under an image. -/
def configWith (d : Defaults) (known : Variables) (secrets : Secrets.Bundle) (image : String) :
    AppConfig where
  name := d.name
  nameSpace := d.nameSpace
  image := image
  resources := d.resources
  settings := Dict.ofList (d.found known secrets)

/-- The checks of `build` one after the other, each with its error. -/
theorem build_eq (d : Defaults) (known : Variables) (secrets : Secrets.Bundle) :
    d.build known secrets =
      if d.faults ≠ [] then .error (.invalid (.defaults d.name d.faults))
      else if secrets.application ≠ d.name ∨ secrets.environment ≠ known.environment then
        .error (.invalid (.foreignSecrets secrets.application secrets.environment d.name
          known.environment))
      else if d.variableProblems known secrets ≠ [] then
        .error (.configuration (d.variableProblems known secrets))
      else if d.missingSecrets known secrets ≠ [] then
        .error (.missingSecrets d.name secrets.path (d.missingSecrets known secrets))
      else match d.image known with
        | .error _ => .error (.invalid .imageUnresolved)
        | .ok image => .ok (d.configWith known secrets image) := by
  rw [build, validate]
  cases d.faults with
  | cons fault rest => rfl
  | nil =>
    rw [if_pos List.isEmpty_nil, if_neg (show ¬ ([] : List Fault) ≠ [] by simp)]
    by_cases hforeign : secrets.application ≠ d.name ∨ secrets.environment ≠ known.environment
    · simp only [if_pos hforeign]
      rfl
    by_cases hproblems : d.variableProblems known secrets ≠ []
    · simp only [if_neg hforeign, if_pos hproblems]
      rfl
    by_cases hmissing : d.missingSecrets known secrets ≠ []
    · simp only [if_neg hforeign, if_neg hproblems, if_pos hmissing]
      rfl
    simp only [if_neg hforeign, if_neg hproblems, if_neg hmissing]
    cases d.image known <;> rfl

/-- **When a configuration is built, and which one.** -/
theorem build_eq_ok_iff {c : AppConfig} : d.build known secrets = .ok c ↔
    d.faults = [] ∧ (secrets.application = d.name ∧ secrets.environment = known.environment) ∧
      d.shortfalls known secrets = [] ∧
      ∃ image, d.image known = .ok image ∧ c = d.configWith known secrets image := by
  have hmissing : d.missingSecrets known secrets = [] ↔
      (d.shortfalls known secrets).filterMap Shortfall.secretKey? = [] := by
    rw [missingSecrets, eraseDups_eq_nil_iff]
  rw [build_eq, shortfalls_eq_nil_iff_keys, ← hmissing]
  constructor
  · intro h
    -- each check that fails gives an error, so all four are passed
    split at h
    · exact absurd h (by simp)
    split at h
    · exact absurd h (by simp)
    split at h
    · exact absurd h (by simp)
    split at h
    · exact absurd h (by simp)
    rename_i hfaults hforeign hproblems hnone
    obtain ⟨⟨image, himage⟩, hvariables⟩ :=
      variableProblems_eq_nil_iff.mp (Decidable.not_not.mp hproblems)
    simp only [himage, Except.ok.injEq] at h
    exact ⟨Decidable.not_not.mp hfaults, by simpa using hforeign,
      ⟨hvariables, Decidable.not_not.mp hnone⟩, image, himage, h.symm⟩
  · rintro ⟨hfaults, hown, ⟨hvariables, hnone⟩, image, himage, rfl⟩
    have hproblems := variableProblems_eq_nil_iff.mpr ⟨⟨image, himage⟩, hvariables⟩
    simp [hfaults, hown, hproblems, hnone, himage]

/-! ## What names are bound to -/

/-- The values that were found, by name: with nothing missing, the last template of a name
counts. -/
theorem lastValue?_found (hnone : d.shortfalls known secrets = []) (name : String) :
    lastValue? name (d.found known secrets) =
      (d.template? name).bind fun t => (t.value known secrets d).toOption := by
  have hall := shortfalls_eq_nil_iff.mp hnone
  rw [found, results, List.filterMap_map, template?]
  refine lastValue?_filterMap (fun t => (t.value known secrets d).toOption) d.env ?_
  intro entry hentry
  obtain ⟨value, hvalue⟩ := hall entry hentry
  simp [hvalue, Except.toOption]

/-- **What a name is bound to** in a configuration that was built. -/
theorem get?_settings {c : AppConfig} (hbuild : d.build known secrets = .ok c) (name : String) :
    c.settings.get? name = (d.template? name).bind fun t => (t.value known secrets d).toOption := by
  obtain ⟨-, -, hnone, image, -, rfl⟩ := build_eq_ok_iff.mp hbuild
  rw [configWith, Dict.get?_ofList, lastValue?_found hnone]

/-! ## An application -/

/-- An application without variables. Those that runs are tried on are made from it. -/
def plainDefaults : Defaults where
  name := "demo"
  nameSpace := "applications"
  registry := "ghcr.io/example"
  baseDomain := "example.com"
  resources := ⟨.mebibytes 70, ⟨100⟩, .mebibytes 200, ⟨100⟩, 2, 8000, "0.0.0.0"⟩
  env := []
  requiredEnv := []

end Defaults

end AppRelease
