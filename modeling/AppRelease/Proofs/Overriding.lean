import AppRelease.Proofs.Catalog
import AppRelease.Proofs.Overrides
import AppRelease.Proofs.Reporting

/-!
# Overrides in a configuration

Program: overrides change defaults, and `Defaults.build` makes a configuration from what they leave.

Specification: `Overrides.seen_in_configuration`. If the names of the templates are pairwise
distinct, as they are in the catalog, then a configuration built after overrides shows each of them,
and shows the defaults where there is none (`Overrides.TakesEffect`).

1. **Distinct names.** The catalog has them (`Catalog.distinctNames_of_defaultsFor`) and overrides
   keep them.
2. **Templates.** A variable that is assigned a value has that literal and no other template
   (`mem_env_effect`). So it is what the configuration binds it to, and a secret that it asked for
   before is no longer needed for it.
3. **The crux.** The first template of a name is replaced and the last one counts. That these are
   the same is what the distinct names are for (`DistinctNames.lastEntry`).
-/

namespace AppRelease

/-! ## Distinct names -/

/-- No name has two templates. -/
def Defaults.DistinctNames (d : Defaults) : Prop := (namesOf d.env).Nodup

/-- With distinct names every template is the last one of its name. -/
theorem Defaults.DistinctNames.lastEntry {d : Defaults} (hdistinct : d.DistinctNames)
    {name : String} {template : Template} (h : (name, template) ∈ d.env) :
    LastEntry d.env name template :=
  lastValue?_eq_some_iff.mp ((lastValue?_eq_some_iff_mem hdistinct).mpr h)

/-- **No application of the catalog has two templates for a name.** -/
theorem Catalog.distinctNames_of_defaultsFor {name : String} {project : Project} {d : Defaults}
    (h : defaultsFor name project = .ok d) : d.DistinctNames := by
  rw [defaultsFor] at h
  split at h
  next => exact absurd h (by simp)
  next port env hentry =>
    cases h
    show (namesOf env).Nodup
    rw [listed?] at hentry
    split at hentry
    next => cases hentry; subst name; decide +kernel
    split at hentry
    next => cases hentry; subst name; decide +kernel
    split at hentry
    next => cases hentry; subst name; decide +kernel
    split at hentry
    next => cases hentry; subst name; decide +kernel
    next => exact absurd hentry (by simp)

/-! ## Templates and missing secrets -/

/-- What a template denotes depends on the resources and the domain. -/
theorem Template.Denotes.congr {known : Variables} {secrets : Secrets.Bundle} {d d' : Defaults}
    {t : Template} {s : Setting} (h : t.Denotes known secrets d s)
    (hresources : d'.resources = d.resources) (hdomain : d'.baseDomain = d.baseDomain) :
    t.Denotes known secrets d' s := by
  cases h with
  | literal text => exact .literal text
  | environment => exact .environment
  | host => exact hresources ▸ .host
  | port => exact hresources ▸ .port
  | localUrl hlocal => exact hresources ▸ .localUrl hlocal
  | publicUrl hpublic hstart hend => exact .publicUrl hpublic (hdomain ▸ hstart) hend
  | resolved hkey => exact .resolved hkey
  | secret hkey => exact .secret hkey

/-- The secrets that an error names are those that are missing. -/
theorem Defaults.keys_of_build_eq_missingSecrets {d : Defaults} {known : Variables}
    {secrets : Secrets.Bundle} {application path : String} {keys : List String}
    (h : d.build known secrets = .error (.missingSecrets application path keys)) :
    keys = d.missingSecrets known secrets := by
  rw [build_eq] at h
  split at h
  · exact absurd h (by simp)
  split at h
  · exact absurd h (by simp)
  split at h
  · exact absurd h (by simp)
  split at h
  · simp only [Except.error.injEq, Error.missingSecrets.injEq] at h
    exact h.2.2.symm
  · cases hd : d.image known <;> simp [hd] at h

namespace Overrides

variable {o : Overrides} {d d' : Defaults} {known : Variables} {secrets : Secrets.Bundle}
  {c : AppConfig}

/-- **Which templates overrides leave**, if all are taken: the literals that were assigned, and the
templates of the names that were not. -/
theorem mem_env_effect (hvalid : ∀ entry ∈ o.entries, Override.Valid entry)
    (hdistinct : d.DistinctNames) {name : String} {template : Template} :
    (name, template) ∈ (o.effect d).env ↔
      (∃ value, o.value? (.env name) = some value ∧ template = .literal value) ∨
        o.value? (.env name) = none ∧ (name, template) ∈ d.env := by
  rw [effect, env_foldl, mem_assign hdistinct, lastValue?_assignments hvalid,
    Dict.lastValue?_entries, value?]

theorem distinctNames_effect (o : Overrides) (hdistinct : d.DistinctNames) :
    (o.effect d).DistinctNames := by
  rw [Defaults.DistinctNames, effect, env_foldl]
  exact nodup_assign hdistinct

/-- A template that asks for a secret is one that was there and whose name was not assigned a
value. -/
theorem mem_secret_env_effect (hvalid : ∀ entry ∈ o.entries, Override.Valid entry)
    (hdistinct : d.DistinctNames) {name key : String} : (name, .secret key) ∈ (o.effect d).env ↔
      (name, .secret key) ∈ d.env ∧ o.value? (.env name) = none := by
  rw [mem_env_effect hvalid hdistinct]
  simp [and_comm]

/-! ## What a configuration shows -/

/-- A configuration that shows overrides of defaults. A variable that was assigned a value has it,
and any other has what its own template denotes with the resources of the configuration. Everything
else is what its override says, or what the defaults say. -/
structure TakesEffect (o : Overrides) (d : Defaults) (known : Variables) (secrets : Secrets.Bundle)
    (c : AppConfig) :
    Prop where
  assigned : ∀ name value, o.value? (.env name) = some value →
    c.settings.get? name = some (.plain value)
  names : ∀ name, name ∈ c.settings.keys ↔
    name ∈ namesOf d.env ∨ ∃ value, o.value? (.env name) = some value
  others : ∀ name template, (name, template) ∈ d.env → o.value? (.env name) = none →
    ∃ setting, template.Denotes known secrets { d with resources := c.resources } setting ∧
      c.settings.get? name = some setting
  resources : d.resources.Overridden o.value? c.resources
  name : c.name = d.name
  nameSpace : Settles (o.value? .nameSpace) (· = ·) d.nameSpace c.nameSpace
  image : ∃ registry stem tag, Settles (o.value? .registry) (· = ·) d.registry registry ∧
    Text.IsWithoutEnd '/' registry stem ∧ known.get? d.imageTagKey = some tag ∧
    c.image = stem ++ "/" ++ d.name ++ ":" ++ tag

/-- What is built after overrides shows them. -/
theorem takesEffect_of_build (hvalid : ∀ entry ∈ o.entries, Override.Valid entry)
    (hdistinct : d.DistinctNames) (hbuild : (o.effect d).build known secrets = .ok c) :
    o.TakesEffect d known secrets c := by
  have hconfigures := Defaults.configures_of_build hbuild
  have hfields := overridden_effect hvalid d
  have hnames := distinctNames_effect o hdistinct
  constructor
  case assigned =>
    intro name value hvalue
    have hmem : (name, .literal value) ∈ (o.effect d).env :=
      (mem_env_effect hvalid hdistinct).mpr (.inl ⟨value, hvalue, rfl⟩)
    obtain ⟨setting, hdenotes, hget⟩ := hconfigures.values name _ (hnames.lastEntry hmem)
    cases hdenotes
    exact hget
  case names =>
    intro name
    rw [hconfigures.names, mem_namesOf]
    constructor
    · rintro ⟨template, hmem⟩
      rcases (mem_env_effect hvalid hdistinct).mp hmem with ⟨value, hvalue, -⟩ | ⟨-, hmem⟩
      · exact .inr ⟨value, hvalue⟩
      · exact .inl ⟨template, hmem⟩
    · intro h
      cases hvalue : o.value? (.env name) with
      | some value => exact ⟨_, (mem_env_effect hvalid hdistinct).mpr (.inl ⟨value, hvalue, rfl⟩)⟩
      | none =>
        rcases h with ⟨template, hmem⟩ | ⟨value, hsome⟩
        · exact ⟨template, (mem_env_effect hvalid hdistinct).mpr (.inr ⟨hvalue, hmem⟩)⟩
        · exact absurd hsome (by simp [hvalue])
  case others =>
    intro name template hmem hnone
    have hmem' := (mem_env_effect hvalid hdistinct).mpr (.inr ⟨hnone, hmem⟩)
    obtain ⟨setting, hdenotes, hget⟩ := hconfigures.values name _ (hnames.lastEntry hmem')
    exact ⟨setting, hdenotes.congr hconfigures.resources hfields.baseDomain.symm, hget⟩
  case resources =>
    rw [hconfigures.resources]
    exact hfields.resources
  case name => exact hconfigures.name.trans hfields.name
  case nameSpace =>
    rw [hconfigures.nameSpace]
    exact hfields.nameSpace
  case image =>
    obtain ⟨stem, tag, hstem, htag, himage⟩ := hconfigures.image
    rw [Defaults.imageTagKey, hfields.name] at htag
    rw [hfields.name] at himage
    exact ⟨_, stem, tag, hfields.registry, hstem, htag, himage⟩

/-- **Overrides are seen in the configuration.** Take overrides that are accepted for defaults with
distinct names, as those of the catalog are. Names stay distinct, every configuration that is built
shows the overrides, and a secret is asked for exactly by the variables that were not assigned a
value. -/
theorem seen_in_configuration (o : Overrides) (d d' : Defaults) (hdistinct : d.DistinctNames)
    (happly : o.applyTo d = .ok d') :
    (∀ name project listed, Catalog.defaultsFor name project = .ok listed → listed.DistinctNames) ∧
    d'.DistinctNames ∧
    (∀ key, key ∈ d'.secretKeys ↔
      ∃ name, (name, .secret key) ∈ d.env ∧ o.value? (.env name) = none) ∧
    ∀ known secrets,
      (∀ c, d'.build known secrets = .ok c → o.TakesEffect d known secrets c) ∧
      ∀ application path keys,
        d'.build known secrets = .error (.missingSecrets application path keys) →
        ∀ key, key ∈ keys ↔ secrets.get? key = none ∧
          ∃ name, (name, .secret key) ∈ d.env ∧ o.value? (.env name) = none := by
  obtain ⟨hvalid, rfl⟩ := applyTo_eq_ok_iff.mp happly
  refine ⟨fun name project listed => Catalog.distinctNames_of_defaultsFor,
    distinctNames_effect o hdistinct, ?_, ?_⟩
  · intro key
    simp only [Defaults.mem_secretKeys, mem_secret_env_effect hvalid hdistinct]
  · intro known secrets
    refine ⟨fun c => takesEffect_of_build hvalid hdistinct, ?_⟩
    intro application path keys hmissing key
    rw [Defaults.keys_of_build_eq_missingSecrets hmissing, Defaults.mem_missingSecrets,
      Defaults.MissingSecret]
    simp only [mem_secret_env_effect hvalid hdistinct, exists_and_right, and_comm]

/-! ## A password that is no secret -/

/-- An application with a password among its secrets. -/
def guardedDefaults : Defaults :=
  { Defaults.plainDefaults with
    name := "guarded"
    env :=
      [("APP_PORT", .port), ("DB_PASSWORD", .secret "DB_PASSWORD"),
        ("API_TOKEN", .secret "API_TOKEN")] }

/-- Another port and a password for everyone to see. -/
def openOverrides : Overrides :=
  Dict.ofList [("app.port", "9000"), ("app.env.DB_PASSWORD", "guest"), ("app.env.TRACE", "on")]

/-- The image tag of that application. -/
def guardedVariables : Variables := ⟨.localMachine, Dict.ofList [("IMAGE_TAG_GUARDED", "v1")]⟩

/-- Its secrets, without the password. -/
def guardedSecrets : Secrets.Bundle :=
  ⟨"guarded", .localMachine, ".secrets/local/guarded.env", Dict.ofList [("API_TOKEN", "dG9rZW4=")]⟩

theorem seen_in_configuration_guarded :
    ∃ d' c, openOverrides.applyTo guardedDefaults = .ok d' ∧
      d'.build guardedVariables guardedSecrets = .ok c ∧
      c.settings.get? "DB_PASSWORD" = some (.plain "guest") ∧
        c.settings.get? "APP_PORT" = some (.plain "9000") ∧
      "DB_PASSWORD" ∉ d'.secretKeys := by
  have hdistinct : guardedDefaults.DistinctNames := by
    show (namesOf guardedDefaults.env).Nodup
    decide
  obtain ⟨d', happly⟩ : ∃ d', openOverrides.applyTo guardedDefaults = .ok d' :=
    exists_eq_ok_of_isSome (by decide +kernel)
  obtain ⟨c, hbuild⟩ :
      ∃ c, (openOverrides.effect guardedDefaults).build guardedVariables guardedSecrets = .ok c :=
    exists_eq_ok_of_isSome (by decide +kernel)
  have hd' := (applyTo_eq_ok_iff.mp happly).2
  rw [← hd'] at hbuild
  obtain ⟨-, -, hkeys, hshown⟩ :=
    seen_in_configuration openOverrides guardedDefaults d' hdistinct happly
  have heffect := (hshown guardedVariables guardedSecrets).1 c hbuild
  have hassigned : openOverrides.value? (.env "DB_PASSWORD") = some "guest" := by decide +kernel
  refine ⟨d', c, happly, hbuild, heffect.assigned _ _ hassigned, ?_, ?_⟩
  · obtain ⟨setting, hdenotes, hget⟩ :=
      heffect.others "APP_PORT" .port List.mem_cons_self (by decide +kernel)
    have hport : ReadsAs16 "9000" c.resources.probePort := heffect.resources.port
    have hnumber : Numeral.readBounded (UInt16.size - 1) "9000".toList = .ok 9000 := by rfl
    rw [ReadsAs16, hnumber, Except.ok.injEq] at hport
    cases hdenotes
    rw [hget, ← hport]
    decide
  · rw [hkeys]
    rintro ⟨name, hmem, hnone⟩
    simp only [guardedDefaults, List.mem_cons, Prod.mk.injEq, reduceCtorEq, and_false,
      Template.secret.injEq, List.not_mem_nil, or_false, false_or, String.reduceEq,
      and_true] at hmem
    rw [hmem, hassigned] at hnone
    exact absurd hnone (by simp)

end Overrides

end AppRelease
