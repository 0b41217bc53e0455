import AppRelease.Manifest.Build
import AppRelease.Proofs.Laws

/-!
# Which objects are made

Specification: `AppConfig.secretObject_eq_ok_iff` and `AppConfig.manifests_eq_ok_iff` say exactly
when the objects of a configuration are made, and which ones. Nothing but a secret that is not base
64 and a missing repository can stand in the way.

Crux: secrets are decoded one after the other into a list, and the list is made into a dictionary.
As the secrets come in ascending order of names, that dictionary is the dictionary of secrets with
every value decoded (`secretData`), which look-ups describe.
-/

namespace AppRelease

theorem Setting.secret?_eq_some_iff (s : Setting) (encoded : String) :
    s.secret? = some encoded ↔ s = .secret encoded := by
  cases s <;> simp [Setting.secret?]

theorem Setting.plain?_eq_some_iff (s : Setting) (text : String) :
    s.plain? = some text ↔ s = .plain text := by
  cases s <;> simp [Setting.plain?]

namespace AppConfig

variable {c : AppConfig} {e : Environment} {project : Project}

/-! ## The object that holds the secrets -/

/-- Every secret of the configuration is base 64. -/
def SecretsReadable (c : AppConfig) : Prop :=
  ∀ name encoded, c.settings.get? name = some (.secret encoded) →
    ∃ bytes, Secrets.decode encoded = .ok bytes

/-- The bytes of the secrets, by name. -/
def secretData (c : AppConfig) : Dict (List UInt8) :=
  c.secretVariables.filterMap fun encoded => (Secrets.decode encoded).toOption

/-- The secret variables are the secrets among the settings. -/
theorem get?_secretVariables {name encoded : String} :
    c.secretVariables.get? name = some encoded ↔ c.settings.get? name = some (.secret encoded) :=
  Dict.get?_filterMap_eq_some_iff Setting.secret?_eq_some_iff

/-- The plain variables are the settings that are no secrets. -/
theorem get?_plainVariables {name text : String} :
    c.plainVariables.get? name = some text ↔ c.settings.get? name = some (.plain text) :=
  Dict.get?_filterMap_eq_some_iff Setting.plain?_eq_some_iff

/-- Decoding succeeds exactly when every value is base 64, and keeps names and order. -/
theorem decodeEntries_eq_ok_iff {entries : List (String × String)}
    {decoded : List (String × List UInt8)} : decodeEntries entries = .ok decoded ↔
      (∀ entry ∈ entries, ∃ bytes, Secrets.decode entry.2 = .ok bytes) ∧
        decoded = entries.filterMap fun entry =>
          (Secrets.decode entry.2).toOption.map fun bytes => (entry.1, bytes) := by
  induction entries generalizing decoded with
  | nil => simp [decodeEntries, eq_comm]
  | cons entry rest ih =>
    obtain ⟨key, encoded⟩ := entry
    simp only [decodeEntries, bind_eq_ok_iff, pure_eq_ok_iff]
    constructor
    · rintro ⟨bytes, hbytes, others, hothers, rfl⟩
      obtain ⟨hall, rfl⟩ := ih.mp hothers
      refine ⟨?_, by simp [hbytes, Except.toOption]⟩
      intro entry hentry
      rcases List.mem_cons.mp hentry with rfl | hentry
      · exact ⟨bytes, hbytes⟩
      · exact hall entry hentry
    · rintro ⟨hall, rfl⟩
      obtain ⟨bytes, hbytes⟩ := hall (key, encoded) List.mem_cons_self
      refine ⟨bytes, hbytes, _, ih.mpr ⟨fun entry hentry => hall entry ?_, rfl⟩, ?_⟩
      · exact List.mem_cons_of_mem _ hentry
      · simp only at hbytes
        simp [hbytes, Except.toOption]

/-- **When the object that holds the secrets is made, and which one.** -/
theorem secretObject_eq_ok_iff {o : SecretObject} : c.secretObject e = .ok o ↔
    c.SecretsReadable ∧ o = ⟨c.metadata e c.secretName, c.secretData⟩ := by
  have hreadable : (∀ entry ∈ c.secretVariables.entries,
      ∃ bytes, Secrets.decode entry.2 = .ok bytes) ↔ c.SecretsReadable := by
    constructor
    · intro h name encoded hsetting
      exact h (name, encoded) ((Dict.get?_eq_some_iff _).mp (get?_secretVariables.mpr hsetting))
    · rintro h ⟨name, encoded⟩ hentry
      exact h name encoded (get?_secretVariables.mp ((Dict.get?_eq_some_iff _).mpr hentry))
  -- the list of decoded secrets is the list of entries of `secretData`, by definition
  have hdata : Dict.ofList c.secretData.entries = c.secretData := Dict.ofList_entries _
  rw [secretObject, bind_eq_ok_iff, ← hreadable]
  constructor
  · rintro ⟨decoded, hdecoded, hpure⟩
    obtain ⟨hall, rfl⟩ := decodeEntries_eq_ok_iff.mp hdecoded
    rw [pure_eq_ok_iff] at hpure
    rw [← hpure, ← hdata]
    exact ⟨hall, rfl⟩
  · rintro ⟨hall, rfl⟩
    refine ⟨_, decodeEntries_eq_ok_iff.mpr ⟨hall, rfl⟩, ?_⟩
    rw [pure_eq_ok_iff]
    exact congrArg (SecretObject.mk _) hdata

/-- The bytes under a name are those of the secret of that name. -/
theorem get?_secretData {name : String} {bytes : List UInt8} :
    c.secretData.get? name = some bytes ↔
      ∃ encoded, c.settings.get? name = some (.secret encoded) ∧
        Secrets.decode encoded = .ok bytes := by
  rw [secretData, Dict.get?_filterMap, Option.bind_eq_some_iff]
  simp only [get?_secretVariables, toOption_eq_some_iff]

/-! ## All objects -/

/-- The objects of an application, with what is added for Argo CD. -/
def manifestSet (c : AppConfig) (e : Environment) (extra : List Manifest) : ManifestSet where
  application := c.name
  nameSpace := c.nameSpace
  environment := e
  manifests := [
    .nameSpace c.nameSpaceObject,
    .configMap (c.configMap e),
    .secret ⟨c.metadata e c.secretName, c.secretData⟩,
    .deployment (c.deployment e),
    .service (c.service e)] ++ extra

/-- **When the objects of an application are made, and which ones.** -/
theorem manifests_eq_ok_iff {s : ManifestSet} : c.manifests e project = .ok s ↔
    c.SecretsReadable ∧ ∃ extra, c.argoManifests e project = .ok extra ∧
      s = c.manifestSet e extra := by
  simp only [manifests, bind_eq_ok_iff, secretObject_eq_ok_iff, pure_eq_ok_iff]
  constructor
  · rintro ⟨o, ⟨hreadable, rfl⟩, extra, hextra, rfl⟩
    exact ⟨hreadable, extra, hextra, rfl⟩
  · rintro ⟨hreadable, extra, hextra, rfl⟩
    exact ⟨_, ⟨hreadable, rfl⟩, extra, hextra, rfl⟩

/-- What is added for Argo CD is nothing or one object of its own kind. -/
theorem argoManifests_cases {extra : List Manifest} (h : c.argoManifests e project = .ok extra) :
    extra = [] ∨ ∃ application, extra = [.application application] := by
  rw [argoManifests] at h
  split at h
  · obtain ⟨application, -, hpure⟩ := bind_eq_ok_iff.mp h
    exact .inr ⟨application, (pure_eq_ok_iff.mp hpure).symm⟩
  · exact .inl (pure_eq_ok_iff.mp h).symm

/-- What Argo CD is to follow among the objects of an application. -/
theorem argoApplication_of_mem {s : ManifestSet} {a : ArgoApplication}
    (h : c.manifests e project = .ok s) (ha : .application a ∈ s.manifests) :
    c.argoApplication e project = .ok a := by
  obtain ⟨-, extra, hextra, rfl⟩ := manifests_eq_ok_iff.mp h
  rw [argoManifests] at hextra
  split at hextra
  · obtain ⟨application, happlication, hpure⟩ := bind_eq_ok_iff.mp hextra
    rw [← pure_eq_ok_iff.mp hpure] at ha
    obtain rfl : a = application := by simpa [manifestSet] using ha
    exact happlication
  · rw [← pure_eq_ok_iff.mp hextra] at ha
    simp [manifestSet] at ha

/-- The name of what Argo CD is to follow, and the directory. -/
theorem argoApplication_eq_ok {a : ArgoApplication} (h : c.argoApplication e project = .ok a) :
    a.metadata.name = c.name ++ "-" ++ e.name ∧
      a.sourcePath = c.sourcePath e project.render.outputDirectory := by
  rw [argoApplication] at h
  split at h
  · exact absurd h (by simp)
  · rw [← Except.ok.inj h]
    exact ⟨rfl, rfl⟩

/-! ## An application -/

/-- An application without settings. Those that runs are tried on are made from it. -/
def plainConfig : AppConfig where
  name := "web"
  nameSpace := "apps"
  image := "registry.local/web:v1"
  resources := ⟨.mebibytes 70, ⟨100⟩, .mebibytes 200, ⟨100⟩, 2, 8000, "0.0.0.0"⟩
  settings := ∅

end AppConfig

end AppRelease
