import AppRelease.Display
import AppRelease.Proofs.Manifest
import AppRelease.Sink

/-!
# Secrets stay where they belong

Specification: two configurations that differ in the payloads of secrets only (`SameButPayloads`)
are shown by the same tables and give the same objects, up to the data of the object that holds the
secrets. So no width of a column, no name of a file and no other object tells anything about a
secret.

Crux: one run is enough. What is seen of a configuration is what is seen of it with every payload
blotted out (`AppConfig.redacted`), and two configurations that differ in payloads only are the same
then.
-/

namespace AppRelease

/-- A setting with the payload of a secret blotted out. -/
def Setting.redacted : Setting → Setting
  | plain text => plain text
  | secret _ => secret ""

/-- An object with the data of secrets left out. -/
def Manifest.withoutSecretData : Manifest → Manifest
  | secret o => secret { o with data := ∅ }
  | nameSpace m => nameSpace m
  | configMap o => configMap o
  | deployment o => deployment o
  | service o => service o
  | application o => application o

namespace Manifest

theorem kind_withoutSecretData (m : Manifest) : m.withoutSecretData.kind = m.kind := by
  cases m <;> rfl

theorem metadata_withoutSecretData (m : Manifest) :
    m.withoutSecretData.metadata = m.metadata := by
  cases m <;> rfl

theorem nameSpace?_withoutSecretData (m : Manifest) :
    m.withoutSecretData.nameSpace? = m.nameSpace? := by
  cases m <;> rfl

theorem name_withoutSecretData (m : Manifest) : m.withoutSecretData.name = m.name := by
  rw [name, name, metadata_withoutSecretData]

/-- The name of a file depends on the kind and the name of the object. -/
theorem fileName_withoutSecretData (index : Nat) (m : Manifest) :
    m.withoutSecretData.fileName index = m.fileName index := by
  rw [fileName, fileName, kind_withoutSecretData, name_withoutSecretData]

end Manifest

namespace AppConfig

/-- Two configurations that differ at most in the payloads of secrets. -/
structure SameButPayloads (c c' : AppConfig) : Prop where
  name : c.name = c'.name
  nameSpace : c.nameSpace = c'.nameSpace
  image : c.image = c'.image
  resources : c.resources = c'.resources
  /-- The same variables. -/
  names : ∀ key, key ∈ c.settings.keys ↔ key ∈ c'.settings.keys
  /-- The same of them are secrets. -/
  secrecy : ∀ key, (∃ payload, c.settings.get? key = some (.secret payload)) ↔
    ∃ payload, c'.settings.get? key = some (.secret payload)
  /-- The others have the same values. -/
  values : ∀ key text, c.settings.get? key = some (.plain text) ↔
    c'.settings.get? key = some (.plain text)

/-- A configuration with the payloads of secrets blotted out. -/
def redacted (c : AppConfig) : AppConfig :=
  { c with settings := c.settings.mapValues fun _ setting => setting.redacted }

/-- **Blotted out, the two are the same.** -/
theorem SameButPayloads.redacted_eq {c c' : AppConfig} (h : c.SameButPayloads c') :
    c.redacted = c'.redacted := by
  have hsettings : (c.settings.mapValues fun _ setting => setting.redacted) =
      c'.settings.mapValues fun _ setting => setting.redacted := by
    apply Dict.ext_get?
    intro key
    rw [Dict.get?_mapValues, Dict.get?_mapValues]
    cases hget : c.settings.get? key with
    | none =>
      have hget' : c'.settings.get? key = none := by
        have hnames := h.names key
        rw [Dict.mem_keys_iff, Dict.mem_keys_iff, hget] at hnames
        simpa using hnames
      rw [hget']
    | some setting =>
      cases setting with
      | plain text => rw [(h.values key text).mp hget]
      | secret payload =>
        obtain ⟨other, hother⟩ := (h.secrecy key).mp ⟨payload, hget⟩
        rw [hother]
        rfl
  rw [redacted, redacted, hsettings]
  obtain ⟨name, nameSpace, image, resources, settings⟩ := c
  obtain ⟨name', nameSpace', image', resources', settings'⟩ := c'
  obtain ⟨rfl, rfl, rfl, rfl, -, -, -⟩ := h
  rfl

/-! ## What is seen of a configuration -/

/-- The row of a variable shows no payload. -/
theorem variableRow_redacted (name : String) (setting : Setting) :
    Display.variableRow name setting.redacted = Display.variableRow name setting := by
  cases setting <;> rfl

/-- The tables show no payload. -/
theorem configuration_redacted (c : AppConfig) (e : Environment) :
    Display.configuration c.redacted e = Display.configuration c e := by
  have hrows : (c.redacted.settings.entries.map fun entry => Display.variableRow entry.1 entry.2) =
      c.settings.entries.map fun entry => Display.variableRow entry.1 entry.2 := by
    show (c.settings.entries.map fun entry => (entry.1, entry.2.redacted)).map
      (fun entry => Display.variableRow entry.1 entry.2) = _
    rw [List.map_map]
    apply List.map_congr_left
    intro entry _
    exact variableRow_redacted entry.1 entry.2
  rw [Display.configuration, Display.configuration, hrows]
  rfl

/-- The object that holds the other values has no payload. -/
theorem configMap_redacted (c : AppConfig) (e : Environment) :
    c.redacted.configMap e = c.configMap e := by
  have hdata : c.redacted.plainVariables = c.plainVariables := by
    apply Dict.ext_get?
    intro key
    rw [plainVariables, plainVariables, Dict.get?_filterMap, Dict.get?_filterMap, redacted,
      Dict.get?_mapValues]
    cases c.settings.get? key with
    | none => rfl
    | some setting => cases setting <;> rfl
  rw [configMap, configMap, hdata]
  rfl

/-- The deployment refers to variables by name and has no payload. -/
theorem deployment_redacted (c : AppConfig) (e : Environment) :
    c.redacted.deployment e = c.deployment e := by
  -- only the variables of the container are made from settings; all else is the same by definition
  have henv : c.redacted.container.env = c.container.env := by
    show (c.settings.entries.map fun entry => (entry.1, entry.2.redacted)).map
      (fun entry => (entry.1, c.redacted.reference entry.1 entry.2)) = _
    rw [List.map_map]
    apply List.map_congr_left
    rintro ⟨name, setting⟩ _
    cases setting <;> rfl
  have hcontainer : c.redacted.container = { c.container with env := c.redacted.container.env } :=
    rfl
  have hdeployment : c.redacted.deployment e =
      { c.deployment e with container := c.redacted.container } := rfl
  rw [hdeployment, hcontainer, henv]
  rfl

/-- What Argo CD is to follow has no payload: it does not look at variables. -/
theorem argoManifests_redacted (c : AppConfig) (e : Environment) (project : Project) :
    c.redacted.argoManifests e project = c.argoManifests e project := rfl

/-- The objects show no payload, the data of secrets apart. -/
theorem manifestSet_redacted (c : AppConfig) (e : Environment) (extra : List Manifest) :
    (c.redacted.manifestSet e extra).manifests.map Manifest.withoutSecretData =
      (c.manifestSet e extra).manifests.map Manifest.withoutSecretData := by
  rw [manifestSet, manifestSet, configMap_redacted, deployment_redacted, List.map_append,
    List.map_append]
  rfl

end AppConfig

/-- How an object is told apart from others, from its place in the list: its kind, name and
namespace, and the name of its file. -/
def Manifest.description (index : Nat) (m : Manifest) : String × String × Option String × String :=
  (m.kind, m.name, m.nameSpace?, m.fileName index)

/-- Two sets of objects that differ at most in the data of secrets. -/
structure ManifestSet.SameButSecretData (s s' : ManifestSet) : Prop where
  application : s.application = s'.application
  nameSpace : s.nameSpace = s'.nameSpace
  environment : s.environment = s'.environment
  manifests : s.manifests.map Manifest.withoutSecretData =
    s'.manifests.map Manifest.withoutSecretData
  descriptions : s.manifests.mapIdx Manifest.description = s'.manifests.mapIdx Manifest.description

/-- The descriptions of objects do not look at the data of secrets. -/
theorem Manifest.mapIdx_description (l : List Manifest) :
    (l.map withoutSecretData).mapIdx description = l.mapIdx description := by
  apply List.ext_getElem?
  intro i
  rw [List.getElem?_mapIdx, List.getElem?_mapIdx, List.getElem?_map, Option.map_map]
  congr 1
  funext m
  show description i m.withoutSecretData = description i m
  rw [description, description, kind_withoutSecretData, name_withoutSecretData,
    nameSpace?_withoutSecretData, fileName_withoutSecretData]

namespace AppConfig

/-- **No interference of secrets.** Configurations that differ in payloads only are shown by the
same tables and made into the same objects, the data of secrets apart. -/
theorem secrets_do_not_interfere (c c' : AppConfig) (hsame : c.SameButPayloads c') :
    (∀ e, Display.configuration c e = Display.configuration c' e) ∧
      ∀ e project s s', c.manifests e project = .ok s → c'.manifests e project = .ok s' →
        s.SameButSecretData s' := by
  have hredacted := hsame.redacted_eq
  constructor
  · intro e
    rw [← configuration_redacted c, hredacted, configuration_redacted]
  · intro e project s s' hs hs'
    obtain ⟨-, extra, hextra, rfl⟩ := manifests_eq_ok_iff.mp hs
    obtain ⟨-, extra', hextra', rfl⟩ := manifests_eq_ok_iff.mp hs'
    have hadded : extra = extra' := by
      rw [← argoManifests_redacted, hredacted, argoManifests_redacted, hextra'] at hextra
      exact (Except.ok.inj hextra).symm
    subst hadded
    have hmanifests : (c.manifestSet e extra).manifests.map Manifest.withoutSecretData =
        (c'.manifestSet e extra).manifests.map Manifest.withoutSecretData := by
      rw [← manifestSet_redacted c, hredacted, manifestSet_redacted]
    constructor
    case application => exact hsame.name
    case nameSpace => exact hsame.nameSpace
    case environment => rfl
    case manifests => exact hmanifests
    case descriptions =>
      rw [← Manifest.mapIdx_description, hmanifests, Manifest.mapIdx_description]

/-! ## A run -/

/-- An application with one plain value and one secret. -/
def tokenConfig (payload : String) : AppConfig :=
  { plainConfig with
    settings := Dict.ofList [("HOST", .plain "0.0.0.0"), ("TOKEN", .secret payload)] }

/-- Its payload is all that may differ. -/
theorem sameButPayloads_tokenConfig (payload other : String) :
    (tokenConfig payload).SameButPayloads (tokenConfig other) := by
  constructor
  case name => rfl
  case nameSpace => rfl
  case image => rfl
  case resources => rfl
  case names =>
    intro key
    simp [Dict.mem_keys_iff, tokenConfig, lastValue?]
  case secrecy =>
    intro key
    simp [tokenConfig, lastValue?]
  case values =>
    intro key text
    simp [tokenConfig, lastValue?]

theorem secrets_do_not_interfere_token :
    (tokenConfig "").SameButPayloads (tokenConfig "YSBsb25nIHNlY3JldA==") ∧
      (∀ e, Display.configuration (tokenConfig "") e =
        Display.configuration (tokenConfig "YSBsb25nIHNlY3JldA==") e) ∧
      ∃ s s', (tokenConfig "").manifests .staging {} = .ok s ∧
        (tokenConfig "YSBsb25nIHNlY3JldA==").manifests .staging {} = .ok s' ∧
        s ≠ s' ∧ s.SameButSecretData s' := by
  have hsame := sameButPayloads_tokenConfig "" "YSBsb25nIHNlY3JldA=="
  obtain ⟨s, hs⟩ : ∃ s, (tokenConfig "").manifests .staging {} = .ok s :=
    exists_eq_ok_of_isSome (by decide +kernel)
  obtain ⟨s', hs'⟩ : ∃ s', (tokenConfig "YSBsb25nIHNlY3JldA==").manifests .staging {} = .ok s' :=
    exists_eq_ok_of_isSome (by decide +kernel)
  have hne : (tokenConfig "").manifests .staging {} ≠
      (tokenConfig "YSBsb25nIHNlY3JldA==").manifests .staging {} := by
    decide +kernel
  have hrun := secrets_do_not_interfere _ _ hsame
  refine ⟨hsame, hrun.1, s, s', hs, hs', ?_, hrun.2 .staging {} s s' hs hs'⟩
  rintro rfl
  exact hne (hs.trans hs'.symm)

end AppConfig

end AppRelease
