import AppRelease.Proofs.Manifest

/-!
# Objects refer to each other

Specification: the objects of an application are made apart from each other and only meet in the
cluster. A container names an object and a key for each of its variables, a service and a deployment
select pods by labels, and ports are stated four times. Followed through the objects of one release,
all of these lead to what the configuration says (`Wiring`).

1. **Following a reference.** `ManifestSet.lookUp` finds the object of a name in a namespace and the
   value under a key in it, as a cluster does when it starts a pod. It knows nothing of the
   configuration.
2. **The crux (`lookUp_reference`).** The reference of a variable leads to the content of that
   variable: its kind decides both which object the container names and which object holds the
   value.
-/

namespace AppRelease

/-! ## What a pod finds -/

/-- What a variable of a container holds: a text, or the bytes of a secret. -/
inductive Content where
  | text (s : String)
  | bytes (b : List UInt8)
  deriving DecidableEq, Repr

/-- The content that a setting stands for; a secret that is not base 64 stands for none. -/
def Setting.content? : Setting → Option Content
  | plain text => some (.text text)
  | secret encoded => (Secrets.decode encoded).toOption.map .bytes

namespace Manifest

def configMap? : Manifest → Option ConfigMap
  | configMap o => some o
  | _ => none

def secret? : Manifest → Option SecretObject
  | secret o => some o
  | _ => none

def deployment? : Manifest → Option Deployment
  | deployment o => some o
  | _ => none

def service? : Manifest → Option Service
  | service o => some o
  | _ => none

end Manifest

/-- Whether an object goes by this name in this namespace. -/
def Metadata.isAt (m : Metadata) (nameSpace : Option String) (name : String) : Bool :=
  m.nameSpace == nameSpace && m.name == name

namespace ManifestSet

/-- What a reference leads to among the objects, seen from a namespace. -/
def lookUp (s : ManifestSet) (nameSpace : Option String) : KeyReference → Option Content
  | .configMap object key => do
    let o ← (s.manifests.filterMap Manifest.configMap?).find? (·.metadata.isAt nameSpace object)
    let text ← o.data.get? key
    return .text text
  | .secret object key => do
    let o ← (s.manifests.filterMap Manifest.secret?).find? (·.metadata.isAt nameSpace object)
    let bytes ← o.data.get? key
    return .bytes bytes

/-- The variables that the container of a deployment starts with, each with what its reference leads
to. -/
def podVariables (s : ManifestSet) (d : Deployment) : List (String × Option Content) :=
  d.container.env.map fun entry => (entry.1, s.lookUp d.metadata.nameSpace entry.2)

end ManifestSet

/-- Every label of the first is a label of the second. -/
def LabelsWithin (inner outer : Dict String) : Prop :=
  ∀ key value, inner.get? key = some value → outer.get? key = some value

/-- Objects are wired up to a configuration. -/
structure Wiring (c : AppConfig) (s : ManifestSet) (values : ConfigMap) (secret : SecretObject)
    (deployment : Deployment) (service : Service) : Prop where
  /-- Every reference of the container leads to something. -/
  found : ∀ entry ∈ s.podVariables deployment, entry.2.isSome
  /-- What the container finds is what the configuration has, name by name. -/
  contents : s.podVariables deployment = c.settings.entries.map fun e => (e.1, e.2.content?)
  /-- One entry for each name, ascending. -/
  ascending : Ascending (s.podVariables deployment)
  /-- No name is in both objects. -/
  disjoint : ∀ name, ¬ (name ∈ values.data.keys ∧ name ∈ secret.data.keys)
  /-- Every name of the configuration is in one of them, and there are no others. -/
  complete : ∀ name, name ∈ c.settings.keys ↔ name ∈ values.data.keys ∨ name ∈ secret.data.keys
  /-- The pods have the labels that the service and the deployment select by. -/
  serviceSelects : LabelsWithin service.selector deployment.podLabels
  deploymentSelects : LabelsWithin deployment.selector deployment.podLabels
  /-- One port throughout. -/
  ports : service.port = c.resources.probePort ∧ service.targetPort = c.resources.probePort ∧
    deployment.container.port = c.resources.probePort ∧
    deployment.container.probePort = c.resources.probePort

namespace AppConfig

variable {c : AppConfig} {e : Environment} {project : Project} {extra : List Manifest}

/-! ## One object of each kind -/

/-- What Argo CD adds is of none of the other kinds. -/
theorem filterMap_manifestSet {α : Type} (f : Manifest → Option α)
    (hextra : c.argoManifests e project = .ok extra) (hf : ∀ a, f (.application a) = none) :
    (c.manifestSet e extra).manifests.filterMap f = (c.manifestSet e []).manifests.filterMap f := by
  rcases argoManifests_cases hextra with rfl | ⟨a, rfl⟩
  · rfl
  · show List.filterMap f (_ ++ [.application a]) = List.filterMap f (_ ++ [])
    rw [List.filterMap_append, List.filterMap_append, List.filterMap_cons_none (hf a)]

theorem configMaps_manifestSet (hextra : c.argoManifests e project = .ok extra) :
    (c.manifestSet e extra).manifests.filterMap Manifest.configMap? = [c.configMap e] :=
  filterMap_manifestSet _ hextra fun _ => rfl

theorem secrets_manifestSet (hextra : c.argoManifests e project = .ok extra) :
    (c.manifestSet e extra).manifests.filterMap Manifest.secret? =
      [⟨c.metadata e c.secretName, c.secretData⟩] :=
  filterMap_manifestSet _ hextra fun _ => rfl

theorem deployments_manifestSet (hextra : c.argoManifests e project = .ok extra) :
    (c.manifestSet e extra).manifests.filterMap Manifest.deployment? = [c.deployment e] :=
  filterMap_manifestSet _ hextra fun _ => rfl

theorem services_manifestSet (hextra : c.argoManifests e project = .ok extra) :
    (c.manifestSet e extra).manifests.filterMap Manifest.service? = [c.service e] :=
  filterMap_manifestSet _ hextra fun _ => rfl

/-! ## References lead to contents -/

/-- The name and the namespace of an object of the application. -/
theorem isAt_metadata (c : AppConfig) (e : Environment) (name : String) :
    (c.metadata e name).isAt (some c.nameSpace) name = true := by
  simp [metadata, Metadata.isAt]

/-- **The reference of a variable leads to its content**, and there is one. -/
theorem lookUp_reference (hreadable : c.SecretsReadable)
    (hextra : c.argoManifests e project = .ok extra) {name : String} {setting : Setting}
    (hentry : (name, setting) ∈ c.settings.entries) :
    (c.manifestSet e extra).lookUp (some c.nameSpace) (c.reference name setting) =
      setting.content? ∧
      setting.content?.isSome := by
  have hget := c.settings.get?_eq_some_iff.mpr hentry
  -- the kind of the setting decides on both sides: the object that is named and the one that has
  -- the value
  cases setting with
  | plain text =>
    have hdata : (c.configMap e).data.get? name = some text := get?_plainVariables.mpr hget
    have hat : (c.configMap e).metadata.isAt (some c.nameSpace) c.configMapName = true :=
      isAt_metadata c e c.configMapName
    refine ⟨?_, rfl⟩
    rw [reference, ManifestSet.lookUp, configMaps_manifestSet hextra]
    simp [hat, hdata, Setting.content?]
  | secret encoded =>
    obtain ⟨bytes, hbytes⟩ := hreadable name encoded hget
    have hdata : c.secretData.get? name = some bytes := get?_secretData.mpr ⟨encoded, hget, hbytes⟩
    have hcontent : (Setting.secret encoded).content? = some (.bytes bytes) := by
      simp [Setting.content?, hbytes, Except.toOption]
    have hat := isAt_metadata c e c.secretName
    rw [hcontent]
    refine ⟨?_, rfl⟩
    rw [reference, ManifestSet.lookUp, secrets_manifestSet hextra]
    simp [hat, hdata]

/-- What the container finds, name by name. -/
theorem podVariables_manifestSet (hreadable : c.SecretsReadable)
    (hextra : c.argoManifests e project = .ok extra) :
    (c.manifestSet e extra).podVariables (c.deployment e) =
      c.settings.entries.map fun entry => (entry.1, entry.2.content?) := by
  show (c.settings.entries.map fun entry => (entry.1, c.reference entry.1 entry.2)).map
      (fun entry => (entry.1, (c.manifestSet e extra).lookUp (some c.nameSpace) entry.2)) = _
  rw [List.map_map]
  apply List.map_congr_left
  rintro ⟨name, setting⟩ hentry
  exact congrArg (Prod.mk name) (lookUp_reference hreadable hextra hentry).1

/-! ## Names, labels and ports -/

/-- A name is among the values when its setting is plain. -/
theorem mem_keys_plainVariables {name : String} :
    name ∈ c.plainVariables.keys ↔ ∃ text, c.settings.get? name = some (.plain text) := by
  rw [Dict.mem_keys_iff, Option.isSome_iff_exists]
  simp only [get?_plainVariables]

/-- A name is among the decoded secrets when its setting is a secret. -/
theorem mem_keys_secretData (hreadable : c.SecretsReadable) {name : String} :
    name ∈ c.secretData.keys ↔ ∃ encoded, c.settings.get? name = some (.secret encoded) := by
  rw [Dict.mem_keys_iff, Option.isSome_iff_exists]
  constructor
  · rintro ⟨bytes, hbytes⟩
    obtain ⟨encoded, hget, -⟩ := get?_secretData.mp hbytes
    exact ⟨encoded, hget⟩
  · rintro ⟨encoded, hget⟩
    obtain ⟨bytes, hbytes⟩ := hreadable name encoded hget
    exact ⟨bytes, get?_secretData.mpr ⟨encoded, hget, hbytes⟩⟩

/-- What pods are selected by is among their labels: the labels that are added have other keys. -/
theorem selectorLabels_within (c : AppConfig) (e : Environment) :
    LabelsWithin c.selectorLabels (c.labels e) := by
  intro key value hget
  have hkey : key = "app" := by
    have hmem := mem_of_lastValue? (by simpa [selectorLabels] using hget)
    simp only [List.mem_singleton, Prod.mk.injEq] at hmem
    exact hmem.1
  subst hkey
  rw [labels, Dict.get?_insert, if_neg (by decide), Dict.get?_insert, if_neg (by decide)]
  exact hget

/-- **The objects of an application are wired up.** There is one object of each kind, and what they
say about each other leads to what the configuration says. -/
theorem manifests_wired_up (c : AppConfig) (e : Environment) (project : Project) (s : ManifestSet)
    (hmade : c.manifests e project = .ok s) :
    ∃ values secret deployment service,
      s.manifests.filterMap Manifest.configMap? = [values] ∧
      s.manifests.filterMap Manifest.secret? = [secret] ∧
      s.manifests.filterMap Manifest.deployment? = [deployment] ∧
      s.manifests.filterMap Manifest.service? = [service] ∧
      Wiring c s values secret deployment service := by
  obtain ⟨hreadable, extra, hextra, rfl⟩ := manifests_eq_ok_iff.mp hmade
  have hvariables := podVariables_manifestSet hreadable hextra
  refine ⟨_, _, _, _, configMaps_manifestSet hextra, secrets_manifestSet hextra,
    deployments_manifestSet hextra, services_manifestSet hextra, ?_⟩
  constructor
  case contents => exact hvariables
  case found =>
    rw [hvariables]
    intro entry hentry
    obtain ⟨⟨name, setting⟩, hmem, rfl⟩ := List.mem_map.mp hentry
    exact (lookUp_reference hreadable hextra hmem).2
  case ascending =>
    -- the contents by name are a dictionary, which carries the proof of its order
    rw [hvariables]
    exact (c.settings.mapValues fun _ setting => setting.content?).sorted
  case disjoint =>
    rintro name ⟨hplain, hsecret⟩
    obtain ⟨text, htext⟩ := mem_keys_plainVariables.mp hplain
    obtain ⟨encoded, hencoded⟩ := (mem_keys_secretData hreadable).mp hsecret
    rw [htext] at hencoded
    exact absurd hencoded (by simp)
  case complete =>
    intro name
    show _ ↔ name ∈ c.plainVariables.keys ∨ name ∈ c.secretData.keys
    rw [mem_keys_plainVariables, mem_keys_secretData hreadable, Dict.mem_keys_iff,
      Option.isSome_iff_exists]
    constructor
    · rintro ⟨setting, hsetting⟩
      cases setting with
      | plain text => exact .inl ⟨text, hsetting⟩
      | secret encoded => exact .inr ⟨encoded, hsetting⟩
    · rintro (⟨text, htext⟩ | ⟨encoded, hencoded⟩)
      · exact ⟨_, htext⟩
      · exact ⟨_, hencoded⟩
  case serviceSelects => exact selectorLabels_within c e
  case deploymentSelects => exact selectorLabels_within c e
  case ports => exact ⟨rfl, rfl, rfl, rfl⟩

/-! ## A run -/

/-- An application with a plain value, a secret of two bytes and an empty secret. -/
def webConfig : AppConfig :=
  { plainConfig with
    settings :=
      Dict.ofList [("TOKEN", .secret "w6k="), ("HOST", .plain "0.0.0.0"), ("SALT", .secret "")] }

/-- A project that Argo CD follows. -/
def webProject : Project := { argo := { enabled := true, repository := "https://git.local/web" } }

theorem manifests_wired_up_web :
    ∃ s, webConfig.manifests .staging webProject = .ok s ∧
      ∃ values secret deployment service,
        s.manifests.filterMap Manifest.configMap? = [values] ∧
        s.manifests.filterMap Manifest.secret? = [secret] ∧
        s.manifests.filterMap Manifest.deployment? = [deployment] ∧
        s.manifests.filterMap Manifest.service? = [service] ∧
        Wiring webConfig s values secret deployment service := by
  obtain ⟨s, hs⟩ : ∃ s, webConfig.manifests .staging webProject = .ok s :=
    exists_eq_ok_of_isSome (by decide +kernel)
  exact ⟨s, hs, manifests_wired_up webConfig .staging webProject s hs⟩

end AppConfig

end AppRelease
