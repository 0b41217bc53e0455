import AppRelease.Application.Config
import AppRelease.Manifest.Resource
import AppRelease.Project
import AppRelease.Secrets.Bundle

/-!
# From a configuration to objects

Program: `AppConfig.manifests` makes the objects of an application: its namespace, its values, its
secrets, its deployment and its service, and what Argo CD is to follow when the project asks for
that.

Crux: the container refers to every variable by name and key, and the two objects that hold the
values are made from the same variables.
-/

namespace AppRelease

namespace AppConfig

/-- The label that says what made an object. -/
def managedBy : String × String := ("app.kubernetes.io/managed-by", "kube-appconfig")

/-- The labels that pods are selected by. -/
def selectorLabels (c : AppConfig) : Dict String := Dict.ofList [("app", c.name)]

/-- The labels of an application's objects. -/
def labels (c : AppConfig) (e : Environment) : Dict String :=
  (c.selectorLabels.insert managedBy.1 managedBy.2).insert "environment" e.name

/-- What an object of the application has. -/
def metadata (c : AppConfig) (e : Environment) (name : String) : Metadata where
  name := name
  nameSpace := some c.nameSpace
  labels := c.labels e

/-- The name of the object that holds the values. -/
def configMapName (c : AppConfig) : String := c.name ++ "-config"

/-- The name of the object that holds the secrets. -/
def secretName (c : AppConfig) : String := c.name ++ "-secret"

/-- The namespace. Applications share it, so it says nothing about this one. -/
def nameSpaceObject (c : AppConfig) : Metadata where
  name := c.nameSpace
  nameSpace := none
  labels := Dict.ofList [managedBy]

/-- The object that holds the values that are no secrets. -/
def configMap (c : AppConfig) (e : Environment) : ConfigMap where
  metadata := c.metadata e c.configMapName
  data := c.plainVariables

/-- Decodes secrets in order; the first that is not base 64 is the error. -/
def decodeEntries : List (String × String) → Except Error (List (String × List UInt8))
  | [] => .ok []
  | (key, encoded) :: rest => do
    let bytes ← Secrets.decode encoded
    let others ← decodeEntries rest
    return (key, bytes) :: others

/-- The object that holds the secrets. -/
def secretObject (c : AppConfig) (e : Environment) : Except Error SecretObject := do
  let entries ← decodeEntries c.secretVariables.entries
  return { metadata := c.metadata e c.secretName, data := Dict.ofList entries }

/-- Where the container finds a variable. -/
def reference (c : AppConfig) (key : String) : Setting → KeyReference
  | .plain _ => .configMap c.configMapName key
  | .secret _ => .secret c.secretName key

/-- What runs in the pods. -/
def container (c : AppConfig) : Container where
  name := c.name
  image := c.image
  env := c.settings.entries.map fun e => (e.1, c.reference e.1 e.2)
  port := c.resources.probePort
  probePort := c.resources.probePort
  limits := ⟨c.resources.limitCpu.text, c.resources.limitMemory.text⟩
  requests := ⟨c.resources.requestCpu.text, c.resources.requestMemory.text⟩

/-- The deployment. The cluster counts replicas in 32 bits with a sign. -/
def deployment (c : AppConfig) (e : Environment) : Deployment where
  metadata := c.metadata e c.name
  replicas := c.resources.replicaCount.toInt32.toInt
  selector := c.selectorLabels
  podLabels := c.labels e
  container := c.container

/-- The service. -/
def service (c : AppConfig) (e : Environment) : Service where
  metadata := c.metadata e c.name
  selector := c.selectorLabels
  port := c.resources.probePort
  targetPort := c.resources.probePort

/-- The directory in the repository that Argo CD is to follow. -/
def sourcePath (c : AppConfig) (e : Environment) (outputDirectory : String) : String :=
  Text.trimEnd '/' outputDirectory ++ "/" ++ e.name ++ "/" ++ c.nameSpace ++ "/" ++ c.name

/-- What Argo CD is to follow; it needs to know the repository. -/
def argoApplication (c : AppConfig) (e : Environment) (project : Project) :
    Except Error ArgoApplication :=
  if Text.isBlankText project.argo.repository then .error (.invalid .repositoryUnset)
  else .ok {
    metadata := {
      name := c.name ++ "-" ++ e.name
      nameSpace := some project.argo.nameSpace
      labels := c.labels e
      finalizers := ["resources-finalizer.argocd.argoproj.io"] }
    destinationNameSpace := c.nameSpace
    destinationServer := project.argo.server
    project := project.argo.project
    sourcePath := c.sourcePath e project.render.outputDirectory
    repository := project.argo.repository
    revision := project.argo.revision }

/-- What is added for Argo CD. -/
def argoManifests (c : AppConfig) (e : Environment) (project : Project) :
    Except Error (List Manifest) :=
  if project.argo.enabled then do
    let application ← c.argoApplication e project
    return [.application application]
  else return []

/-- The objects of an application, in the order in which they are to be made. -/
def manifests (c : AppConfig) (e : Environment) (project : Project) : Except Error ManifestSet := do
  let secret ← c.secretObject e
  let extra ← c.argoManifests e project
  return {
    application := c.name
    nameSpace := c.nameSpace
    environment := e
    manifests := [
      .nameSpace c.nameSpaceObject,
      .configMap (c.configMap e),
      .secret secret,
      .deployment (c.deployment e),
      .service (c.service e)] ++ extra }

end AppConfig

end AppRelease
