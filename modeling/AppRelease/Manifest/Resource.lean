import AppRelease.Base64
import AppRelease.Dict
import AppRelease.Document
import AppRelease.Environment
import AppRelease.Numeral
import AppRelease.Yaml.Printer

/-!
# Objects of a cluster

Data: the six kinds of objects that an application needs, with what the release decides about them.
The rest is the same for every application and stands where the object is written as a document.

Program: `Manifest.toDocument` lays an object out: version and kind first, then its parts by name.
-/

namespace AppRelease

/-- What every object has. -/
structure Metadata where
  name : String
  nameSpace : Option String
  labels : Dict String
  finalizers : List String := []
  deriving DecidableEq

/-- The values of variables that are no secrets. -/
structure ConfigMap where
  metadata : Metadata
  data : Dict String
  deriving DecidableEq

/-- The values of secrets, as bytes. -/
structure SecretObject where
  metadata : Metadata
  data : Dict (List UInt8)
  deriving DecidableEq

/-- Where a container finds the value of a variable: an object and a key in it. -/
inductive KeyReference where
  | configMap (object key : String)
  | secret (object key : String)
  deriving DecidableEq, Repr

/-- An amount of processor time and of memory, as written. -/
structure Amounts where
  cpu : String
  memory : String
  deriving DecidableEq, Repr

/-- What runs in a pod. -/
structure Container where
  name : String
  image : String
  env : List (String × KeyReference)
  port : UInt16
  probePort : UInt16
  limits : Amounts
  requests : Amounts
  deriving DecidableEq, Repr

/-- A number of pods with one container each. -/
structure Deployment where
  metadata : Metadata
  replicas : Int
  selector : Dict String
  podLabels : Dict String
  container : Container
  deriving DecidableEq

/-- The address of the pods inside the cluster. -/
structure Service where
  metadata : Metadata
  selector : Dict String
  port : UInt16
  targetPort : UInt16
  deriving DecidableEq

/-- What Argo CD is to follow. -/
structure ArgoApplication where
  metadata : Metadata
  destinationNameSpace : String
  destinationServer : String
  project : String
  sourcePath : String
  repository : String
  revision : String
  deriving DecidableEq

/-- An object of one of the six kinds. -/
inductive Manifest where
  | nameSpace (metadata : Metadata)
  | configMap (object : ConfigMap)
  | secret (object : SecretObject)
  | deployment (object : Deployment)
  | service (object : Service)
  | application (object : ArgoApplication)
  deriving DecidableEq

/-! ## Documents -/

/-- A dictionary of texts. -/
def textsDocument (d : Dict String) : Document :=
  .record (d.entries.map fun e => (e.1, .text e.2))

/-- What every object has, as a document. -/
def Metadata.toDocument (m : Metadata) : Document :=
  .record (
    (if m.finalizers.isEmpty then [] else [("finalizers", .list (m.finalizers.map .text))])
      ++ [("labels", textsDocument m.labels), ("name", .text m.name)]
      ++ (match m.nameSpace with
        | some n => [("namespace", .text n)]
        | none => []))

/-- A port as a document. -/
def portDocument (port : UInt16) : Document := .number port.toNat

/-- Amounts as a document. -/
def Amounts.toDocument (a : Amounts) : Document :=
  .record [("cpu", .text a.cpu), ("memory", .text a.memory)]

/-- A reference to a key in an object. -/
def keySelector (object key : String) : Document :=
  .record [("key", .text key), ("name", .text object), ("optional", .flag false)]

/-- Where a variable finds its value, as a document. -/
def KeyReference.toDocument : KeyReference → Document
  | .configMap object key => .record [("configMapKeyRef", keySelector object key)]
  | .secret object key => .record [("secretKeyRef", keySelector object key)]

/-- What runs in a pod, as a document. -/
def Container.toDocument (c : Container) : Document :=
  .record [
    ("env", .list (c.env.map fun e =>
      .record [("name", .text e.1), ("valueFrom", e.2.toDocument)])),
    ("image", .text c.image),
    ("name", .text c.name),
    ("ports", .list [.record [
      ("containerPort", portDocument c.port),
      ("name", .text "http"),
      ("protocol", .text "TCP")]]),
    ("readinessProbe", .record [
      ("failureThreshold", .number 3),
      ("initialDelaySeconds", .number 5),
      ("periodSeconds", .number 10),
      ("tcpSocket", .record [("port", portDocument c.probePort)])]),
    ("resources", .record [
      ("limits", c.limits.toDocument),
      ("requests", c.requests.toDocument)])]

/-- The specification of a deployment. -/
def Deployment.specification (d : Deployment) : Document :=
  .record [
    ("replicas", .number d.replicas),
    ("selector", .record [("matchLabels", textsDocument d.selector)]),
    ("strategy", .record [
      ("rollingUpdate", .record [("maxSurge", .text "25%"), ("maxUnavailable", .text "25%")]),
      ("type", .text "RollingUpdate")]),
    ("template", .record [
      ("metadata", .record [("labels", textsDocument d.podLabels)]),
      ("spec", .record [("containers", .list [d.container.toDocument])])])]

/-- The specification of a service. -/
def Service.specification (s : Service) : Document :=
  .record [
    ("ports", .list [.record [
      ("name", .text "http"),
      ("port", portDocument s.port),
      ("protocol", .text "TCP"),
      ("targetPort", portDocument s.targetPort)]]),
    ("selector", textsDocument s.selector),
    ("type", .text "ClusterIP")]

/-- The specification of what Argo CD is to follow. -/
def ArgoApplication.specification (a : ArgoApplication) : Document :=
  .record [
    ("destination", .record [
      ("namespace", .text a.destinationNameSpace),
      ("server", .text a.destinationServer)]),
    ("project", .text a.project),
    ("source", .record [
      ("path", .text a.sourcePath),
      ("repoURL", .text a.repository),
      ("targetRevision", .text a.revision)]),
    ("syncPolicy", .record [
      ("automated", .record [("prune", .flag true), ("selfHeal", .flag true)]),
      ("syncOptions", .list [.text "CreateNamespace=true"])])]

namespace Manifest

/-- The kind of an object. -/
def kind : Manifest → String
  | nameSpace _ => "Namespace"
  | configMap _ => "ConfigMap"
  | secret _ => "Secret"
  | deployment _ => "Deployment"
  | service _ => "Service"
  | application _ => "Application"

/-- The version of the interface that an object belongs to. -/
def apiVersion : Manifest → String
  | nameSpace _ => "v1"
  | configMap _ => "v1"
  | secret _ => "v1"
  | deployment _ => "apps/v1"
  | service _ => "v1"
  | application _ => "argoproj.io/v1alpha1"

/-- What every object has. -/
def metadata : Manifest → Metadata
  | nameSpace m => m
  | configMap o => o.metadata
  | secret o => o.metadata
  | deployment o => o.metadata
  | service o => o.metadata
  | application o => o.metadata

/-- The name of an object. -/
def name (m : Manifest) : String := m.metadata.name

/-- The namespace of an object; a namespace has none. -/
def nameSpace? : Manifest → Option String
  | nameSpace _ => none
  | other => other.metadata.nameSpace

/-- The parts of an object, by name. -/
def parts : Manifest → List (String × Document)
  | nameSpace m => [("metadata", m.toDocument)]
  | configMap o => [("data", textsDocument o.data), ("metadata", o.metadata.toDocument)]
  | secret o => [
      ("data", textsDocument (o.data.mapValues fun _ bytes => Base64.encode bytes)),
      ("metadata", o.metadata.toDocument),
      ("type", .text "Opaque")]
  | deployment o => [("metadata", o.metadata.toDocument), ("spec", o.specification)]
  | service o => [("metadata", o.metadata.toDocument), ("spec", o.specification)]
  | application o => [("metadata", o.metadata.toDocument), ("spec", o.specification)]

/-- An object as a document. -/
def toDocument (m : Manifest) : Document :=
  .record (("apiVersion", .text m.apiVersion) :: ("kind", .text m.kind) :: m.parts)

/-- An object written as YAML. -/
def toYaml (m : Manifest) : String := m.toDocument.toYaml

end Manifest

/-- The objects of one application in one environment, in the order in which they are to be made. -/
structure ManifestSet where
  application : String
  nameSpace : String
  environment : Environment
  manifests : List Manifest
  deriving DecidableEq

namespace ManifestSet

/-- How many objects there are. -/
def size (s : ManifestSet) : Nat := s.manifests.length

/-- No objects at all. -/
def isEmpty (s : ManifestSet) : Bool := s.manifests.isEmpty

/-- The first object of a kind. -/
def find? (s : ManifestSet) (kind : String) : Option Manifest :=
  s.manifests.find? fun m => m.kind == kind

end ManifestSet

end AppRelease
