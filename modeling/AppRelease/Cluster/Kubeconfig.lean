import AppRelease.Base64
import AppRelease.Error
import AppRelease.Variables

/-!
# Which cluster to talk to

Data: a configuration names clusters, users and contexts. A context puts a cluster, a user and a
namespace together.

Program: `Kubeconfig.read` takes a configuration from the YAML documents of a file, `readAll` from
several files. Where two say something about the same name the first counts. `Kubeconfig.connection`
takes the address and the namespace from a context, the current one when none is given.
-/

namespace AppRelease.Cluster

/-- A cluster, a user and a namespace under one name. -/
structure Context where
  cluster : String := ""
  user : String := ""
  nameSpace : Option String := none
  deriving DecidableEq, Repr

/-- Where a cluster is reached, through what, and the certificate that it has to show, as a file or
as data. -/
structure Endpoint where
  server : Option String := none
  proxy : Option String := none
  certificateFile : Option String := none
  certificate : Option String := none
  deriving DecidableEq, Repr

/-- Something under a name that need not be there. -/
abbrev Named (α : Type) := String × Option α

/-- What configuration files hold. Of users only their names matter here. -/
structure Kubeconfig where
  kind : Option String := none
  apiVersion : Option String := none
  currentContext : Option String := none
  contexts : List (Named Context) := []
  clusters : List (Named Endpoint) := []
  users : List (Named Unit) := []
  deriving DecidableEq, Repr

/-- Where a cluster is reached, and the namespace of objects that name none. -/
structure Connection where
  server : Address
  nameSpace : String
  proxy : Option Address := none
  deriving DecidableEq, Repr

/-! ## The shape of a file -/

open Yaml (Value Shape RecordField ShapeFault)

/-- A text that may be missing and is not used. -/
def unusedText {σ : Type} : RecordField σ := .unused (Value.asOptional Value.asText)

/-- A truth value that may be missing and is not used. -/
def unusedBoolean {σ : Type} : RecordField σ := .unused (Value.asOptional Value.asBoolean)

/-- A list of texts that may be missing and is not used. -/
def unusedTexts {σ : Type} : RecordField σ := .unused (Value.asOptional (Value.asList Value.asText))

/-- An extension: anything under a name. -/
def extensionShape : Shape Unit where
  name := "NamedExtension"
  fields := [("name", .unused Value.asText), ("extension", .unused fun v : Value => Except.ok v)]
  required := ["name", "extension"]

/-- Extensions that may be missing and are not used. -/
def unusedExtensions {σ : Type} : RecordField σ :=
  .unused (Value.asOptional (Value.asList (extensionShape.fill ())))

/-- What a program prefers. -/
def preferencesShape : Shape Unit where
  name := "Preferences"
  fields := [("colors", unusedBoolean), ("extensions", unusedExtensions)]

/-- How a cluster is described. -/
def endpointShape : Shape Endpoint where
  name := "Cluster"
  fields := [
    ("server", fun v e => return { e with server := ← v.asOptional Value.asText }),
    ("insecure-skip-tls-verify", unusedBoolean),
    ("certificate-authority",
      fun v e => return { e with certificateFile := ← v.asOptional Value.asText }),
    ("certificate-authority-data",
      fun v e => return { e with certificate := ← v.asOptional Value.asText }),
    ("proxy-url", fun v e => return { e with proxy := ← v.asOptional Value.asText }),
    ("disable-compression", unusedBoolean),
    ("tls-server-name", unusedText),
    ("extensions", unusedExtensions)]

/-- A service that knows users. -/
def providerShape : Shape Unit where
  name := "AuthProviderConfig"
  fields := [("name", .unused Value.asText), ("config", .unused Value.asTexts)]
  required := ["name"]

/-- A program that knows users. -/
def programShape : Shape Unit where
  name := "ExecConfig"
  fields := [
    ("apiVersion", unusedText),
    ("command", unusedText),
    ("args", unusedTexts),
    ("env", .unused (Value.asOptional (Value.asList Value.asTexts))),
    ("interactiveMode",
      .unused (Value.asOptional (Value.asName ["Never", "IfAvailable", "Always"]))),
    ("provideClusterInfo", .unused Value.asBoolean)]

/-- How a user is described. -/
def userShape : Shape Unit where
  name := "AuthInfo"
  fields := [
    ("username", unusedText),
    ("password", unusedText),
    ("token", unusedText),
    ("tokenFile", unusedText),
    ("client-certificate", unusedText),
    ("client-certificate-data", unusedText),
    ("client-key", unusedText),
    ("client-key-data", unusedText),
    ("as", unusedText),
    ("as-groups", unusedTexts),
    ("auth-provider", .unused (Value.asOptional (providerShape.fill ()))),
    ("exec", .unused (Value.asOptional (programShape.fill ())))]

/-- How a context is described. -/
def contextShape : Shape Context where
  name := "Context"
  fields := [
    ("cluster", fun v c => return { c with cluster := ← v.asText }),
    ("user", fun v c => return { c with user := ← v.asText }),
    ("namespace", fun v c => return { c with nameSpace := ← v.asOptional Value.asText }),
    ("extensions", unusedExtensions)]
  required := ["cluster", "user"]

/-- Something with its name beside it. -/
def namedShape {α : Type} (name key : String) (inside : Shape α) (initial : α) :
    Shape (Named α) where
  name := name
  fields := [
    ("name", fun v n => return (← v.asText, n.2)),
    (key, fun v n => return (n.1, ← v.asOptional (inside.fill initial)))]
  required := ["name"]

/-- A list of things with names; it may be missing. -/
def namedList {α : Type} (name key : String) (inside : Shape α) (initial : α) (value : Value) :
    Except ShapeFault (List (Named α)) :=
  value.asList ((namedShape name key inside initial).fill ("", none))

/-- How a file is laid out. -/
def fileShape : Shape Kubeconfig where
  name := "Kubeconfig"
  fields := [
    ("preferences", .unused (Value.asOptional (preferencesShape.fill ()))),
    ("clusters", fun v k => return { k with
      clusters := ← namedList "NamedCluster" "cluster" endpointShape {} v }),
    ("users", fun v k =>
      return { k with users := ← namedList "NamedAuthInfo" "user" userShape () v }),
    ("contexts", fun v k => return { k with
      contexts := ← namedList "NamedContext" "context" contextShape {} v }),
    ("current-context", fun v k => return { k with currentContext := ← v.asOptional Value.asText }),
    ("extensions", unusedExtensions),
    ("kind", fun v k => return { k with kind := ← v.asOptional Value.asText }),
    ("apiVersion", fun v k => return { k with apiVersion := ← v.asOptional Value.asText })]

/-! ## Reading -/

namespace Kubeconfig

/-- What a document holds. -/
def ofDocument (doc : Yaml.Events) : Except ConfigFault Kubeconfig :=
  match doc.value with
  | .error fault => .error (.malformed fault)
  | .ok value =>
    match fileShape.fill {} value with
    | .error fault => .error (.misshapen fault)
    | .ok k => .ok k

/-- Whether two things are said and differ. -/
def differ (a b : Option String) : Bool := a.isSome && b.isSome && a ≠ b

/-- Two configurations together; the first counts where both say something. -/
def merge (a b : Kubeconfig) : Except ConfigFault Kubeconfig :=
  if differ a.kind b.kind then .error .kindsDiffer
  else if differ a.apiVersion b.apiVersion then .error .versionsDiffer
  else .ok {
    kind := a.kind.or b.kind
    apiVersion := a.apiVersion.or b.apiVersion
    currentContext := a.currentContext.or b.currentContext
    contexts := a.contexts ++ b.contexts
    clusters := a.clusters ++ b.clusters
    users := a.users ++ b.users }

/-- Files that are named in a file are seen from its directory. -/
def seenFrom (directory : String) (k : Kubeconfig) : Kubeconfig :=
  { k with clusters := k.clusters.map fun (name, endpoint) =>
      (name, endpoint.map fun e =>
        { e with certificateFile := e.certificateFile.map (Path.join directory) }) }

/-- What the documents of a text hold together. -/
def ofText (text : String) : Except ConfigFault Kubeconfig := do
  let documents ← (Yaml.documents text.toList).mapM ofDocument
  documents.foldlM merge {}

/-- Reads a configuration file. -/
def read (files : FileTree) (path : List UInt8) : Except ConfigFault Kubeconfig :=
  match files.readTextAt path with
  | .error cause => .error (.unreadable path cause)
  | .ok text => (ofText text).map (seenFrom (Path.parent (Text.lossy path)))

/-- Reads several files as one. -/
def readAll (files : FileTree) (paths : List (List UInt8)) : Except ConfigFault Kubeconfig :=
  paths.foldlM (fun known path => do known.merge (← read files path)) {}

end Kubeconfig

/-- The bytes of a variable. -/
def variableBytes? (source : Source) (name : String) : Option (List UInt8) :=
  match source name with
  | .absent => none
  | .undecodable bytes => some bytes
  | .text s => some (Text.bytesOf s)

/-- The file in a home directory. -/
def homePath (home : List UInt8) : List UInt8 :=
  let stroke := if home.isEmpty || home.getLast? == some 47 then [] else [47]
  home ++ stroke ++ Text.bytesOf ".kube/config"

/-- The files that `KUBECONFIG` lists, else the one in the home directory. -/
def defaultPaths (source : Source) : List (List UInt8) :=
  let listed := ((variableBytes? source "KUBECONFIG").getD []).splitOn 58
  match listed.filter (· ≠ []) with
  | [] => [homePath ((variableBytes? source "HOME").getD [])]
  | paths => paths

/-! ## Connecting -/

/-- The text of a variable that is not empty. -/
def variableText? (source : Source) (name : String) : Option String :=
  match source name with
  | .text s => if s.isEmpty then none else some s
  | _ => none

/-- The proxy of a cluster: its own, else the one of the variables. -/
def Endpoint.proxyText? (e : Endpoint) (source : Source) : Option String :=
  (e.proxy.filter (!·.isEmpty)).or
    (["HTTP_PROXY", "http_proxy", "HTTPS_PROXY", "https_proxy"].findSome? (variableText? source))

/-- Whether the certificate can be had, if there is to be one. Data count before a file. -/
def Endpoint.certificateFound (e : Endpoint) (files : FileTree) : Bool :=
  match e.certificate, e.certificateFile with
  | some data, _ => (Base64.decode data).toBool
  | none, some path => files.isFile path
  | none, none => true

/-- How a cluster is reached. -/
def Endpoint.connection (e : Endpoint) (files : FileTree) (source : Source)
    (nameSpace : Option String) :
    Except ConfigFault Connection := do
  let some server := e.server | throw .noServer
  let server ← (Address.read server).mapError .wrongServer
  unless e.certificateFound files do throw .noCertificate
  let proxy ← match e.proxyText? source with
    | none => pure none
    | some text => ((Address.read text).map some).mapError .wrongProxy
  return ⟨server, nameSpace.getD "default", proxy⟩

/-- What stands under a name. -/
def find? {α : Type} (all : List (Named α)) (name : String) : Option α := (all.lookup name).join

/-- The connection of a context. -/
def Kubeconfig.connection (k : Kubeconfig) (files : FileTree) (source : Source)
    (context : Option String) :
    Except ConfigFault Connection := do
  let some name := context.or k.currentContext | throw .noContext
  let some context := find? k.contexts name | throw (.unknownContext name)
  let some endpoint := find? k.clusters context.cluster | throw (.unknownCluster context.cluster)
  if (find? k.users context.user).isNone then throw (.unknownUser context.user)
  endpoint.connection files source context.nameSpace

end AppRelease.Cluster
