import AppRelease.Cluster.Address
import AppRelease.FileTree
import AppRelease.Json.Value
import AppRelease.Yaml.Shape

/-!
# What goes wrong with a cluster
-/

namespace AppRelease.Cluster

/-- What a cluster says when it does not accept an object. -/
structure Status where
  status : String
  message : String
  reason : String
  code : Nat
  deriving DecidableEq, Repr

/-- The wording of a status, message and reason first and then every part. -/
def Status.text (s : Status) : String :=
  s.message ++ ": " ++ s.reason ++ " (ErrorResponse \x7b status: " ++ Text.quoted s.status
    ++ ", message: " ++ Text.quoted s.message ++ ", reason: " ++ Text.quoted s.reason
    ++ ", code: " ++ Numeral.decimal s.code ++ " \x7d)"

/-- Why an object was not sent or not accepted. -/
inductive Refusal where
  | emptyName
  | wrongAddress (fault : AddressFault)
  | notAbsolute
  | unreachable
  | status (s : Status)
  | undecodable (error : Json.Error)
  deriving DecidableEq, Repr

/-- The wording of a refusal. -/
def Refusal.message : Refusal → String
  | .emptyName =>
    "Failed to build request: failed to validate request: A non-empty name is required"
  | .wrongAddress fault => "Failed to build request: failed to build request: " ++ fault.message
  | .notAbsolute => "ServiceError: client error (UserAbsoluteUriRequired)"
  | .unreachable => "ServiceError: client error (Connect)"
  | .status s => "ApiError: " ++ s.text
  | .undecodable error => "Error deserializing response: " ++ error.message

/-- Why a configuration file leads to no cluster. -/
inductive ConfigFault where
  | unreadable (path : List UInt8) (cause : FileTree.Fault)
  | malformed (fault : Yaml.ValueFault)
  | misshapen (fault : Yaml.ShapeFault)
  | kindsDiffer
  | versionsDiffer
  | noContext
  | unknownContext (name : String)
  | unknownCluster (name : String)
  | unknownUser (name : String)
  | noServer
  | wrongServer (fault : AddressFault)
  | noCertificate
  | wrongProxy (fault : AddressFault)
  deriving DecidableEq, Repr

/-- The wording of that. -/
def ConfigFault.message : ConfigFault → String
  | .unreadable path cause =>
    "failed to read kubeconfig from '" ++ Text.quotedBytes path ++ "': " ++ cause.message
  | .malformed fault => "failed to parse kubeconfig YAML: " ++ fault.message
  | .misshapen fault => "the structure of the parsed kubeconfig is invalid: " ++ fault.message
  | .kindsDiffer => "kubeconfigs with mismatching kind cannot be merged"
  | .versionsDiffer => "kubeconfigs with mismatching api version cannot be merged"
  | .noContext => "failed to determine current context"
  | .unknownContext name => s!"failed to load current context: {name}"
  | .unknownCluster name => s!"failed to load the cluster of context: {name}"
  | .unknownUser name => s!"failed to find named user: {name}"
  | .noServer => "cluster url is missing on selected cluster"
  | .wrongServer fault => "failed to parse cluster url: " ++ fault.message
  | .noCertificate => "failed to load certificate authority"
  | .wrongProxy fault => "failed to parse proxy url: " ++ fault.message

/-- Why the cluster that a program runs in cannot be used. -/
inductive InsideFault where
  | variableMissing
  | variableUndecodable (bytes : List UInt8)
  | wrongPort (fault : Numeral.Fault)
  | wrongServer (fault : AddressFault)
  | noNamespace (cause : FileTree.Fault)
  deriving DecidableEq, Repr

/-- The wording of that. -/
def InsideFault.message : InsideFault → String
  | .variableMissing =>
    "failed to read an incluster environment variable: environment variable not found"
  | .variableUndecodable bytes =>
    "failed to read an incluster environment variable: environment variable was not valid unicode: "
      ++ Text.quotedBytes bytes
  | .wrongPort fault => "failed to parse cluster port: " ++ fault.message
  | .wrongServer fault => "failed to parse cluster url: " ++ fault.message
  | .noNamespace cause => "failed to read the default namespace: " ++ cause.message

/-- A proxy is set, and none can be used. -/
structure ProxyFault where
  proxy : Address
  deriving DecidableEq, Repr

/-- The wording of that. -/
def ProxyFault.message (fault : ProxyFault) : String :=
  "configured proxy " ++ fault.proxy.text
    ++ if fault.proxy.scheme = "http" then " requires the disabled feature \"kube/http-proxy\""
      else if fault.proxy.scheme = "socks5" then " requires the disabled feature \"kube/socks5\""
      else " uses an unsupported protocol"

/-- Why a cluster cannot be used. -/
inductive Fault where
  | loading (cause : ConfigFault)
  | choosing (cause : ConfigFault)
  | inferring (inside : InsideFault) (cause : ConfigFault)
  | proxied (cause : ProxyFault)
  | refused (kind name : String) (cause : Refusal)
  | stated (reason : String)
  deriving DecidableEq, Repr

/-- The wording of a fault. -/
def Fault.message : Fault → String
  | .loading cause => "Failed to load kubeconfig: " ++ cause.message
  | .choosing cause => "Failed to create Kubernetes config: " ++ cause.message
  | .inferring inside cause =>
    "Failed to create Kubernetes client: Failed to infer configuration: failed to infer config: "
      ++ "in-cluster: (" ++ inside.message ++ "), kubeconfig: (" ++ cause.message ++ ")"
  | .proxied cause => "Failed to create Kubernetes client: " ++ cause.message
  | .refused kind name cause => s!"Failed to apply {kind} {name}: " ++ cause.message
  | .stated reason => reason

end AppRelease.Cluster
