import AppRelease.Cluster.Kubeconfig

/-!
# Finding a cluster

Program: `insideConnection` finds the cluster that the program itself runs in, by two variables and
a file. `connect` finds the cluster to talk to: by the configuration file that is given, else by
those of the variables, and without any hint at all by the cluster around the program when the files
lead nowhere.
-/

namespace AppRelease.Cluster

/-! ## Numeric hosts -/

/-- A number from 0 to 255 without a zero before it. -/
def isOctet (cs : List Char) : Bool :=
  match Numeral.readBounded 255 cs with
  | .ok _ => cs.all Char.isDigit && (cs.length = 1 || cs.head? != some '0')
  | .error _ => false

/-- Four octets with points between them. -/
def isDotted (cs : List Char) : Bool :=
  let octets := Text.pieces '.' cs
  octets.length = 4 && octets.all isOctet

/-- One to four hexadecimal digits. -/
def isGroup (cs : List Char) : Bool :=
  !cs.isEmpty && cs.length ≤ 4 && cs.all fun c => (Json.hexValue? c).isSome

/-- How many groups stand between colons; four octets at the end are two. -/
def groupCount? (dottedEnd : Bool) (cs : List Char) : Option Nat :=
  if cs.isEmpty then some 0
  else
    let groups := Text.pieces ':' cs
    let last := groups.getLastD []
    if !groups.dropLast.all isGroup then none
    else if isGroup last then some groups.length
    else if dottedEnd && isDotted last then some (groups.length + 1)
    else none

/-- The parts before and after the first two colons. -/
def cutAtColons : List Char → Option (List Char × List Char)
  | ':' :: ':' :: rest => some ([], rest)
  | c :: rest => (cutAtColons rest).map fun (before, after) => (c :: before, after)
  | [] => none

/-- Eight groups, or fewer with two colons for those that are zero. -/
def isColonSeparated (cs : List Char) : Bool :=
  match cutAtColons cs with
  | none => groupCount? true cs == some 8
  | some (before, after) =>
    match groupCount? false before, groupCount? true after with
    | some m, some n => m + n ≤ 7
    | _, _ => false

/-- The address of a host and a port. Colons of a host stand in brackets. -/
def hostAddress (host : String) (port : Nat) : String :=
  let host := if isColonSeparated host.toList then "[" ++ host ++ "]" else host
  "https://" ++ host ++ if port = 443 then "" else ":" ++ Numeral.decimal port

/-! ## The cluster around the program -/

/-- A variable that has to be there. -/
def requiredVariable (source : Source) (name : String) : Except InsideFault String :=
  match source name with
  | .absent => .error .variableMissing
  | .undecodable bytes => .error (.variableUndecodable bytes)
  | .text s => .ok s

/-- The file with the namespace of the program. -/
def nameSpaceFile : String := "/var/run/secrets/kubernetes.io/serviceaccount/namespace"

/-- The cluster that the program runs in. -/
def insideConnection (files : FileTree) (source : Source) : Except InsideFault Connection := do
  let host ← requiredVariable source "KUBERNETES_SERVICE_HOST"
  let port ← requiredVariable source "KUBERNETES_SERVICE_PORT"
  let port ← (Numeral.readBounded 65535 port.toList).mapError .wrongPort
  let server ← (Address.read (hostAddress host port)).mapError .wrongServer
  let nameSpace ← (files.readText nameSpaceFile).mapError .noNamespace
  return ⟨server, nameSpace, none⟩

/-! ## Connecting -/

/-- Finds the cluster to talk to without any hint. -/
def inferConnection (files : FileTree) (source : Source) : Except Fault Connection :=
  let configured : Except ConfigFault Connection := do
    (← Kubeconfig.readAll files (defaultPaths source)).connection files source none
  match configured with
  | .ok connection => .ok connection
  | .error cause => (insideConnection files source).mapError fun inside => .inferring inside cause

/-- Finds the cluster to talk to in configuration files. -/
def chooseConnection (files : FileTree) (source : Source) (path context : Option String) :
    Except Fault Connection := do
  let paths := match path with
    | some path => [Text.bytesOf path]
    | none => defaultPaths source
  let k ← (Kubeconfig.readAll files paths).mapError .loading
  (k.connection files source context).mapError .choosing

/-- Finds the cluster to talk to. There is no way through a proxy. -/
def connect (files : FileTree) (source : Source) (path context : Option String) :
    Except Error Connection := do
  let connection ← (if path.isNone && context.isNone then inferConnection files source
    else chooseConnection files source path context).mapError .cluster
  match connection.proxy with
  | some proxy => throw (.cluster (.proxied ⟨proxy⟩))
  | none => return connection

end AppRelease.Cluster
