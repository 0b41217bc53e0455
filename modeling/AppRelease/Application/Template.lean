import AppRelease.Environment
import AppRelease.Quantity

/-!
# What an application starts from

Data: the resources an application asks for, the variables it wants, each by a template that says
where the value comes from, and `Defaults`, which holds them with the application's name and place.
A `Defaults.Fault` is why they cannot be released.

Program: `isLabel` accepts the names of applications and namespaces, `isImageTag` the tags of
images, as a cluster and a registry do.
-/

namespace AppRelease

/-! ## Names -/

/-- A small ASCII letter. -/
def isSmallLetter (c : Char) : Bool := 'a' ≤ c && c ≤ 'z'

/-- Whether a text is a label: one to 63 bytes of small letters, digits and hyphens, with a letter
or a digit at both ends. -/
def isLabel (s : String) : Bool :=
  let cs := s.toList
  s.utf8ByteSize ≤ 63
    && (match cs.head? with
      | some c => c.isAlphanum
      | none => false)
    && (match cs.getLast? with
      | some c => c.isAlphanum
      | none => false)
    && cs.all fun c => isSmallLetter c || c.isDigit || c == '-'

/-- A character that may start an image tag. -/
def startsTag (c : Char) : Bool := c.isAlphanum || c == '_'

/-- A character that may follow in an image tag. -/
def continuesTag (c : Char) : Bool := startsTag c || c == '.' || c == '-'

/-- Whether a text is an image tag: up to 128 letters, digits, underscores, points and hyphens, the
first neither a point nor a hyphen. -/
def isImageTag (s : String) : Bool :=
  match s.toList with
  | [] => false
  | first :: rest => startsTag first && rest.all continuesTag && rest.length ≤ 127

/-! ## Defaults -/

/-- How a variable of an application gets its value. -/
inductive Template where
  | literal (text : String)
  | secret (key : String)
  | resolved (key : String)
  | baseUrl
  | environment
  | host
  | port
  deriving DecidableEq, Repr

/-- What an application asks of the machines it runs on. -/
structure Resources where
  requestMemory : Memory
  requestCpu : Cpu
  limitMemory : Memory
  limitCpu : Cpu
  replicaCount : UInt32
  probePort : UInt16
  host : String
  deriving DecidableEq, Repr

/-- What is fixed about an application before variables and secrets are read. -/
structure Defaults where
  name : String
  nameSpace : String
  registry : String
  baseDomain : String
  resources : Resources
  env : List (String × Template)
  requiredEnv : List String
  deriving DecidableEq, Repr

/-- Puts a template under a name: at the place the name has, or at the end. -/
def setTemplate (name : String) (template : Template) :
    List (String × Template) → List (String × Template)
  | [] => [(name, template)]
  | (n, t) :: rest =>
    if n = name then (n, template) :: rest else (n, t) :: setTemplate name template rest

namespace Defaults

/-- The variable that holds the application's image tag. -/
def imageTagKey (d : Defaults) : String := AppRelease.imageTagKey d.name

/-- The secrets that the templates ask for, in their order. -/
def secretKeys (d : Defaults) : List String :=
  d.env.filterMap fun entry =>
    match entry.2 with
    | .secret key => some key
    | _ => none

/-- Puts a template under a name. -/
def setEnv (d : Defaults) (name : String) (template : Template) : Defaults :=
  { d with env := setTemplate name template d.env }

/-! ## Faults -/

/-- Why defaults cannot be released. -/
inductive Fault where
  | name (text : String)
  | nameSpace (text : String)
  | registry
  | replicaCount
  | probePort
  | memory (request limit : Memory)
  | cpu (request limit : Cpu)
  deriving DecidableEq, Repr

/-- The wording of a fault. -/
def Fault.message : Fault → String
  | .name text => s!"invalid application name '{text}'"
  | .nameSpace text => s!"invalid namespace '{text}'"
  | .registry => "registry must not be empty"
  | .replicaCount => "replica count must be > 0"
  | .probePort => "readiness probe port must be > 0"
  | .memory request limit => "memory request " ++ request.text ++ " exceeds limit " ++ limit.text
  | .cpu request limit => "cpu request " ++ request.text ++ " exceeds limit " ++ limit.text

end Defaults

end AppRelease
