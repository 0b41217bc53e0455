import AppRelease.Application.Template
import AppRelease.Dict
import AppRelease.Document

/-!
# The configuration of an application

Data: everything about one application in one environment, with no question left open. A secret
keeps the base 64 text it had in its bundle.
-/

namespace AppRelease

/-- The value of a variable of an application. -/
inductive Setting where
  | plain (text : String)
  | secret (encoded : String)
  deriving DecidableEq, Repr

namespace Setting

/-- The text of a value; a secret's is in base 64. -/
def text : Setting → String
  | plain text => text
  | secret encoded => encoded

/-- Whether the value is a secret. -/
def isSecret : Setting → Bool
  | plain _ => false
  | secret _ => true

/-- The text of a value that is no secret. -/
def plain? : Setting → Option String
  | plain text => some text
  | secret _ => none

/-- The base 64 text of a secret. -/
def secret? : Setting → Option String
  | plain _ => none
  | secret encoded => some encoded

end Setting

/-- An application as it is to be released. -/
structure AppConfig where
  name : String
  nameSpace : String
  image : String
  resources : Resources
  settings : Dict Setting
  deriving DecidableEq

namespace AppConfig

/-- The values that are no secrets, by ascending name. -/
def plainVariables (c : AppConfig) : Dict String := c.settings.filterMap Setting.plain?

/-- The secrets in base 64, by ascending name. -/
def secretVariables (c : AppConfig) : Dict String := c.settings.filterMap Setting.secret?

/-- The configuration as a document. -/
def toDocument (c : AppConfig) : Document :=
  .record [
    ("kubeConfig", .record [
      ("requestMemory", .text c.resources.requestMemory.text),
      ("requestCpu", .text c.resources.requestCpu.text),
      ("limitMemory", .text c.resources.limitMemory.text),
      ("limitCpu", .text c.resources.limitCpu.text),
      ("replicaCount", .number c.resources.replicaCount.toNat),
      ("readinessProbePort", .number c.resources.probePort.toNat),
      ("host", .text c.resources.host),
      ("image", .text c.image)]),
    ("envVars", .record (c.settings.entries.map fun e => (e.1, .text e.2.text))),
    ("metadata", .record [
      ("name", .text c.name),
      ("namespace", .text c.nameSpace)])]

end AppConfig

end AppRelease
