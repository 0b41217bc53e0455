import AppRelease.Application.Config
import AppRelease.Secrets.Bundle
import AppRelease.Variables

/-!
# From defaults to a configuration

Program: `Defaults.build` puts together what is fixed about an application, the variables of the run
and the application's secrets. It checks the defaults, then that the secrets belong to this
application and environment, then every variable, then every secret.

Crux: what a template denotes (`Template.value`) depends on that template alone, so the values, the
missing variables and the missing secrets are three views of one list of results.
-/

namespace AppRelease

namespace Defaults

/-- Everything that is wrong with defaults, in the order of the checks. -/
def faults (d : Defaults) : List Fault :=
  let r := d.resources
  (if isLabel d.name then [] else [.name d.name])
    ++ (if isLabel d.nameSpace then [] else [.nameSpace d.nameSpace])
    ++ (if Text.isBlankText d.registry then [.registry] else [])
    ++ (if r.replicaCount = 0 then [.replicaCount] else [])
    ++ (if r.probePort = 0 then [.probePort] else [])
    ++ (if r.limitMemory.bytes < r.requestMemory.bytes then [.memory r.requestMemory r.limitMemory]
        else [])
    ++ (if r.limitCpu.millis < r.requestCpu.millis then [.cpu r.requestCpu r.limitCpu] else [])

/-- Accepts defaults that have no faults. -/
def validate (d : Defaults) : Except Error Unit :=
  if d.faults.isEmpty then .ok () else .error (.invalid (.defaults d.name d.faults))

end Defaults

/-- What a template needs and does not find. -/
inductive Shortfall where
  | missingVariable (key : String)
  | missingSecret (key : String)
  deriving DecidableEq, Repr

namespace Shortfall

/-- The variable that is missing. -/
def variableKey? : Shortfall → Option String
  | missingVariable key => some key
  | missingSecret _ => none

/-- The secret that is missing. -/
def secretKey? : Shortfall → Option String
  | missingVariable _ => none
  | missingSecret key => some key

end Shortfall

/-- What a template denotes for an application, given the variables and the secrets. -/
def Template.value (known : Variables) (secrets : Secrets.Bundle) (d : Defaults) :
    Template → Except Shortfall Setting
  | .literal text => .ok (.plain text)
  | .environment => .ok (.plain known.environment.name)
  | .host => .ok (.plain d.resources.host)
  | .port => .ok (.plain (Numeral.decimal d.resources.probePort.toNat))
  | .baseUrl => .ok (.plain (known.environment.baseUrl d.resources.probePort d.baseDomain))
  | .resolved key =>
    match known.get? key with
    | some text => .ok (.plain text)
    | none => .error (.missingVariable key)
  | .secret key =>
    match secrets.get? key with
    | some encoded => .ok (.secret encoded)
    | none => .error (.missingSecret key)

namespace Defaults

/-- Every variable of the application with what its template denotes, in the order of the
templates. -/
def results (d : Defaults) (known : Variables) (secrets : Secrets.Bundle) :
    List (String × Except Shortfall Setting) :=
  d.env.map fun entry => (entry.1, entry.2.value known secrets d)

/-- The values that were found, in the order of the templates. -/
def found (d : Defaults) (known : Variables) (secrets : Secrets.Bundle) :
    List (String × Setting) :=
  (d.results known secrets).filterMap fun entry => entry.2.toOption.map fun value =>
    (entry.1, value)

/-- What was not found, in the order of the templates. -/
def shortfalls (d : Defaults) (known : Variables) (secrets : Secrets.Bundle) : List Shortfall :=
  (d.results known secrets).filterMap fun entry =>
    match entry.2 with
    | .error shortfall => some shortfall
    | .ok _ => none

/-- The image of the application under a tag. -/
def imageOf (d : Defaults) (tag : String) : String :=
  Text.trimEnd '/' d.registry ++ "/" ++ d.name ++ ":" ++ tag

/-- The image under the tag that the variables give, or what is wrong with the tag. -/
def image (d : Defaults) (known : Variables) : Except Problem String :=
  match known.get? d.imageTagKey with
  | none => .error (.missing d.imageTagKey)
  | some tag =>
    if isImageTag tag then .ok (d.imageOf tag)
    else .error (.invalid d.imageTagKey tag "a container image tag")

/-- Everything wrong with the variables: the image tag first, then the templates in order. -/
def variableProblems (d : Defaults) (known : Variables) (secrets : Secrets.Bundle) : List Problem :=
  (match d.image known with
    | .ok _ => []
    | .error problem => [problem])
    ++ ((d.shortfalls known secrets).filterMap Shortfall.variableKey?).map Problem.missing

/-- The secrets that are missing, each once, in the order of the templates. -/
def missingSecrets (d : Defaults) (known : Variables) (secrets : Secrets.Bundle) : List String :=
  ((d.shortfalls known secrets).filterMap Shortfall.secretKey?).eraseDups

/-- Puts an application's configuration together. -/
def build (d : Defaults) (known : Variables) (secrets : Secrets.Bundle) :
    Except Error AppConfig := do
  d.validate
  if secrets.application ≠ d.name ∨ secrets.environment ≠ known.environment then
    throw (.invalid (.foreignSecrets secrets.application secrets.environment d.name
      known.environment))
  let problems := d.variableProblems known secrets
  if problems ≠ [] then throw (.configuration problems)
  let missing := d.missingSecrets known secrets
  if missing ≠ [] then throw (.missingSecrets d.name secrets.path missing)
  match d.image known with
  | .error _ => throw (.invalid .imageUnresolved)
  | .ok image =>
    return {
      name := d.name
      nameSpace := d.nameSpace
      image := image
      resources := d.resources
      settings := Dict.ofList (d.found known secrets) }

end Defaults

end AppRelease
