import AppRelease.Application.Template
import AppRelease.Base64
import AppRelease.Cluster.Fault
import AppRelease.Environment
import AppRelease.FileTree
import AppRelease.Quantity
import AppRelease.Secrets.Content
import AppRelease.Found

/-!
# Errors

Every way in which the library fails, by cause. `Error.message` words them, `Error.offendingKeys`
names the keys an error is about.
-/

namespace AppRelease

/-- Why the value of an override was not taken. -/
inductive Override.Reason where
  | number (cause : Numeral.Fault)
  | quantity (cause : Quantity.Fault)
  | unknownProperty
  deriving DecidableEq, Repr

/-- The wording of a reason. -/
def Override.Reason.message : Override.Reason → String
  | .number cause => cause.message
  | .quantity cause => "Invalid quantity: " ++ cause.message
  | .unknownProperty => "unknown property"

/-- An override that was not taken. -/
structure Override.Rejection where
  key : String
  value : String
  reason : Override.Reason
  deriving DecidableEq, Repr

/-- The wording of a rejection. -/
def Override.Rejection.message (r : Override.Rejection) : String :=
  r.key ++ "=" ++ r.value ++ ": " ++ r.reason.message

/-- Something that was given is not allowed. -/
inductive Invalid where
  | secretsFormat (text : String)
  | base64 (cause : Base64.Fault)
  | overrideText (text : String)
  | overrideKey (text : String)
  | overrides (rejections : List Override.Rejection)
  | defaults (name : String) (faults : List Defaults.Fault)
  | foreignSecrets (owner : String) (home : Environment) (user : String) (place : Environment)
  | imageUnresolved
  | repositoryUnset
  | nameRequired (kind : String)
  | stated (reason : String)
  deriving DecidableEq, Repr

/-- The wording of what is not allowed. -/
def Invalid.message : Invalid → String
  | .secretsFormat text => s!"Invalid secrets format: {text} (expected dotenv or json)"
  | .base64 cause => "Secret value is not valid base64: " ++ cause.message
  | .overrideText text => s!"Invalid config format: '{text}'. Expected 'key=value'"
  | .overrideKey text => s!"Empty key in config: '{text}'"
  | .overrides rejections =>
    "Invalid dynamic properties:" ++ Text.bullets (rejections.map (·.message))
  | .defaults name faults => name ++ ": " ++ Text.joinWith "; " (faults.map (·.message))
  | .foreignSecrets owner home user place =>
    s!"Secrets bundle for '{owner}' in " ++ home.name ++ s!" cannot be used for '{user}' in "
      ++ place.name
  | .imageUnresolved => "image could not be resolved"
  | .repositoryUnset => "argocd.repo_url must be set when Argo CD applications are enabled"
  | .nameRequired kind => s!"{kind} name is required"
  | .stated reason => reason

/-- Why a JSON text gives no quantity. -/
inductive QuantityText where
  | json (error : Json.Error)
  | quantity (cause : Quantity.Fault)
  deriving DecidableEq, Repr

/-- The wording of that. A quantity has no place in the text. -/
def QuantityText.message : QuantityText → String
  | .json error => error.message
  | .quantity cause => "Invalid quantity: " ++ cause.message

/-- Every way to fail. -/
inductive Error where
  | configuration (problems : List Problem)
  | secretsFileNotFound (application environment path : String)
  | secretsFile (path : String) (line column : Option Nat) (fault : Secrets.Fault)
  | missingSecrets (application path : String) (keys : List String)
  | invalidQuantity (fault : Quantity.Fault)
  | invalid (what : Invalid)
  | unknownApplication (name : String) (known : List String)
  | cluster (fault : Cluster.Fault)
  | io (fault : FileTree.Fault)
  | toml (fault : Toml.Fault)
  | json (fault : QuantityText)
  deriving DecidableEq, Repr

namespace Error

/-- A place in a secrets file. -/
def place : Option Nat → Option Nat → String
  | some line, some column =>
    " at line " ++ Numeral.decimal line ++ ", column " ++ Numeral.decimal column
  | some line, none => " at line " ++ Numeral.decimal line
  | none, _ => ""

/-- The wording of an error. -/
def message : Error → String
  | configuration problems =>
    "Configuration error: " ++ Numeral.decimal problems.length ++ " problem(s) found"
      ++ Text.bullets (problems.map (·.message))
  | secretsFileNotFound application environment path =>
    s!"Secrets file not found for '{application}' in {environment}: {path}"
  | secretsFile path line column fault =>
    s!"Secrets parse error in {path}" ++ place line column ++ ": " ++ fault.message
  | missingSecrets application path keys =>
    s!"Missing secrets for '{application}' in {path}:" ++ Text.bullets keys
  | invalidQuantity fault => "Invalid quantity: " ++ fault.message
  | invalid what => "Validation error: " ++ what.message
  | unknownApplication name known =>
    s!"Unknown application '{name}' (known: " ++ Text.joinWith ", " known ++ ")"
  | cluster fault => "Kubernetes API error: " ++ fault.message
  | io fault => "IO error: " ++ fault.message
  | toml fault => "TOML parse error" ++ (fault.message?.map (": " ++ ·)).getD ""
  | json fault => "JSON error: " ++ fault.message

/-- The keys an error is about: variables or secrets. -/
def offendingKeys : Error → List String
  | configuration problems => problems.map (·.key)
  | missingSecrets _ _ keys => keys
  | _ => []

end Error

end AppRelease
