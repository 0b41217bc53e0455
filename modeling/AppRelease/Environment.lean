import AppRelease.Text.Blank
import AppRelease.Numeral

/-!
# Where an application runs

Data: a `Problem` says which variable cannot be used and why. Several are reported at once, in the
order in which the variables are asked for.

Program: the four environments and their names, the variable that names the current one, the address
an application has from outside, and the variable that holds an application's image tag.
-/

namespace AppRelease

/-- Why a variable cannot be used. -/
inductive Problem where
  | missing (key : String)
  | empty (key : String)
  | invalid (key value expected : String)
  deriving DecidableEq, Repr

namespace Problem

/-- The variable the problem is about. -/
def key : Problem → String
  | missing key => key
  | empty key => key
  | invalid key _ _ => key

/-- The wording of a problem. -/
def message : Problem → String
  | missing key => s!"{key} is not set"
  | empty key => s!"{key} is set but empty"
  | invalid key value expected => s!"{key} has invalid value '{value}' (expected {expected})"

end Problem

/-- The environments that applications are released to. -/
inductive Environment where
  | localMachine
  | development
  | staging
  | production
  deriving DecidableEq, Repr

namespace Environment

/-- Every environment. -/
def all : List Environment := [localMachine, development, staging, production]

/-- The name of an environment. -/
def name : Environment → String
  | localMachine => "local"
  | development => "development"
  | staging => "staging"
  | production => "production"

/-- The environment of a name; case and blanks count. -/
def ofName? (s : String) : Option Environment := all.find? fun e => e.name == s

/-- Whether this is the developer's own machine. -/
def isLocal (e : Environment) : Bool := e == localMachine

/-- The variable that names the environment of a run. -/
def key : String := "ENVIRONMENT"

/-- What a variable that names an environment may hold. -/
def expectation : String := "one of local | development | staging | production"

/-- The problem of a variable whose value names no environment. -/
def unknown (key value : String) : Problem := .invalid key value expectation

/-- Reads the name of an environment. -/
def parse (s : String) : Except Problem Environment :=
  match ofName? s with
  | some e => .ok e
  | none => .error (unknown key s)

/-- The address of an application from outside: the port on the developer's machine, else the
environment's host below the domain. -/
def baseUrl (e : Environment) (port : UInt16) (domain : String) : String :=
  match e with
  | localMachine => "http://localhost:" ++ Numeral.decimal port.toNat
  | other => "https://" ++ other.name ++ "." ++ Text.trimEnd '/' (Text.trimStart '.' domain)

end Environment

/-- The variable that holds the image tag of an application: its name in capitals, with an
underscore for everything that is neither an ASCII letter nor a digit. -/
def imageTagKey (application : String) : String :=
  "IMAGE_TAG_" ++ String.ofList (application.toList.map fun c =>
    if c.isAlphanum then c.toUpper else '_')

end AppRelease
