import AppRelease.Base64
import AppRelease.Error
import AppRelease.Secrets.Content

/-!
# The secrets of an application

Program: a `Store` says where secrets files are and in which `Format`, `Store.load` reads the file
of an application in an environment into a `Bundle`, which keeps every value in base 64.
-/

namespace AppRelease.Secrets

/-- How a secrets file is written: lines `KEY=value`, or one JSON object. -/
inductive Format where
  | dotenv
  | json
  deriving DecidableEq, Repr

namespace Format

/-- The name of a format. -/
def name : Format → String
  | dotenv => "dotenv"
  | json => "json"

/-- The ending of a file of this format. -/
def extension : Format → String
  | dotenv => "env"
  | json => "json"

/-- Reads the name of a format. -/
def parse (s : String) : Except Error Format :=
  if s = "dotenv" ∨ s = "env" then .ok dotenv
  else if s = "json" then .ok json
  else .error (.invalid (.secretsFormat s))

end Format

/-- The secrets of one application in one environment, in base 64 by key. -/
structure Bundle where
  application : String
  environment : Environment
  path : String
  entries : Dict String
  deriving DecidableEq

namespace Bundle

/-- Encodes plain values; the last value of a key counts. -/
def ofPlain (application : String) (environment : Environment) (path : String)
    (plain : List (String × List UInt8)) : Bundle :=
  ⟨application, environment, path, Dict.ofList (plain.map fun e => (e.1, Base64.encode e.2))⟩

/-- The value of a key, in base 64. -/
def get? (b : Bundle) (key : String) : Option String := b.entries.get? key

/-- The keys, ascending. -/
def keys (b : Bundle) : List String := b.entries.keys

end Bundle

/-- The bytes of a value in base 64. -/
def decode (encoded : String) : Except Error (List UInt8) :=
  match Base64.decode encoded with
  | .ok bytes => .ok bytes
  | .error fault => .error (.invalid (.base64 fault))

/-- Where secrets files are and how they are written. -/
structure Store where
  root : String
  format : Format := .dotenv
  deriving DecidableEq, Repr

namespace Store

/-- The file of an application in an environment. -/
def pathFor (s : Store) (application : String) (environment : Environment) : String :=
  Path.join (Path.join s.root environment.name) (application ++ "." ++ s.format.extension)

/-- The plain secrets in the content of a file. -/
def readPlain (s : Store) (path content : String) : Except Error (List (String × String)) :=
  match s.format with
  | .dotenv =>
    match readDotenv content with
    | .ok entries => .ok entries
    | .error (line, fault) => .error (.secretsFile path (some line) none fault)
  | .json =>
    match Json.readObject content with
    | .error error =>
      .error (.secretsFile path (some error.position.line) (some error.position.column)
        (.json error))
    | .ok members =>
      match scalars members with
      | .ok entries => .ok entries
      | .error fault => .error (.secretsFile path none none fault)

/-- Reads the secrets of an application. -/
def load (s : Store) (files : FileTree) (application : String) (environment : Environment) :
    Except Error Bundle :=
  let path := s.pathFor application environment
  if files.isFile path then
    match files.readText path with
    | .error fault => .error (.io fault)
    | .ok content =>
      match s.readPlain path content with
      | .error error => .error error
      | .ok entries =>
        .ok (.ofPlain application environment path (entries.map fun e => (e.1, Text.bytesOf e.2)))
  else .error (.secretsFileNotFound application environment.name path)

end Store

end AppRelease.Secrets
