import AppRelease.Application.Template
import AppRelease.Error
import AppRelease.Project

/-!
# The applications of the project

Data: what each application starts from. The four share their resources and differ in their ports
and in the variables they want.
-/

namespace AppRelease.Catalog

/-- The names of the applications. -/
def names : List String := ["graphql-mongo", "graphql-postgres", "grpc-mongo", "react-web"]

/-- The namespace of every application. -/
def nameSpace : String := "applications"

/-- The resources of an application that listens on a port. -/
def resources (port : UInt16) : Resources where
  requestMemory := .mebibytes 70
  requestCpu := ⟨100⟩
  limitMemory := .mebibytes 200
  limitCpu := ⟨100⟩
  replicaCount := 2
  probePort := port
  host := "0.0.0.0"

/-- A variable that holds the secret of the same name. -/
def sameSecret (key : String) : String × Template := (key, .secret key)

/-- What an application knows about itself. -/
def ownEnv : List (String × Template) := [
  ("APP_ENVIRONMENT", .environment),
  ("APP_HOST", .host),
  ("APP_PORT", .port),
  ("APP_EXTERNAL_BASE_URL", .baseUrl)]

/-- Access for people to sign in. -/
def oauthEnv : List (String × Template) := [
  ("OAUTH_GITHUB_CLIENT_ID", .secret "GITHUB_CLIENT_ID"),
  ("OAUTH_GITHUB_CLIENT_SECRET", .secret "GITHUB_CLIENT_SECRET"),
  ("OAUTH_GOOGLE_CLIENT_ID", .secret "GOOGLE_CLIENT_ID"),
  ("OAUTH_GOOGLE_CLIENT_SECRET", .secret "GOOGLE_CLIENT_SECRET")]

/-- The document database of an application. -/
def mongoEnv (application : String) : List (String × Template) :=
  let service := application ++ "-database"
  [("MONGODB_NAME", .literal service),
    sameSecret "MONGODB_USERNAME",
    sameSecret "MONGODB_PASSWORD",
    sameSecret "MONGODB_ROOT_USERNAME",
    sameSecret "MONGODB_ROOT_PASSWORD",
    ("MONGODB_HOST", .literal (service ++ "." ++ nameSpace)),
    ("MONGODB_SERVICE_NAME", .literal service),
    ("MONGODB_STORAGE_CLASS", .literal "linode-block-storage-retain"),
    ("MONGODB_PORT", .literal "27017")]

/-- The relational database of an application. -/
def postgresEnv (application : String) : List (String × Template) :=
  let service := application ++ "-database"
  [("POSTGRES_DATABASE_NAME", .literal service),
    sameSecret "POSTGRES_USERNAME",
    sameSecret "POSTGRES_PASSWORD",
    ("POSTGRES_HOST", .literal (service ++ "." ++ nameSpace)),
    ("POSTGRES_SERVICE_NAME", .literal service),
    ("POSTGRES_PORT", .literal "5432")]

/-- The cache of an application. Its service goes by the name with `-master` after it. -/
def redisEnv (application : String) : List (String × Template) :=
  let service := application ++ "-redis"
  [sameSecret "REDIS_USERNAME",
    sameSecret "REDIS_PASSWORD",
    ("REDIS_HOST", .literal (service ++ "-master." ++ nameSpace)),
    ("REDIS_SERVICE_NAME", .literal service),
    ("REDIS_SERVICE_NAME_WITH_SUFFIX", .literal (service ++ "-master")),
    ("REDIS_PORT", .literal "6379")]

/-- The port and the variables of an application. -/
def listed? (name : String) : Option (UInt16 × List (String × Template)) :=
  if name = "graphql-mongo" then some (8000, ownEnv ++ oauthEnv ++ mongoEnv name ++ redisEnv name)
  else if name = "graphql-postgres" then
    some (8000, ownEnv ++ oauthEnv ++ postgresEnv name ++ redisEnv name)
  else if name = "grpc-mongo" then some (50051, ownEnv ++ mongoEnv name)
  else if name = "react-web" then some (3000, ownEnv)
  else none

/-- What an application starts from in a project. -/
def defaultsFor (name : String) (project : Project) : Except Error Defaults :=
  match listed? name with
  | none => .error (.unknownApplication name names)
  | some (port, env) => .ok {
      name := name
      nameSpace := nameSpace
      registry := project.registry
      baseDomain := project.baseDomain
      resources := resources port
      env := env
      requiredEnv := [] }

/-- What every application starts from. -/
def all (project : Project) : Except Error (List Defaults) :=
  names.mapM fun name => defaultsFor name project

end AppRelease.Catalog
