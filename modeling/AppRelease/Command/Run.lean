import AppRelease.Cluster.Client
import AppRelease.Command.Arguments
import AppRelease.Display
import AppRelease.Document
import AppRelease.Release
import AppRelease.Sink

/-!
# Carrying out a command

Program: `Invocation.run` loads the settings of the project and does the task. What a command
changes are files and the cluster; what it prints is the last thing it does, so a failure prints
nothing.
-/

namespace AppRelease.Command

/-- What is at the bottom of a failure. -/
inductive Cause where
  | nothingSelected
  | error (e : Error)
  deriving DecidableEq, Repr

/-- Why a command failed: what was being done, and the cause. -/
structure Failure where
  during : Option String := none
  cause : Cause
  deriving DecidableEq, Repr

/-- The lines that explain a cause. An error of the file system is followed by the system's own
words. -/
def Cause.chain : Cause → List String
  | .nothingSelected =>
    ["No application selected. Use --app <NAME> or --all (known: "
      ++ Text.joinWith ", " Catalog.names ++ ")"]
  | .error (.io fault) => [(Error.io fault).message, fault.message]
  | .error (.toml _) => ["TOML parse error"]
  | .error e => [e.message]

/-- The lines that explain a failure, from what was being done to the cause. -/
def Failure.chain (f : Failure) : List String := f.during.toList ++ f.cause.chain

/-- Lines with their numbers, from a number on. -/
def numbered : Nat → List String → List String
  | _, [] => []
  | n, l :: rest => (Numeral.decimal n ++ ": " ++ l) :: numbered (n + 1) rest

/-- The report of a failure: the first line, and below it what caused it. -/
def Failure.report (f : Failure) : String :=
  match f.chain with
  | [] => "Error"
  | [first] => "Error: " ++ first
  | [first, cause] => "Error: " ++ first ++ "\n\nCaused by:\n    " ++ cause
  | first :: causes =>
    "Error: " ++ first ++ "\n\nCaused by:\n    " ++ Text.joinWith "\n    " (numbered 0 causes)

/-- A result of the library as one of a command. -/
def attempt {α : Type} (during : Option String) (result : Except Error α) : Except Failure α :=
  match result with
  | .ok a => .ok a
  | .error e => .error ⟨during, .error e⟩

/-- The names of the applications that are selected. -/
def Selection.names (s : Selection) : Except Failure (List String) :=
  if s.all then .ok Catalog.names
  else if s.apps.isEmpty then .error { cause := .nothingSelected }
  else .ok s.apps

/-- The settings of the project, from a file if there is one. -/
def loadProject (files : FileTree) (path : Option String) : Except Failure Project :=
  match path with
  | none => .ok {}
  | some path =>
    attempt (some ("Failed to load project configuration from " ++ path)) (Project.load files path)

/-- What a command leaves: what it prints or why it failed, the files, and what it did to a
cluster. -/
structure Result (σ : Type) where
  printed : Except Failure String
  files : FileTree
  cluster : σ

/-- A release with the overrides that properties state. -/
def releaseOf (project : Project) (source : Source) (properties : List String) :
    Except Failure Release := do
  let overrides ← attempt none (Overrides.parse properties)
  return .ofProject project source overrides

/-- The line that is printed. -/
def line (text : String) : String := text ++ "\n"

/-- Renders applications. -/
def renderApplications (project : Project) (source : Source) (selection : Selection)
    (properties : List String) (output : Option String) (files : FileTree) :
    Except Failure String × FileTree :=
  let planned : Except Failure (List String × Release) := do
    let names ← selection.names
    let release ← releaseOf project source properties
    return (names, release)
  match planned with
  | .error failure => (.error failure, files)
  | .ok (names, release) =>
    let renderer : Renderer := ⟨output.getD project.render.outputDirectory⟩
    let (outcome, after) := release.run files names renderer.sink files
    ((attempt (some "Rendering failed") outcome).map fun all => line (Display.released all), after)

/-- Applies applications. The cluster is looked for when everything is prepared. -/
def applyApplications {σ : Type} (project : Project) (source : Source)
    (transport : Cluster.Transport σ) (selection : Selection) (properties : List String)
    (kubeconfig context : Option String) (files : FileTree) (state : σ) :
    Except Failure String × σ :=
  let planned : Except Failure (List ManifestSet × Cluster.Connection) := do
    let names ← selection.names
    let release ← releaseOf project source properties
    let prepared ← attempt none (release.prepareAll files names)
    let connection ← attempt (some "Failed to connect to Kubernetes")
      (Cluster.connect files source kubeconfig context)
    return (prepared, connection)
  match planned with
  | .error failure => (.error failure, state)
  | .ok (prepared, connection) =>
    let (outcome, after) := emitAll (applySink (Cluster.client connection transport)) prepared state
    ((attempt (some "Apply failed") outcome).map fun all => line (Display.released all), after)

/-- The text of a configuration. -/
def Format.print (f : Format) (e : Environment) (c : AppConfig) : String :=
  match f with
  | .table => Display.configuration c e
  | .yaml => c.toDocument.toYaml
  | .json => c.toDocument.toJson

/-- Shows the configuration of an application. -/
def showApplication (project : Project) (source : Source) (application : String) (format : Format)
    (properties : List String) (files : FileTree) : Except Failure String := do
  let release ← releaseOf project source properties
  let (e, c) ← attempt none (release.assemble files application)
  return line (format.print e c)

/-- Lists the applications of the project. -/
def listApplications (project : Project) : Except Failure String := do
  let all ← attempt none (Catalog.all project)
  return line (Display.applications all)

/-- Does a task with the settings of a project. -/
def Task.run {σ : Type} (task : Task) (project : Project) (source : Source)
    (transport : Cluster.Transport σ) (files : FileTree) (state : σ) : Result σ :=
  match task with
  | .render selection properties output =>
    let (printed, after) := renderApplications project source selection properties output files
    ⟨printed, after, state⟩
  | .apply selection properties kubeconfig context =>
    let (printed, after) :=
      applyApplications project source transport selection properties kubeconfig context files state
    ⟨printed, files, after⟩
  | .show application format properties =>
    ⟨showApplication project source application format properties files, files, state⟩
  | .list => ⟨listApplications project, files, state⟩

/-- Carries out a command. -/
def Invocation.run {σ : Type} (i : Invocation) (source : Source) (transport : Cluster.Transport σ)
    (files : FileTree) (state : σ) : Result σ :=
  match loadProject files i.configFile with
  | .error failure => ⟨.error failure, files, state⟩
  | .ok project => i.task.run project source transport files state

end AppRelease.Command
