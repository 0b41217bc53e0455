import AppRelease.Command.Run

/-!
# The program

Reads the files that a command may look at, carries the command out, writes the files that it
changed and prints what it prints. No cluster is reached from here.
-/

namespace AppRelease.Main

/-- The variables of the process that a command may read. -/
def variableNames : List String :=
  [Environment.key, Command.configVariable, "KUBECONFIG", "HOME", "KUBERNETES_SERVICE_HOST",
    "KUBERNETES_SERVICE_PORT", "HTTP_PROXY", "http_proxy", "HTTPS_PROXY", "https_proxy"]
    ++ Catalog.names.map imageTagKey

/-- Reads the variables of the process. -/
def readVariables : IO Source := do
  let mut found : List (String × Reading) := []
  for name in variableNames do
    match ← IO.getEnv name with
    | some value => found := (name, .text value) :: found
    | none => pure ()
  return .ofDict (Dict.ofList found)

/-- The names on the way to the directory that the process works in. -/
def workingDirectory : IO Location := do
  let here ← IO.currentDir
  return (Path.steps here.toString).filterMap fun
    | .into name => some name
    | .up => none

/-- Adds a file of the disk to a tree, if it is there. -/
def addFile (tree : FileTree) (path : String) : IO FileTree := do
  try
    let content ← IO.FS.readBinFile path
    return ((tree.createDirectories (Path.parent path)).2.write path content.toList).2
  catch _ => return tree

/-- The secrets files that a project may use. -/
def secretsPaths (project : Project) : List String :=
  Catalog.names.flatMap fun name =>
    Environment.all.map fun e => project.store.pathFor name e

/-- The files with the addresses of clusters that a task may use. -/
def clusterPaths (task : Command.Task) (source : Source) : List String :=
  match task with
  | .apply _ _ (some path) _ => [path]
  | .apply _ _ none _ => (Cluster.defaultPaths source).filterMap Text.textOf?
  | _ => []

/-- A cluster that is never reached. -/
def unreachable : Cluster.Transport Unit := fun _ state => (none, state)

/-- Writes a file with its directories. -/
def writeFile (location : Location) (content : List UInt8) : IO Unit := do
  IO.FS.createDirAll ("/" ++ FileTree.locationText location.dropLast)
  IO.FS.writeBinFile ("/" ++ FileTree.locationText location) ⟨content.toArray⟩

/-- Carries out a command. -/
def carryOut (i : Command.Invocation) (source : Source) : IO UInt32 := do
  let start := FileTree.startingIn (← workingDirectory)
  let settings ← i.configFile.toList.foldlM addFile start
  let project := ((Command.loadProject settings i.configFile).toOption).getD {}
  let files ← (secretsPaths project ++ clusterPaths i.task source).foldlM addFile settings
  let result := i.run source unreachable files ()
  for (location, content) in FileTree.changedFiles files result.files do
    writeFile location content
  match result.printed with
  | .ok text => IO.print text; return 0
  | .error failure =>
    IO.eprintln failure.report
    return 1

end AppRelease.Main

/-- Runs the program on a command line. -/
def main (arguments : List String) : IO UInt32 := do
  let source ← AppRelease.Main.readVariables
  match AppRelease.Command.Invocation.parse arguments
    (source AppRelease.Command.configVariable) with
  | .error reason =>
    IO.eprintln reason.name
    return 2
  | .ok invocation => AppRelease.Main.carryOut invocation source
