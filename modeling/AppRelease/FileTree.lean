import AppRelease.Path
import AppRelease.Text.Utf8
import AppRelease.Numeral

/-!
# A tree of files

Program: the directories and files of a file system without links, and the working directory, where
paths start that do not start at the root. A path is followed step by step; every step but the last
has to be a directory. `readText` and `isFile` look, `write` and `createDirectories` change the tree
and say what went wrong. What was done before a failure stays.

Crux: a location is the list of names from the root down, and a change sets one location, so
`node?_set` describes every other location as untouched.
-/

namespace AppRelease

/-- The names from the root down to a node. -/
abbrev Location := List String

/-- What stands at a location. -/
inductive Node where
  | directory
  | file (content : List UInt8)
  deriving DecidableEq, Repr

/-- Directories and files, and the directory that a process works in. The root is always there. -/
structure FileTree where
  nodes : List (Location × Node) := []
  working : Location := []
  deriving Repr

namespace FileTree

/-- Why a path cannot be used. -/
inductive Fault where
  | notFound
  | alreadyThere
  | notDirectory
  | isDirectory
  | nameTooLong
  | nulInName
  | notText
  deriving DecidableEq, Repr

/-- The wording of a fault. -/
def Fault.message : Fault → String
  | .notFound => "No such file or directory (os error 2)"
  | .alreadyThere => "File exists (os error 17)"
  | .notDirectory => "Not a directory (os error 20)"
  | .isDirectory => "Is a directory (os error 21)"
  | .nameTooLong => "File name too long (os error 36)"
  | .nulInName => "file name contained an unexpected NUL byte"
  | .notText => "stream did not contain valid UTF-8"

/-- Nothing but a working directory and the directories on the way to it. -/
def startingIn (working : Location) : FileTree where
  nodes := (List.range working.length).map fun n => (working.take (n + 1), .directory)
  working := working

/-- What stands at a location. -/
def node? (t : FileTree) (location : Location) : Option Node :=
  if location = [] then some .directory else t.nodes.lookup location

/-- Puts a node at a location. -/
def set (t : FileTree) (location : Location) (node : Node) : FileTree :=
  { t with nodes := (location, node) :: t.nodes.filter fun entry => entry.1 != location }

/-- **A change sets one location and leaves the others.** -/
@[simp] theorem node?_set (t : FileTree) (location other : Location) (node : Node)
    (below : location ≠ []) :
    (t.set location node).node? other = if other = location then some node else t.node? other := by
  unfold node? set
  by_cases same : other = location
  · subst same
    simp [below]
  · simp only [same, ↓reduceIte]
    by_cases top : other = []
    · simp [top]
    · have ne : (other == location) = false := by simpa using same
      simp only [top, ↓reduceIte, List.lookup_cons, ne]
      induction t.nodes with
      | nil => simp
      | cons entry rest ih =>
        obtain ⟨l, n⟩ := entry
        by_cases kept : l = location
        · subst kept
          simp [List.lookup_cons, ne, ih]
        · by_cases here : other = l
          · subst here
            simp [kept]
          · have ne' : (other == l) = false := by simpa using here
            simp [List.lookup_cons, kept, ne', ih]

/-! ## Following a path -/

/-- Names are limited to 255 bytes. -/
def nameFits (name : String) : Bool := name.utf8ByteSize ≤ 255

/-- Follows steps from a directory. A step up from the root stays there. -/
def follow (t : FileTree) (here : Location) : List Path.Step → Except Fault (Location × Node)
  | [] => .ok (here, .directory)
  | .up :: rest => t.follow here.dropLast rest
  | .into name :: rest =>
    if !nameFits name then .error .nameTooLong
    else match t.node? (here ++ [name]) with
      | none => .error .notFound
      | some .directory => t.follow (here ++ [name]) rest
      | some (.file content) =>
        if rest.isEmpty then .ok (here ++ [name], .file content) else .error .notDirectory

/-- Paths are limited to 4095 bytes. -/
def pathFits (path : String) : Bool := path.utf8ByteSize ≤ 4095

/-- The steps of a path that can be followed. -/
def stepsOf (path : String) : Except Fault (List Path.Step) :=
  if '\x00' ∈ path.toList then .error .nulInName
  else if !pathFits path then .error .nameTooLong
  else if path = "" then .error .notFound
  else .ok (Path.steps path)

/-- The directory that a path starts from. -/
def start (t : FileTree) (path : String) : Location :=
  if Path.isAbsolute path then [] else t.working

/-- What a path leads to. -/
def find (t : FileTree) (path : String) : Except Fault Node := do
  let steps ← stepsOf path
  match ← t.follow (t.start path) steps with
  | (_, .file content) =>
    if Path.endsInDirectory path then throw .notDirectory else return .file content
  | (_, .directory) => return .directory

/-- Whether a path leads to a file. -/
def isFile (t : FileTree) (path : String) : Bool :=
  match t.find path with
  | .ok (.file _) => true
  | _ => false

/-- The text of the file that a path leads to. -/
def readText (t : FileTree) (path : String) : Except Fault String :=
  match t.find path with
  | .error fault => .error fault
  | .ok .directory => .error .isDirectory
  | .ok (.file content) =>
    match Text.textOf? content with
    | some text => .ok text
    | none => .error .notText

/-- The text of the file that a path of any bytes leads to. A name that is no text is never there,
and what stands before it decides why the path leads nowhere. -/
def readTextAt (t : FileTree) (path : List UInt8) : Except Fault String :=
  match Text.textOf? path with
  | some path => t.readText path
  | none =>
    let names := path.splitOn 47
    let before := names.takeWhile fun name => (Text.textOf? name).isSome
    let unreadable := names.find? fun name => (Text.textOf? name).isNone
    if 4095 < path.length then .error .nameTooLong
    else match if before.flatten.isEmpty then .ok .directory
        else t.find (Text.lossy ([47].intercalate before)) with
      | .error fault => .error fault
      | .ok (.file _) => .error .notDirectory
      | .ok .directory =>
        if 255 < (unreadable.getD []).length then .error .nameTooLong else .error .notFound

/-! ## Changing the tree -/

/-- The directory that steps from another lead to. -/
def directoryAt (t : FileTree) (base : Location) (steps : List Path.Step) :
    Except Fault Location := do
  match ← t.follow base steps with
  | (location, .directory) => return location
  | (_, .file _) => throw .notDirectory

/-- Whether steps lead to a directory. -/
def leadsToDirectory (t : FileTree) (base : Location) (steps : List Path.Step) : Bool :=
  match t.directoryAt base steps with
  | .ok _ => true
  | .error _ => false

/-- Makes one directory below directories that are there. -/
def makeDirectory (t : FileTree) (base : Location) (parents : List Path.Step) (last : Path.Step) :
    Except Fault FileTree := do
  let here ← t.directoryAt base parents
  match last with
  | .up => throw .alreadyThere
  | .into name =>
    if !nameFits name then throw .nameTooLong
    else match t.node? (here ++ [name]) with
      | some _ => throw .alreadyThere
      | none => return t.set (here ++ [name]) .directory

/-- Makes one directory below directories that are there. One that is already there will do. -/
def ensureDirectory (t : FileTree) (base : Location) (parents : List Path.Step) (last : Path.Step) :
    Except Fault Unit × FileTree :=
  match t.makeDirectory base parents last with
  | .ok made => (.ok (), made)
  | .error fault =>
    if t.leadsToDirectory base (parents ++ [last]) then (.ok (), t) else (.error fault, t)

/-- Makes the directory at the end of steps, given last step first. The directories on the way to it
are made when one of them turns out to be missing. -/
def makeAll (t : FileTree) (base : Location) : List Path.Step → Except Fault Unit × FileTree
  | [] => (.ok (), t)
  | last :: before =>
    match t.makeDirectory base before.reverse last with
    | .error .notFound =>
      match t.makeAll base before with
      | (.error fault, t) => (.error fault, t)
      | (.ok (), t) => t.ensureDirectory base before.reverse last
    | _ => t.ensureDirectory base before.reverse last

/-- Makes a directory and the directories on the way to it. Of a path that ends in a single dot only
the directories before the one it names are made. -/
def createDirectories (t : FileTree) (path : String) : Except Fault Unit × FileTree :=
  match stepsOf path with
  | .error fault => (.error fault, t)
  | .ok steps =>
    if Path.endsInDot path then
      match t.directoryAt (t.start path) steps with
      | .ok _ => (.ok (), t)
      | .error .notFound =>
        match t.makeAll (t.start path) steps.dropLast.reverse with
        | (.error fault, t) => (.error fault, t)
        | (.ok (), t) => ((t.directoryAt (t.start path) steps).map fun _ => (), t)
      | .error fault => (.error fault, t)
    else t.makeAll (t.start path) steps.reverse

/-- Where a file of this path would stand: a name below a directory that is there. -/
def place (t : FileTree) (path : String) : Except Fault Location := do
  let steps ← stepsOf path
  match steps.getLast? with
  | none => throw .isDirectory
  | some last =>
    let here ← t.directoryAt (t.start path) steps.dropLast
    match last with
    | .up => throw .isDirectory
    | .into name =>
      if !nameFits name then throw .nameTooLong
      else if Path.endsInDirectory path then throw .isDirectory
      else match t.node? (here ++ [name]) with
        | some .directory => throw .isDirectory
        | _ => return here ++ [name]

/-- Writes a file; what it held before goes. -/
def write (t : FileTree) (path : String) (content : List UInt8) : Except Fault Unit × FileTree :=
  match t.place path with
  | .error fault => (.error fault, t)
  | .ok location => (.ok (), t.set location (.file content))

/-- Every file with its content. -/
def files (t : FileTree) : List (Location × List UInt8) :=
  t.nodes.filterMap fun entry =>
    match entry.2 with
    | .file content => some (entry.1, content)
    | .directory => none

/-- The files that are new or have another content than before. -/
def changedFiles (before after : FileTree) : List (Location × List UInt8) :=
  after.files.filter fun file => before.node? file.1 != some (.file file.2)

/-- A location as a path from the root, without the stroke that stands for the root. -/
def locationText (location : Location) : String := Text.joinWith "/" location

end FileTree

end AppRelease
