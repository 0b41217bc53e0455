import AppRelease.Error
import AppRelease.FileTree
import AppRelease.Manifest.Resource

/-!
# Where objects go

Data: a `Sink` takes the objects of an application and either reports what it did or fails. Whatever
it changes is the state it is given and gives back.

Program: there are two sinks.

1. **Files.** A `Renderer` writes every object of an application to a file of its own, in a
   directory for the environment, the namespace and the application. The files are numbered in the
   order of the objects.
2. **A cluster.** `applySink` hands the objects of an application to a client one by one, in order,
   and stops at the first that is not accepted.
-/

namespace AppRelease

/-- What was done with the objects of an application. -/
inductive Report where
  | rendered (paths : List String)
  | applied (names : List String)
  deriving DecidableEq, Repr

namespace Report

/-- One item for every object. -/
def items : Report → List String
  | rendered paths => paths
  | applied names => names

/-- How many objects there were. -/
def size (r : Report) : Nat := r.items.length

end Report

/-- Takes the objects of an application; `σ` is what it may change. -/
abbrev Sink (σ : Type) := ManifestSet → σ → Except Error Report × σ

/-! ## Files -/

/-- Writes objects below a directory. -/
structure Renderer where
  outputDirectory : String
  deriving DecidableEq, Repr

/-- A number with two digits at least. -/
def twoDigits (n : Nat) : String :=
  if n < 10 then "0" ++ Numeral.decimal n else Numeral.decimal n

/-- The name of the file of an object. -/
def Manifest.fileName (index : Nat) (m : Manifest) : String :=
  twoDigits index ++ "-" ++ Text.smallLetters m.kind ++ "-" ++ m.name ++ ".yaml"

namespace Renderer

/-- The directory of an application. -/
def directory (r : Renderer) (s : ManifestSet) : String :=
  Path.join (Path.join (Path.join r.outputDirectory s.environment.name) s.nameSpace) s.application

/-- The file of an object in a directory. -/
def filePath (directory : String) (index : Nat) (m : Manifest) : String :=
  Path.join directory (m.fileName index)

/-- Writes objects from a number on. What was written before a failure stays. -/
def writeFrom (directory : String) (index : Nat) :
    List Manifest → FileTree → Except Error (List String) × FileTree
  | [], files => (.ok [], files)
  | m :: rest, files =>
    match files.write (filePath directory index m) (Text.bytesOf m.toYaml) with
    | (.error fault, files) => (.error (.io fault), files)
    | (.ok (), files) =>
      match writeFrom directory (index + 1) rest files with
      | (.error error, files) => (.error error, files)
      | (.ok paths, files) => (.ok (filePath directory index m :: paths), files)

/-- Writes the objects of an application: the paths of their files, in order. -/
def render (r : Renderer) (s : ManifestSet) (files : FileTree) :
    Except Error (List String) × FileTree :=
  match files.createDirectories (r.directory s) with
  | (.error fault, files) => (.error (.io fault), files)
  | (.ok (), files) => writeFrom (r.directory s) 0 s.manifests files

/-- Rendering as a sink that changes files. -/
def sink (r : Renderer) : Sink FileTree := fun s files =>
  match r.render s files with
  | (.error error, files) => (.error error, files)
  | (.ok paths, files) => (.ok (.rendered paths), files)

end Renderer

/-! ## A cluster -/

/-- Hands an object to a cluster; `σ` is what that may change. -/
abbrev Client (σ : Type) := Manifest → σ → Except Error Unit × σ

/-- How an object that was accepted is reported. -/
def Manifest.reference (m : Manifest) : String := m.kind ++ "/" ++ m.name

/-- Hands objects over in order, up to the first that is not accepted. -/
def applyAll {σ : Type} (client : Client σ) : List Manifest → σ → Except Error (List String) × σ
  | [], state => (.ok [], state)
  | m :: rest, state =>
    match client m state with
    | (.error error, state) => (.error error, state)
    | (.ok (), state) =>
      match applyAll client rest state with
      | (.error error, state) => (.error error, state)
      | (.ok names, state) => (.ok (m.reference :: names), state)

/-- Applying as a sink that changes what the client changes. -/
def applySink {σ : Type} (client : Client σ) : Sink σ := fun s state =>
  match applyAll client s.manifests state with
  | (.error error, state) => (.error error, state)
  | (.ok names, state) => (.ok (.applied names), state)

end AppRelease
