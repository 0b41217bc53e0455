import AppRelease.Assembly
import AppRelease.Catalog
import AppRelease.Manifest.Build
import AppRelease.Overrides
import AppRelease.Sink

/-!
# Releasing applications

Program: a `Release` has the settings of the project, an assembly that configurations come from, and
overrides. `Release.prepare` makes the objects of one application, `Release.run` prepares all
applications and only then hands them to a sink, one after the other.

Crux: nothing is handed over before everything is prepared, so a failure to prepare leaves the sink
as it was.
-/

namespace AppRelease

/-- What applications are released with. -/
structure Release where
  project : Project
  assembly : Assembly
  overrides : Overrides

/-- What became of one application. -/
structure Released where
  application : String
  report : Report
  deriving DecidableEq, Repr

namespace Release

/-- A release that finds its secrets where the project has them. -/
def ofProject (project : Project) (source : Source) (overrides : Overrides) : Release :=
  ⟨project, ⟨source, project.store⟩, overrides⟩

/-- What an application starts from, after the overrides. -/
def defaultsFor (r : Release) (name : String) : Except Error Defaults := do
  let d ← Catalog.defaultsFor name r.project
  r.overrides.applyTo d

/-- The environment of the run and the configuration of an application. -/
def assemble (r : Release) (files : FileTree) (name : String) :
    Except Error (Environment × AppConfig) := do
  let d ← r.defaultsFor name
  r.assembly.assemble files d

/-- The objects of an application. -/
def prepare (r : Release) (files : FileTree) (name : String) : Except Error ManifestSet := do
  let (environment, config) ← r.assemble files name
  config.manifests environment r.project

/-- The objects of several applications, or the first failure. -/
def prepareAll (r : Release) (files : FileTree) : List String → Except Error (List ManifestSet)
  | [] => .ok []
  | name :: rest => do
    let first ← r.prepare files name
    let others ← r.prepareAll files rest
    return first :: others

end Release

/-- Hands the objects of applications to a sink, up to the first failure. -/
def emitAll {σ : Type} (sink : Sink σ) : List ManifestSet → σ → Except Error (List Released) × σ
  | [], state => (.ok [], state)
  | s :: rest, state =>
    match sink s state with
    | (.error error, state) => (.error error, state)
    | (.ok report, state) =>
      match emitAll sink rest state with
      | (.error error, state) => (.error error, state)
      | (.ok others, state) => (.ok (⟨s.application, report⟩ :: others), state)

namespace Release

/-- Releases applications: prepares them all, then hands them over. -/
def run {σ : Type} (r : Release) (files : FileTree) (names : List String) (sink : Sink σ)
    (state : σ) :
    Except Error (List Released) × σ :=
  match r.prepareAll files names with
  | .error error => (.error error, state)
  | .ok prepared => emitAll sink prepared state

end Release

end AppRelease
