import AppRelease.Proofs.Readiness

/-!
# What a release depends on

Specification: two runs have the same inputs (`Release.SameInputs`) when their sources agree on the
environment and on the image tags of the applications, and their files on the secrets of these
applications in this environment. Whatever else they differ in, what is prepared is the same, and so
is the error when nothing is (`Release.release_depends_on_declared_inputs`). So no other variable
has an influence, nor the secrets of another environment or of another application.

1. **Stages.** Sources and files are read by `Assembly.resolve` and `Secrets.Store.load` only, and
   each depends on what it asks for (`Requirements.resolve_congr`, `Secrets.Store.load_congr`).
2. **Other files.** Secrets files of different applications or environments differ in the last two
   names of their paths (`Secrets.Store.steps_pathFor`), so to write the one does not change the
   other.
-/

namespace AppRelease

/-! ## Secrets files -/

namespace Secrets.Store

variable {s : Store} {files files' : FileTree} {name name' : String} {e e' : Environment}

/-- What is loaded depends on the file of the application in the environment. -/
theorem load_congr (h : files.nodeAt? (s.pathFor name e) = files'.nodeAt? (s.pathFor name e)) :
    s.load files name e = s.load files' name e := by
  have hisFile : files.isFile (s.pathFor name e) = files'.isFile (s.pathFor name e) := by
    rw [Bool.eq_iff_iff, FileTree.isFile_iff, FileTree.isFile_iff, h]
  rw [load, load, ← hisFile]
  by_cases hfile : files.isFile (s.pathFor name e) = true
  · obtain ⟨content, hcontent⟩ := FileTree.isFile_iff.mp hfile
    rw [FileTree.readText_congr hcontent (h ▸ hcontent)]
  · simp [hfile]

/-- The last name of the path of a secrets file. -/
def fileName (s : Store) (name : String) : String := name ++ "." ++ s.format.extension

theorem fileName_injective (h : s.fileName name = s.fileName name') : name = name' := by
  have hlist := congrArg String.toList h
  simp only [fileName, String.toList_append, List.append_cancel_right_eq] at hlist
  exact String.toList_inj.mp hlist

/-- The name of a secrets file is one step of a path. -/
theorem steps_fileName (s : Store) (h : '/' ∉ name.toList) :
    Path.steps (s.fileName name) = [.into (s.fileName name)] ∧
      Path.isAbsolute (s.fileName name) = false := by
  have hlist : (s.fileName name).toList = name.toList ++ '.' :: s.format.extension.toList := by
    simp [fileName]
  have hstroke : '/' ∉ (s.fileName name).toList := by
    have hextension : '/' ∉ s.format.extension.toList := by cases s.format <;> decide
    simp [hlist, h, hextension]
  have hlength : 3 < (s.fileName name).toList.length := by
    have hextension : 3 ≤ s.format.extension.toList.length := by cases s.format <;> decide
    simp only [hlist, List.length_append, List.length_cons]
    omega
  refine ⟨Path.steps_name hstroke ?_ ?_ ?_, Path.isAbsolute_eq_false hstroke⟩ <;>
    · intro heq
      rw [heq] at hlength
      exact absurd hlength (by decide)

/-- **The path of a secrets file** leads through the root of the store to the environment and then
to the application. -/
theorem steps_pathFor (s : Store) (h : '/' ∉ name.toList) (e : Environment) :
    Path.steps (s.pathFor name e) =
      Path.steps s.root ++ [.into e.name, .into (s.fileName name)] := by
  obtain ⟨hsteps, habsolute⟩ := s.steps_fileName h
  have henvironment : Path.steps e.name = [.into e.name] ∧ Path.isAbsolute e.name = false := by
    cases e <;> decide
  rw [pathFor, ← fileName, Path.steps_join habsolute, Path.steps_join henvironment.2,
    henvironment.1, hsteps, List.append_assoc]
  rfl

/-- A secrets file is found from the root exactly when the store is. -/
theorem isAbsolute_pathFor (s : Store) (h : '/' ∉ name.toList) (e : Environment) :
    Path.isAbsolute (s.pathFor name e) = Path.isAbsolute s.root := by
  have henvironment : Path.isAbsolute e.name = false := by cases e <;> decide
  rw [pathFor, ← fileName, Path.isAbsolute_join (s.steps_fileName h).2,
    Path.isAbsolute_join henvironment]

/-- **A secrets file that is written leaves every other one as it was.** -/
theorem nodeAt?_write_other (hname : '/' ∉ name.toList) (hname' : '/' ∉ name'.toList)
    (hother : ¬ (name = name' ∧ e = e')) (content : List UInt8) :
    (files.write (s.pathFor name e) content).2.nodeAt? (s.pathFor name' e') =
      files.nodeAt? (s.pathFor name' e') := by
  have hstart : Path.isAbsolute (s.pathFor name e) = Path.isAbsolute (s.pathFor name' e') := by
    rw [s.isAbsolute_pathFor hname, s.isAbsolute_pathFor hname']
  apply FileTree.nodeAt?_write_of_ne hstart (s.steps_pathFor hname e) (s.steps_pathFor hname' e')
  rintro ⟨henvironment, hfile⟩
  exact hother ⟨fileName_injective hfile, Environment.name_injective henvironment⟩

end Secrets.Store

theorem Catalog.stroke_not_mem {name : String} (h : name ∈ names) : '/' ∉ name.toList := by
  have hall : ∀ name ∈ names, '/' ∉ name.toList := by decide
  exact hall name h

/-! ## Stages -/

section Stages

variable {source source' : Source} {files files' : FileTree} {name : String} {names : List String}
  {project : Project} {overrides : Overrides}

/-- What is assembled for an application without variables of its own depends on the environment,
its image tag and its secrets in that environment. -/
theorem Assembly.assemble_congr {d : Defaults} (store : Secrets.Store) (hlisted : d.Listed name)
    (henvironment : source Environment.key = source' Environment.key)
    (htag : source (imageTagKey name) = source' (imageTagKey name))
    (hsecrets : ∀ e, source.IsIn e →
      files.nodeAt? (store.pathFor name e) = files'.nodeAt? (store.pathFor name e)) :
    (⟨source, store⟩ : Assembly).assemble files d =
      (⟨source', store⟩ : Assembly).assemble files' d := by
  obtain rfl := hlisted.name_eq
  have hresolve : (⟨source, store⟩ : Assembly).resolve d =
      (⟨source', store⟩ : Assembly).resolve d := by
    rw [resolve, resolve, requirements_eq hlisted.requiredEnv_eq]
    refine Requirements.resolve_congr ?_ (by simp)
    simpa [Defaults.imageTagKey] using ⟨henvironment, htag⟩
  rw [assemble, assemble, ← hresolve]
  refine bind_congr_of_ok fun known hknown => ?_
  -- the environment that was found is the one in which the files agree
  have hin := (resolve_eq_ok hlisted.requiredEnv_eq hknown).1
  rw [Secrets.Store.load_congr (hsecrets known.environment hin)]

namespace Release

/-- What is prepared for one application depends on its own inputs. A name that is not in the
catalog has none. -/
theorem prepare_congr (henvironment : source Environment.key = source' Environment.key)
    (htag : source (imageTagKey name) = source' (imageTagKey name))
    (hsecrets : ∀ e, source.IsIn e → name ∈ Catalog.names →
      files.nodeAt? (project.store.pathFor name e) =
        files'.nodeAt? (project.store.pathFor name e)) :
    (ofProject project source overrides).prepare files name =
      (ofProject project source' overrides).prepare files' name := by
  rw [prepare_eq, prepare_eq]
  refine bind_congr_of_ok fun start hstart => bind_congr_of_ok fun d hd => ?_
  have hcatalog : name ∈ Catalog.names :=
    (Catalog.defaultsFor_decided name project).success.mp ⟨start, hstart⟩ _ List.mem_cons_self
  rw [Assembly.assemble_congr project.store (Overrides.listed_of_applyTo hstart hd) henvironment
    htag fun e he => hsecrets e he hcatalog]

/-- Releases that prepare each application in the same way prepare all of them in the same way. -/
theorem prepareAll_congr {r r' : Release}
    (h : ∀ n ∈ names, r.prepare files n = r'.prepare files' n) :
    r.prepareAll files names = r'.prepareAll files' names := by
  induction names with
  | nil => rfl
  | cons name rest ih =>
    rw [prepareAll, prepareAll, h name List.mem_cons_self,
      ih fun n hn => h n (List.mem_cons_of_mem _ hn)]

end Release

end Stages

/-! ## All inputs -/

/-- A source with another reading under one key. -/
def Source.update (source : Source) (key : String) (reading : Reading) : Source :=
  fun other => if other = key then reading else source other

namespace Release

/-- Two runs have the same inputs for some applications: the environment, the image tags, and the
secrets files of these applications in this environment. -/
structure SameInputs (store : Secrets.Store) (names : List String) (source source' : Source)
    (files files' : FileTree) : Prop where
  environment : source Environment.key = source' Environment.key
  tags : ∀ n ∈ names, source (imageTagKey n) = source' (imageTagKey n)
  secrets : ∀ e, source.IsIn e → ∀ n ∈ names,
    files.nodeAt? (store.pathFor n e) = files'.nodeAt? (store.pathFor n e)

/-- **A release depends on its declared inputs.** Runs with the same inputs have the same result, be
it objects or an error. In particular no other variable has an influence, and no secrets file of
another application or of another environment. -/
theorem release_depends_on_declared_inputs (project : Project) (overrides : Overrides)
    (names : List String) :
    (∀ source source' files files', SameInputs project.store names source source' files files' →
      (ofProject project source overrides).prepareAll files names =
        (ofProject project source' overrides).prepareAll files' names) ∧
    (∀ (source : Source) (files : FileTree) (key : String)
      (reading : Reading), key ≠ Environment.key →
      (∀ n ∈ names, key ≠ imageTagKey n) →
      (ofProject project (source.update key reading) overrides).prepareAll files names =
        (ofProject project source overrides).prepareAll files names) ∧
    (∀ (source : Source) (files : FileTree) (name : String) (e : Environment)
      (content : List UInt8), '/' ∉ name.toList → ¬ (name ∈ names ∧ source.IsIn e) →
      (ofProject project source overrides).prepareAll
          (files.write (project.store.pathFor name e) content).2 names =
        (ofProject project source overrides).prepareAll files names) := by
  refine ⟨?_, ?_, ?_⟩
  · intro source source' files files' h
    exact prepareAll_congr fun n hn =>
      prepare_congr h.environment (h.tags n hn) fun e he _ => h.secrets e he n hn
  · intro source files key reading henvironment htags
    refine prepareAll_congr fun n hn => prepare_congr ?_ ?_ fun _ _ _ => rfl
    · exact if_neg henvironment.symm
    · exact if_neg (htags n hn).symm
  · intro source files name e content hname hother
    refine prepareAll_congr fun n hn => prepare_congr rfl rfl fun e' he' hcatalog => ?_
    refine Secrets.Store.nodeAt?_write_other hname (Catalog.stroke_not_mem hcatalog) ?_ content
    rintro ⟨rfl, rfl⟩
    exact hother ⟨hn, he'⟩

/-! ## A run -/

/-- The variables of a machine, one of which the secrets speak of. -/
def homeSource (home : String) : Source :=
  .ofDict (Dict.ofList [("ENVIRONMENT", .text "local"), ("IMAGE_TAG_GRPC_MONGO", .text "v1"),
    ("HOME", .text home)])

/-- The files of that machine, with secrets for staging too. -/
def homeFiles (staging : String) : FileTree where
  nodes := [([".secrets"], .directory), ([".secrets", "local"], .directory),
    ([".secrets", "local", "grpc-mongo.env"], .file (Text.bytesOf
      ("MONGODB_USERNAME=$HOME\nMONGODB_PASSWORD=b\n" ++
        "MONGODB_ROOT_USERNAME=c\nMONGODB_ROOT_PASSWORD=d\n"))),
    ([".secrets", "staging"], .directory),
    ([".secrets", "staging", "grpc-mongo.env"], .file (Text.bytesOf staging))]

theorem release_depends_on_declared_inputs_home :
    SameInputs (Project.store {}) ["grpc-mongo"] (homeSource "/srv/one") (homeSource "/srv/two")
        (homeFiles "MONGODB_USERNAME=x") (homeFiles "") ∧
      (∃ prepared, (ofProject {} (homeSource "/srv/one") ∅).prepareAll
        (homeFiles "MONGODB_USERNAME=x") ["grpc-mongo"] = .ok prepared) ∧
      (ofProject {} (homeSource "/srv/one") ∅).prepareAll (homeFiles "MONGODB_USERNAME=x")
          ["grpc-mongo"] =
        (ofProject {} (homeSource "/srv/two") ∅).prepareAll (homeFiles "") ["grpc-mongo"] ∧
      (ofProject {} ((homeSource "/srv/one").update "HOME" .absent) ∅).prepareAll (homeFiles "")
          ["grpc-mongo"] =
        (ofProject {} (homeSource "/srv/one") ∅).prepareAll (homeFiles "") ["grpc-mongo"] ∧
      (ofProject {} (homeSource "/srv/one") ∅).prepareAll
          ((homeFiles "").write ".secrets/local/react-web.env" [255]).2 ["grpc-mongo"] =
        (ofProject {} (homeSource "/srv/one") ∅).prepareAll (homeFiles "") ["grpc-mongo"] := by
  have hlocal : (homeSource "/srv/one").IsIn .localMachine :=
    ⟨"local", by decide, by decide, by decide⟩
  have hsame : SameInputs (Project.store {}) ["grpc-mongo"] (homeSource "/srv/one")
      (homeSource "/srv/two") (homeFiles "MONGODB_USERNAME=x") (homeFiles "") := by
    refine ⟨by decide, by decide, ?_⟩
    intro e he n hn
    obtain rfl := he.unique hlocal
    obtain rfl := List.mem_singleton.mp hn
    decide +kernel
  have hready : ∃ prepared, (ofProject {} (homeSource "/srv/one") ∅).prepareAll
      (homeFiles "MONGODB_USERNAME=x") ["grpc-mongo"] = .ok prepared :=
    exists_eq_ok_of_isSome (by decide +kernel)
  obtain ⟨hinputs, hvariable, hfile⟩ := release_depends_on_declared_inputs {} ∅ ["grpc-mongo"]
  refine ⟨hsame, hready, hinputs _ _ _ _ hsame, ?_, ?_⟩
  · exact hvariable _ _ "HOME" .absent (by decide) (by decide)
  · exact hfile _ (homeFiles "") "react-web" .localMachine [255] (by decide) fun h =>
      absurd h.1 (by decide)

end Release

end AppRelease
