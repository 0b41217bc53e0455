import AppRelease.Proofs.Assembly
import AppRelease.Proofs.Catalog
import AppRelease.Proofs.Conditions
import AppRelease.Proofs.Files
import AppRelease.Proofs.Release
import AppRelease.Proofs.Reporting
import AppRelease.Proofs.Variables

/-!
# What has to be right before an application is released

Specification: `Release.conditions` is the list of everything that the objects of an application
depend on, in the order in which it is looked at, each with the error that tells of its failure.
There is nothing else (`Release.prepare_decided_by_conditions`): an application is prepared exactly
when all of them hold, and otherwise the error is that of the first that does not.

1. **Stages.** Each stage is decided by conditions of its own (`Catalog.defaultsFor_decided`,
   `Overrides.applyTo_decided`, `Assembly.resolve_decided`, `Secrets.Store.load_decided`,
   `Defaults.build_decided`, `AppConfig.manifests_decided`), and `Decides.bind` puts them one after
   the other.
2. **What cannot fail.** The stages have more errors than there are conditions. The secrets that are
   loaded belong to the application and were encoded on the way, and no template of the catalog asks
   for a variable; so foreign secrets, bad base 64 and unresolved variables do not occur.
-/

namespace AppRelease

/-! ## The conditions -/

namespace Condition

/-- The application is one of the catalog. -/
def inCatalog (name : String) : Condition where
  holds := name ∈ Catalog.names
  blames error := error = .unknownApplication name Catalog.names

/-- Every override makes a change; those that make none are all named. -/
def overridesTaken (o : Overrides) : Condition where
  holds := ∀ entry ∈ o.entries, ∃ change, Override.change entry.1 entry.2 = .ok change
  blames error := error = .invalid (.overrides o.rejections)

/-- The source names an environment and gives an image tag. -/
def variablesGiven (source : Source) (tagKey : String) : Condition where
  holds := (∃ e, source.IsIn e) ∧ ∃ tag, source.Gives tagKey tag
  blames error := error = .configuration (variableProblems source tagKey)

/-- There is a secrets file. -/
def fileThere (store : Secrets.Store) (files : FileTree) (name : String) (e : Environment) :
    Condition where
  holds := ∃ content, files.nodeAt? (store.pathFor name e) = some (.file content)
  blames error := error = .secretsFileNotFound name e.name (store.pathFor name e)

/-- The secrets file is a text. -/
def fileIsText (store : Secrets.Store) (files : FileTree) (name : String) (e : Environment) :
    Condition where
  holds := ∃ text, files.nodeAt? (store.pathFor name e) = some (.file (Text.bytesOf text))
  blames error := error = .io .notText

/-- The text of the secrets file is in the format of the store. -/
def fileParses (store : Secrets.Store) (files : FileTree) (name : String) (e : Environment) :
    Condition :=
  .given (fun text => files.nodeAt? (store.pathFor name e) =
    some (.file (Text.bytesOf text))) fun text =>
    { holds := ∃ entries, store.readPlain (store.pathFor name e) text = .ok entries
      blames := fun error => store.readPlain (store.pathFor name e) text = .error error }

/-- Nothing is wrong with the defaults; everything that is wrong is named. -/
def defaultsAcceptable (d : Defaults) : Condition where
  holds := d.Acceptable
  blames error := error = .invalid (.defaults d.name d.faults)

/-- The image tag is well formed. -/
def tagWellFormed (key tag : String) : Condition where
  holds := isImageTag tag = true
  blames error := error = .configuration [.invalid key tag "a container image tag"]

/-- Every secret that a template asks for is there; those that are not are all named, once. -/
def secretsHeld (d : Defaults) (path : String) (plain : Dict String) : Condition where
  holds := ∀ key ∈ d.secretKeys, ∃ text, plain.get? key = some text
  blames error := error = .missingSecrets d.name path
    (d.secretKeys.filter fun key => (plain.get? key).isNone).eraseDups

/-- Argo CD knows the repository that it is to follow. -/
def repositoryNamed (project : Project) : Condition where
  holds := project.argo.enabled = false ∨ Text.isBlankText project.argo.repository = false
  blames error := error = .invalid .repositoryUnset

end Condition

open Condition

/-- What an application of the catalog starts from after the overrides that are taken. -/
def Release.StartsFrom (project : Project) (overrides : Overrides) (name : String)
    (d : Defaults) : Prop :=
  ∃ start, Catalog.defaultsFor name project = .ok start ∧ d = overrides.effect start

/-- **Everything that a release depends on**, in order. -/
def Release.conditions (project : Project) (overrides : Overrides) (source : Source)
    (files : FileTree) (name : String) : List Condition := [
  inCatalog name,
  overridesTaken overrides,
  variablesGiven source (imageTagKey name),
  given source.IsIn (fileThere project.store files name),
  given source.IsIn (fileIsText project.store files name),
  given source.IsIn (fileParses project.store files name),
  given (StartsFrom project overrides name) defaultsAcceptable,
  given (source.Gives (imageTagKey name)) (tagWellFormed (imageTagKey name)),
  given source.IsIn fun e => given (StartsFrom project overrides name) fun d =>
    given (project.store.Holds files name e) (secretsHeld d (project.store.pathFor name e)),
  repositoryNamed project]

/-! ## Defaults -/

variable {name : String} {d : Defaults}

theorem Catalog.defaultsFor_decided (name : String) (project : Project) :
    Decides (defaultsFor name project) [inCatalog name] := by
  apply Decides.of_cases
  rw [← exists_listed_iff, defaultsFor]
  cases listed? name with
  | none => exact .inr ⟨by simp, _, rfl, fun _ => Iff.rfl⟩
  | some listed => exact .inl ⟨⟨listed, rfl⟩, _, rfl⟩

theorem Overrides.applyTo_decided (o : Overrides) (d : Defaults) :
    Decides (o.applyTo d) [overridesTaken o] := by
  apply Decides.of_cases
  rw [← rejections_eq_nil_iff, applyTo, outcome, check]
  cases o.rejections with
  | nil => exact .inl ⟨rfl, _, rfl⟩
  | cons rejection rest => exact .inr ⟨by simp, _, rfl, fun _ => Iff.rfl⟩

/-- Overrides that are taken have their effect. -/
theorem Overrides.applyTo_eq_ok {o : Overrides} {d d' : Defaults} (h : o.applyTo d = .ok d') :
    d' = o.effect d := by
  obtain ⟨-, -, heffect⟩ := bind_eq_ok_iff.mp h
  exact (pure_eq_ok_iff.mp heffect).symm

/-- An application of the catalog needs no variables of its own, whatever the overrides. -/
theorem Overrides.listed_of_applyTo {project : Project} {o : Overrides} {start : Defaults}
    (hstart : Catalog.defaultsFor name project = .ok start) (hd : o.applyTo start = .ok d) :
    d.Listed name := by
  rw [applyTo_eq_ok hd]
  exact listed_effect (Catalog.listed_of_defaultsFor hstart) o

/-! ## Variables -/

namespace Assembly

theorem resolve_decided (a : Assembly) (hown : d.requiredEnv = []) :
    Decides (a.resolve d) [variablesGiven a.source d.imageTagKey] := by
  apply Decides.of_cases
  rcases resolve_cases a hown with ⟨e, tag, he, htag, hresolve⟩ | ⟨hnot, hresolve⟩
  · exact .inl ⟨⟨⟨e, he⟩, tag, htag⟩, _, hresolve⟩
  · exact .inr ⟨hnot, _, hresolve, fun _ => Iff.rfl⟩

/-- The variables that are known are those that the source gives. -/
theorem resolve_eq_ok {a : Assembly} {known : Variables} (hown : d.requiredEnv = [])
    (h : a.resolve d = .ok known) : a.source.IsIn known.environment ∧
      ∃ tag, a.source.Gives d.imageTagKey tag ∧ known.get? d.imageTagKey = some tag := by
  rcases resolve_cases a hown with ⟨e, tag, he, htag, hresolve⟩ | ⟨-, hresolve⟩
  · rw [hresolve, Except.ok.injEq] at h
    subst h
    refine ⟨he, tag, htag, ?_⟩
    rw [Variables.get?, Dict.get?_ofList]
    simp [lastValue?]
  · rw [hresolve] at h
    exact absurd h (by simp)

end Assembly

/-! ## Secrets -/

namespace Secrets.Store

variable {s : Store} {files : FileTree} {e : Environment}

/-- The steps of reading a file that is there. -/
theorem load_eq (s : Store) (files : FileTree) (name : String) (e : Environment) :
    s.load files name e =
      if files.isFile (s.pathFor name e) then
        (files.readText (s.pathFor name e)).mapError Error.io >>= fun text =>
          s.readPlain (s.pathFor name e) text >>= fun entries =>
            .ok (.ofPlain name e (s.pathFor name e)
              (entries.map fun entry => (entry.1, Text.bytesOf entry.2)))
      else .error (.secretsFileNotFound name e.name (s.pathFor name e)) := by
  rw [load]
  cases files.readText (s.pathFor name e) with
  | error fault => rfl
  | ok text =>
    have hread : (Except.ok text : Except FileTree.Fault String).mapError Error.io = .ok text :=
      mapError_eq_ok_iff.mpr rfl
    cases hplain : s.readPlain (s.pathFor name e) text <;> simp [hplain, hread, bind, Except.bind]

/-- Reading the text of a file that is there fails only for bytes that are no text. -/
theorem readText_decided {content : List UInt8}
    (hcontent : files.nodeAt? (s.pathFor name e) = some (.file content)) :
    Decides ((files.readText (s.pathFor name e)).mapError Error.io)
      [fileIsText s files name e] := by
  apply Decides.of_cases
  cases htextOf : Text.textOf? content with
  | none =>
    have hread := FileTree.readText_of_not_text hcontent htextOf
    refine .inr ⟨?_, .io .notText, by rw [hread]; rfl, fun _ => Iff.rfl⟩
    rintro ⟨text, hnode⟩
    rw [hcontent, Option.some.injEq, Node.file.injEq] at hnode
    rw [Text.textOf?_eq_some_iff.mpr hnode] at htextOf
    exact absurd htextOf (by simp)
  | some text =>
    rw [Text.textOf?_eq_some_iff.mp htextOf] at hcontent
    exact .inl ⟨⟨text, hcontent⟩, text,
      mapError_eq_ok_iff.mpr (FileTree.readText_eq_ok_iff.mpr hcontent)⟩

theorem load_decided (s : Store) (files : FileTree) (name : String) (e : Environment) :
    Decides (s.load files name e) [fileThere s files name e, fileIsText s files name e,
      fileParses s files name e] := by
  rw [load_eq]
  refine Decides.guard FileTree.isFile_iff (fun _ _ => Iff.rfl) ?_
  rintro ⟨content, hcontent⟩
  refine (readText_decided hcontent).bind fun text hread => ?_
  have hread := mapError_eq_ok_iff.mp hread
  have hthat : ∀ other, files.nodeAt? (s.pathFor name e) = some (.file (Text.bytesOf other)) ↔
      other = text := by
    intro other
    rw [← FileTree.readText_eq_ok_iff, hread, Except.ok.injEq]
    exact eq_comm
  rw [fileParses, given_eq hthat]
  refine Decides.map (Decides.of_cases ?_) _
  cases s.readPlain (s.pathFor name e) text with
  | ok entries => exact .inl ⟨⟨entries, rfl⟩, entries, rfl⟩
  | error fault => exact .inr ⟨by simp, fault, rfl, by simp [eq_comm]⟩

/-- A store holds one thing for an application. -/
theorem Holds.unique {plain plain' : Dict String} (h : s.Holds files name e plain)
    (h' : s.Holds files name e plain') : plain = plain' := by
  obtain ⟨content, entries, hcontent, hentries, rfl⟩ := h
  obtain ⟨content', entries', hcontent', hentries', rfl⟩ := h'
  rw [hcontent, Except.ok.injEq] at hcontent'
  rw [← hcontent', hentries, Except.ok.injEq] at hentries'
  rw [hentries']

end Secrets.Store

/-! ## The configuration -/

namespace Defaults

variable {known : Variables} {secrets : Secrets.Bundle} {plain : Dict String} {tag : String}

/-- Nothing but the image tag can be wrong with the variables of an application without variables of
its own. -/
theorem variableProblems_of_listed (hlisted : d.Listed name)
    (htag : known.get? d.imageTagKey = some tag) :
    d.variableProblems known secrets =
      if isImageTag tag then [] else [.invalid d.imageTagKey tag "a container image tag"] := by
  have hnone : d.resolvedKeys = [] := by
    rw [List.eq_nil_iff_forall_not_mem]
    intro key hkey
    obtain ⟨n, hentry⟩ := mem_resolvedKeys.mp hkey
    exact hlisted.not_resolved _ hentry key rfl
  rw [variableProblems, variableShortfalls_eq, hnone, image, htag]
  by_cases hvalid : isImageTag tag = true <;> simp [hvalid]

/-- The secrets that are missing are those that are missing among the plain values. -/
theorem missingSecrets_of_encodes (hencodes : secrets.Encodes plain) :
    d.missingSecrets known secrets =
      (d.secretKeys.filter fun key => (plain.get? key).isNone).eraseDups := by
  rw [missingSecrets, secretShortfalls_eq]
  simp only [hencodes _, Option.isNone_map]

theorem build_decided (hlisted : d.Listed name)
    (hown : secrets.application = d.name ∧ secrets.environment = known.environment)
    (htag : known.get? d.imageTagKey = some tag) (hencodes : secrets.Encodes plain) :
    Decides (d.build known secrets) [defaultsAcceptable d, tagWellFormed d.imageTagKey tag,
      secretsHeld d secrets.path plain] := by
  have hproblems : d.variableProblems known secrets = _ := variableProblems_of_listed hlisted htag
  have hmissing : d.missingSecrets known secrets = _ := missingSecrets_of_encodes hencodes
  have hheld : d.missingSecrets known secrets = [] ↔
      ∀ key ∈ d.secretKeys, ∃ text, plain.get? key = some text := by
    rw [hmissing, eraseDups_eq_nil_iff, List.filter_eq_nil_iff]
    simp only [Option.isNone_iff_eq_none, ← ne_eq, Option.ne_none_iff_exists']
  have hforeign : ¬ (secrets.application ≠ d.name ∨ secrets.environment ≠ known.environment) := by
    simp [hown]
  rw [build_eq, if_neg hforeign]
  simp only [ne_eq, ite_not]
  refine Decides.guard faults_eq_nil_iff (fun _ _ => Iff.rfl) fun _ => ?_
  refine Decides.guard (by simp [hproblems]) (fun hnot error => by rw [hproblems, if_neg hnot]) ?_
  intro hvalid
  refine Decides.guard hheld (fun _ error => by rw [hmissing]) fun _ => ?_
  rw [image_eq_ok_iff.mpr ⟨tag, htag, hvalid, rfl⟩]
  exact .ok _

end Defaults

/-! ## The objects -/

namespace AppConfig

variable {c : AppConfig} {e : Environment} {project : Project}

theorem argoManifests_decided (c : AppConfig) (e : Environment) (project : Project) :
    Decides (c.argoManifests e project) [repositoryNamed project] := by
  apply Decides.of_cases
  rw [argoManifests, argoApplication]
  by_cases henabled : project.argo.enabled = true
  · by_cases hblank : Text.isBlankText project.argo.repository = true
    · refine .inr ⟨by simp [henabled, hblank], .invalid .repositoryUnset, ?_, fun _ => Iff.rfl⟩
      simp [henabled, hblank, bind, Except.bind]
    · simp [henabled, hblank, bind, Except.bind, pure, Except.pure]
  · simp [henabled, pure, Except.pure]

theorem manifests_decided (hreadable : c.SecretsReadable) :
    Decides (c.manifests e project) [repositoryNamed project] := by
  rw [manifests, secretObject_eq_ok_iff.mpr ⟨hreadable, rfl⟩]
  exact (argoManifests_decided c e project).map _

/-- What is added for Argo CD is added when the project asks for it. -/
theorem kind_argoManifests {extra : List Manifest} (h : c.argoManifests e project = .ok extra) :
    extra.map Manifest.kind = if project.argo.enabled then ["Application"] else [] := by
  rw [argoManifests] at h
  by_cases henabled : project.argo.enabled = true
  · rw [if_pos henabled] at h ⊢
    obtain ⟨application, -, hpure⟩ := bind_eq_ok_iff.mp h
    rw [← pure_eq_ok_iff.mp hpure]
    rfl
  · rw [if_neg henabled] at h ⊢
    rw [← pure_eq_ok_iff.mp h]
    rfl

/-- The objects of an application come in a fixed order. -/
theorem kind_manifests {s : ManifestSet} (h : c.manifests e project = .ok s) :
    s.manifests.map Manifest.kind = ["Namespace", "ConfigMap", "Secret", "Deployment", "Service"] ++
      if project.argo.enabled then ["Application"] else [] := by
  obtain ⟨-, extra, hextra, rfl⟩ := manifests_eq_ok_iff.mp h
  rw [manifestSet, List.map_append, kind_argoManifests hextra]
  rfl

end AppConfig

/-! ## Stages in sequence -/

/-- Assembling an application without variables of its own is decided by the variables, the secrets
file, the defaults, the tag and the secrets. -/
theorem Assembly.assemble_decided (a : Assembly) (files : FileTree) (hlisted : d.Listed name) :
    Decides (a.assemble files d) [
      variablesGiven a.source (imageTagKey name),
      given a.source.IsIn (fileThere a.store files name),
      given a.source.IsIn (fileIsText a.store files name),
      given a.source.IsIn (fileParses a.store files name),
      defaultsAcceptable d,
      given (a.source.Gives (imageTagKey name)) (tagWellFormed (imageTagKey name)),
      given a.source.IsIn fun e =>
        given (a.store.Holds files name e) (secretsHeld d (a.store.pathFor name e))] := by
  obtain rfl := hlisted.name_eq
  refine (resolve_decided a hlisted.requiredEnv_eq).bind fun known hknown => ?_
  obtain ⟨he, tag, (hgives : a.source.Gives (imageTagKey d.name) tag), htag⟩ :=
    resolve_eq_ok hlisted.requiredEnv_eq hknown
  -- from here on there is one environment and one tag that conditions can speak of
  simp only [given_eq (Source.isIn_iff_eq he), given_eq (Source.gives_iff_eq hgives)]
  refine (a.store.load_decided files d.name known.environment).bind fun secrets hload => ?_
  obtain ⟨plain, hholds, hencodes⟩ := Secrets.Store.exists_holds_of_load hload
  have hplain : ∀ other, a.store.Holds files d.name known.environment other ↔ other = plain :=
    fun other => ⟨fun h => h.unique hholds, fun heq => heq ▸ hholds⟩
  obtain ⟨-, content, entries, -, -, rfl⟩ := Secrets.Store.load_eq_ok_iff.mp hload
  rw [given_eq hplain]
  exact (Defaults.build_decided hlisted ⟨rfl, rfl⟩ htag hencodes).map _

namespace Release

/-- The objects of what was assembled can be made unless Argo CD has no repository. -/
theorem manifests_decided_of_assemble {a : Assembly} {files : FileTree} {e : Environment}
    {c : AppConfig} (project : Project) (h : a.assemble files d = .ok (e, c)) :
    Decides (c.manifests e project) [repositoryNamed project] := by
  obtain ⟨known, -, -, secrets, hload, hbuild⟩ := Assembly.assemble_eq_ok_iff.mp h
  obtain ⟨plain, -, hencodes⟩ := Secrets.Store.exists_holds_of_load hload
  exact AppConfig.manifests_decided (Assembly.secretsReadable_of_build hbuild hencodes)

/-- The stages of a release, one after the other. -/
theorem prepare_eq (project : Project) (source : Source) (overrides : Overrides) (files : FileTree)
    (name : String) : (ofProject project source overrides).prepare files name =
      Catalog.defaultsFor name project >>= fun start =>
        overrides.applyTo start >>= fun d =>
          (⟨source, project.store⟩ : Assembly).assemble files d >>= fun (e, c) =>
            c.manifests e project := by
  simp only [prepare, assemble, defaultsFor, ofProject, bind_assoc]

/-- What overrides that are taken leave of the catalog is what the application starts from. -/
theorem startsFrom_iff_eq {project : Project} {overrides : Overrides} {start : Defaults}
    (hstart : Catalog.defaultsFor name project = .ok start) (hd : overrides.applyTo start = .ok d)
    (other : Defaults) : StartsFrom project overrides name other ↔ other = d := by
  rw [Overrides.applyTo_eq_ok hd]
  constructor
  · rintro ⟨start', hstart', rfl⟩
    rw [hstart, Except.ok.injEq] at hstart'
    rw [hstart']
  · rintro rfl
    exact ⟨start, hstart, rfl⟩

/-- **An application is prepared exactly when everything is right**, and otherwise the error is that
of the first thing that is not. What is prepared are five objects in a fixed order, and one more
when the project asks for Argo CD. -/
theorem prepare_decided_by_conditions (project : Project) (source : Source) (overrides : Overrides)
    (files : FileTree) (name : String) :
    Decides ((ofProject project source overrides).prepare files name)
        (conditions project overrides source files name) ∧
      ∀ s, (ofProject project source overrides).prepare files name = .ok s →
        s.manifests.map Manifest.kind =
          ["Namespace", "ConfigMap", "Secret", "Deployment", "Service"] ++
          if project.argo.enabled then ["Application"] else [] := by
  constructor
  · rw [prepare_eq]
    refine (Catalog.defaultsFor_decided name project).bind fun start hstart => ?_
    refine (overrides.applyTo_decided start).bind fun d hd => ?_
    simp only [given_eq (startsFrom_iff_eq hstart hd)]
    have hlisted := Overrides.listed_of_applyTo hstart hd
    exact (Assembly.assemble_decided _ files hlisted).bind fun (e, c) h =>
      manifests_decided_of_assemble project h
  · intro s hs
    obtain ⟨⟨e, c⟩, -, hmanifests⟩ := bind_eq_ok_iff.mp hs
    exact AppConfig.kind_manifests hmanifests

/-- A project that Argo CD follows. -/
def followedProject : Project where
  argo := { enabled := true, repository := "apps.git" }

theorem prepare_decided_by_conditions_followed :
    ∃ s, (ofProject followedProject localRelease.assembly.source
        (Dict.ofList [("app.replicas", "3")])).prepare localFiles "react-web" = .ok s ∧
      (∀ c ∈ conditions followedProject (Dict.ofList [("app.replicas", "3")])
        localRelease.assembly.source localFiles "react-web", c.holds) ∧
      s.manifests.map Manifest.kind =
        ["Namespace", "ConfigMap", "Secret", "Deployment", "Service", "Application"] := by
  have hready : ∃ s, (ofProject followedProject localRelease.assembly.source
      (Dict.ofList [("app.replicas", "3")])).prepare localFiles "react-web" = .ok s :=
    exists_eq_ok_of_isSome (by decide +kernel)
  obtain ⟨hdecides, hkinds⟩ :=
    prepare_decided_by_conditions followedProject localRelease.assembly.source
      (Dict.ofList [("app.replicas", "3")]) localFiles "react-web"
  obtain ⟨s, hs⟩ := hready
  exact ⟨s, hs, hdecides.success.mp ⟨s, hs⟩, hkinds s hs⟩

end Release

end AppRelease
