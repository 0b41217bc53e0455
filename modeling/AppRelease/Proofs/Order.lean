import AppRelease.Proofs.Readiness
import AppRelease.Proofs.Release
import AppRelease.Proofs.Rendering

/-!
# The order of a release

Program: `Release.run` prepares the applications it is given the names of, and a renderer then
writes their files, one application after the other into one tree. Names may be repeated.

Specification: `Release.rendered_in_any_order`. The order of the names makes no difference to
whether the release succeeds, and none to the tree that it leaves.

1. **Sets of objects.** What is prepared under a name belongs to the application of that name
   (`prepared_named`), so two sets of one application are one set (`OnePerApplication`).
2. **Locations.** Files of different applications stand in different directories, and files of one
   application in files of their own. So all layouts are consistent (`consistent_layout`).
3. **The crux.** One application may make the directory that another one writes to, or be in its
   way. Nothing is said of two applications at a time: all of them succeed exactly when the tree
   admits everything they ask for (`emitAll_cases`), and that has no order.
-/

namespace AppRelease

/-! ## Several applications -/

/-- Sets of objects of the same application are the same. -/
def OnePerApplication (sets : List ManifestSet) : Prop :=
  ∀ s ∈ sets, ∀ s' ∈ sets, s.application = s'.application → s = s'

namespace Renderer

/-- What is asked for by several sets of objects. -/
def layoutAll (r : Renderer) (t : FileTree) (sets : List ManifestSet) : Layout where
  directories := sets.flatMap fun s => (layout t (r.directory s) 0 s.manifests).directories
  files := sets.flatMap fun s => (layout t (r.directory s) 0 s.manifests).files

/-- What became of an application that was rendered. -/
def released (r : Renderer) (s : ManifestSet) : Released :=
  ⟨s.application, .rendered (paths (r.directory s) 0 s.manifests)⟩

/-- Every set can be rendered and nothing is in the way of all of them. -/
structure AdmitsAll (r : Renderer) (t : FileTree) (sets : List ManifestSet) : Prop where
  fits : ∀ s ∈ sets, r.Fits s
  admits : t.Admits (r.layoutAll t sets)

variable {r : Renderer} {t t' : FileTree} {s s' : ManifestSet} {sets sets' : List ManifestSet}

theorem layoutAll_congr (h : t'.working = t.working) (r : Renderer) (sets : List ManifestSet) :
    r.layoutAll t' sets = r.layoutAll t sets := by
  simp only [layoutAll, layout_congr h]

theorem layoutAll_cons (r : Renderer) (t : FileTree) (s : ManifestSet) (rest : List ManifestSet) :
    r.layoutAll t (s :: rest) =
      (layout t (r.directory s) 0 s.manifests).append (r.layoutAll t rest) := rfl

/-- Lists with the same members ask for the same. -/
theorem same_layoutAll (h : ∀ s, s ∈ sets ↔ s ∈ sets') :
    (r.layoutAll t sets).Same (r.layoutAll t sets') := by
  refine ⟨fun l => ?_, fun f => ?_⟩
  · simp only [layoutAll, List.mem_flatMap, h]
  · simp only [layoutAll, List.mem_flatMap, h]

theorem AdmitsAll.congr (h : ∀ s, s ∈ sets ↔ s ∈ sets') (hall : r.AdmitsAll t sets) :
    r.AdmitsAll t sets' :=
  ⟨fun s hs => hall.fits s ((h s).mpr hs), hall.admits.congr (same_layoutAll h)⟩

/-- The directory of an application is named after it. -/
theorem locate_directory (r : Renderer) (t : FileTree) (hs : s.WellNamed) :
    ∃ parent, t.locate (r.directory s) = parent ++ [s.application] := by
  have hname := isName_of_isLabel hs.application
  have hsteps : ∃ before, Path.steps (r.directory s) = before ++ [.into s.application] :=
    ⟨_, by rw [directory, Path.steps_join hname.not_absolute, hname.steps_eq]⟩
  obtain ⟨before, hbefore⟩ := hsteps
  exact ⟨_, t.locate_of_steps hbefore⟩

/-- **Files at one location have one content**, whichever applications they are of. -/
theorem consistent_layout (r : Renderer) (t : FileTree) (hs : s.WellNamed) (hs' : s'.WellNamed)
    (hone : s.application = s'.application → s = s') :
    Layout.Consistent (layout t (r.directory s) 0 s.manifests).files
      (layout t (r.directory s') 0 s'.manifests).files := by
  intro f hf g hg hlocation
  obtain ⟨⟨m, i⟩, hm, rfl⟩ := List.mem_map.mp hf
  obtain ⟨⟨n, j⟩, hn, rfl⟩ := List.mem_map.mp hg
  rw [List.mem_zipIdx_iff_getElem?] at hm hn
  have hmplain : '/' ∉ m.name.toList := hs.objects m (List.mem_of_getElem? hm)
  have hnplain : '/' ∉ n.name.toList := hs'.objects n (List.mem_of_getElem? hn)
  simp only [locate_filePath hmplain, locate_filePath hnplain] at hlocation
  -- the last name of the location is that of the file, the one before it that of the application
  obtain ⟨hdirectories, hfiles⟩ := List.append_inj' hlocation rfl
  have hindex : i = j := Manifest.index_of_fileName (List.singleton_inj.mp hfiles)
  obtain ⟨parent, hparent⟩ := locate_directory r t hs
  obtain ⟨parent', hparent'⟩ := locate_directory r t hs'
  rw [hparent, hparent'] at hdirectories
  have happlication : s.application = s'.application :=
    List.singleton_inj.mp (List.append_inj' hdirectories rfl).2
  rw [hone happlication, hindex] at hm
  obtain rfl : m = n := Option.some.inj (hm.symm.trans hn)
  rfl

-- `render` is kept closed, as only what it gives is looked at
attribute [local irreducible] render in
theorem sink_eq (r : Renderer) (s : ManifestSet) (t : FileTree) : r.sink s t =
    match r.render s t with
    | (.error error, t) => (.error error, t)
    | (.ok paths, t) => (.ok (.rendered paths), t) := rfl

/-- **What comes of rendering several applications.** All of it is there, or something is in the
way. -/
theorem emitAll_cases (r : Renderer) (sets : List ManifestSet) (t : FileTree)
    (hnamed : ∀ s ∈ sets, s.WellNamed) (hone : OnePerApplication sets) :
    (∃ after, emitAll r.sink sets t = (.ok (sets.map r.released), after) ∧ r.AdmitsAll t sets ∧
      t.LaidOut (r.layoutAll t sets) after) ∨
    ∃ error after, emitAll r.sink sets t = (.error error, after) ∧ ¬ r.AdmitsAll t sets := by
  induction sets generalizing t with
  | nil =>
    have hnothing : t.Admits (r.layoutAll t []) :=
      ⟨by simp [layoutAll], by simp [layoutAll], by simp [layoutAll]⟩
    exact .inl ⟨t, rfl, ⟨by simp, hnothing⟩, rfl, by simp [layoutAll], by simp [layoutAll],
      fun _ _ _ => rfl⟩
  | cons s rest ih =>
    have hs := hnamed s List.mem_cons_self
    have hrest : ∀ s' ∈ rest, s'.WellNamed := fun s' hs' => hnamed s' (List.mem_cons_of_mem _ hs')
    have honeRest : OnePerApplication rest := fun a ha b hb =>
      hone a (List.mem_cons_of_mem _ ha) b (List.mem_cons_of_mem _ hb)
    rw [emitAll, sink_eq]
    rcases r.render_cases s t hs with
      ⟨made, hrender, ⟨hfits, hadmits⟩, hlaid⟩ | ⟨error, left, hrender, hnot, -⟩
    · -- the others are rendered into what the first leaves, and that admits what the start admits
      -- with the first
      have hcases := ih made hrest honeRest
      have hadmitsRest : made.Admits (r.layoutAll made rest) ↔
          t.Admits (r.layoutAll t (s :: rest)) := by
        rw [layoutAll_congr hlaid.working, layoutAll_cons, FileTree.admits_append_iff hadmits hlaid]
      have hagain : r.AdmitsAll made rest ↔ r.AdmitsAll t (s :: rest) := by
        constructor
        · intro hall
          exact ⟨List.forall_mem_cons.mpr ⟨hfits, hall.fits⟩, hadmitsRest.mp hall.admits⟩
        · intro hall
          exact ⟨(List.forall_mem_cons.mp hall.fits).2, hadmitsRest.mpr hall.admits⟩
      rw [hrender]
      rcases hcases with ⟨after, hothers, hall, hlaid'⟩ | ⟨error, after, hothers, hnot⟩
      · rw [layoutAll_congr hlaid.working] at hlaid'
        refine .inl ⟨after, ?_, hagain.mp hall, ?_⟩
        · simp only [hothers]
          rfl
        · have hconsistent : Layout.Consistent (layout t (r.directory s) 0 s.manifests).files
              (r.layoutAll t rest).files := by
            intro f hf g hg
            obtain ⟨s', hs', hg'⟩ := List.mem_flatMap.mp hg
            exact consistent_layout r t hs (hrest s' hs')
              (hone s List.mem_cons_self s' (List.mem_cons_of_mem _ hs')) f hf g hg'
          have hadmits' := layoutAll_congr hlaid.working r rest ▸ hall.admits
          exact hlaid.append hlaid' hadmits' hconsistent
      · refine .inr ⟨error, after, ?_, fun hall => hnot (hagain.mpr hall)⟩
        simp only [hothers]
    · rw [hrender]
      refine .inr ⟨error, left, rfl, fun hall => hnot ⟨hall.fits s List.mem_cons_self, ?_⟩⟩
      have hadmits := hall.admits
      rw [layoutAll_cons] at hadmits
      exact hadmits.left

end Renderer

/-! ## Releases -/

namespace Release

variable {r : Release} {files : FileTree} {names names' : List String}

/-- **What is prepared under a name belongs to the application of that name.** -/
theorem prepared_named {name : String} {s : ManifestSet} (h : r.prepare files name = .ok s) :
    s.application = name ∧ s.WellNamed := by
  obtain ⟨⟨e, c⟩, hassemble, hmanifests⟩ := bind_eq_ok_iff.mp h
  obtain ⟨d, hd, hassembled⟩ := bind_eq_ok_iff.mp hassemble
  obtain ⟨start, hstart, happly⟩ := bind_eq_ok_iff.mp hd
  obtain ⟨known, -, -, secrets, -, hbuild⟩ := Assembly.assemble_eq_ok_iff.mp hassembled
  obtain ⟨hname, hnameSpace⟩ := Defaults.isLabel_of_build hbuild
  refine ⟨?_, AppConfig.wellNamed hname hnameSpace hmanifests⟩
  obtain ⟨-, -, -, image, -, rfl⟩ := Defaults.build_eq_ok_iff.mp hbuild
  obtain ⟨-, extra, -, rfl⟩ := AppConfig.manifests_eq_ok_iff.mp hmanifests
  exact (Overrides.listed_of_applyTo hstart happly).name_eq

/-- What is prepared is what each name gives. -/
theorem mem_prepared {prepared : List ManifestSet} (h : r.prepareAll files names = .ok prepared)
    (s : ManifestSet) :
    s ∈ prepared ↔ ∃ name ∈ names, r.prepare files name = .ok s := by
  have hmem : (Except.ok s : Except Error ManifestSet) ∈ prepared.map .ok ↔
      .ok s ∈ names.map (r.prepare files) := by
    rw [prepareAll_eq_ok_iff.mp h]
  simpa using hmem

theorem onePerApplication_of_prepareAll {prepared : List ManifestSet}
    (h : r.prepareAll files names = .ok prepared) : OnePerApplication prepared := by
  intro s hs s' hs' happlication
  obtain ⟨name, -, hname⟩ := (mem_prepared h s).mp hs
  obtain ⟨name', -, hname'⟩ := (mem_prepared h s').mp hs'
  rw [(prepared_named hname).1, (prepared_named hname').1] at happlication
  rw [happlication, hname'] at hname
  exact (Except.ok.inj hname).symm

/-- Names with the same members can be prepared alike, and give sets with the same members. -/
theorem exists_prepareAll {prepared : List ManifestSet}
    (hnames : ∀ name, name ∈ names ↔ name ∈ names')
    (h : r.prepareAll files names = .ok prepared) :
    ∃ prepared', r.prepareAll files names' = .ok prepared' ∧ ∀ s, s ∈ prepared ↔ s ∈ prepared' := by
  cases hall : r.prepareAll files names' with
  | error error =>
    obtain ⟨before, name, after, hsplit, -, hfails⟩ := prepareAll_eq_error_iff.mp hall
    have hname : name ∈ names := (hnames name).mpr (by simp [hsplit])
    have hmem : r.prepare files name ∈ prepared.map Except.ok := by
      rw [← prepareAll_eq_ok_iff.mp h]
      exact List.mem_map_of_mem hname
    simp [hfails] at hmem
  | ok prepared' =>
    refine ⟨prepared', rfl, fun s => ?_⟩
    simp only [mem_prepared h, mem_prepared hall, hnames]

/-- What becomes of an application that is rendered. Nothing is written for one that cannot be
prepared. -/
def outcome (r : Release) (renderer : Renderer) (files : FileTree) (name : String) : Released :=
  match r.prepare files name with
  | .ok s => renderer.released s
  | .error _ => ⟨name, .rendered []⟩

theorem application_outcome (r : Release) (renderer : Renderer) (files : FileTree) (name : String) :
    (r.outcome renderer files name).application = name := by
  rw [outcome]
  split
  next s hs => exact (prepared_named hs).1
  next => rfl

theorem map_released {prepared : List ManifestSet} (renderer : Renderer)
    (h : r.prepareAll files names = .ok prepared) :
    prepared.map renderer.released = names.map (r.outcome renderer files) := by
  rw [prepareAll_eq_ok_iff] at h
  induction names generalizing prepared with
  | nil => rw [List.map_eq_nil_iff.mp h.symm]; rfl
  | cons name rest ih =>
    obtain ⟨first, others, rfl, hfirst, hothers⟩ := List.map_eq_cons_iff.mp h.symm
    have hreleased : r.outcome renderer files name = renderer.released first := by
      rw [outcome, ← hfirst]
    rw [List.map_cons, List.map_cons, hreleased, ih hothers.symm]

/-- **What comes of a release** whose applications are rendered. -/
theorem run_cases (r : Release) (renderer : Renderer) (t : FileTree) (names : List String) :
    (∃ prepared after,
      r.run t names renderer.sink t = (.ok (names.map (r.outcome renderer t)), after) ∧
      r.prepareAll t names = .ok prepared ∧ renderer.AdmitsAll t prepared ∧
      t.LaidOut (renderer.layoutAll t prepared) after) ∨
    ∃ error after, r.run t names renderer.sink t = (.error error, after) ∧
      ∀ prepared, r.prepareAll t names = .ok prepared → ¬ renderer.AdmitsAll t prepared := by
  rw [run]
  cases hprepared : r.prepareAll t names with
  | error error => exact .inr ⟨error, t, rfl, by simp⟩
  | ok prepared =>
    have hnamed : ∀ s ∈ prepared, s.WellNamed := by
      intro s hs
      obtain ⟨name, -, hname⟩ := (mem_prepared hprepared s).mp hs
      exact (prepared_named hname).2
    rcases renderer.emitAll_cases prepared t hnamed (onePerApplication_of_prepareAll hprepared) with
      ⟨after, hemit, hall, hlaid⟩ | ⟨error, after, hemit, hnot⟩
    · rw [map_released renderer hprepared] at hemit
      exact .inl ⟨prepared, after, hemit, rfl, hall, hlaid⟩
    · refine .inr ⟨error, after, hemit, ?_⟩
      rintro prepared' heq
      rwa [← Except.ok.inj heq]

/-- Names with the same members succeed together, and leave the same tree. -/
theorem run_of_same_members (renderer : Renderer) {t after : FileTree} {all : List Released}
    (hnames : ∀ name, name ∈ names ↔ name ∈ names')
    (h : r.run t names renderer.sink t = (.ok all, after)) :
    ∃ after', r.run t names' renderer.sink t = (.ok (names'.map (r.outcome renderer t)), after') ∧
      ∀ l, after.node? l = after'.node? l := by
  rcases r.run_cases renderer t names with
    ⟨prepared, made, hrun, hprepared, hall, hlaid⟩ | ⟨error, made, hrun, -⟩
  · obtain ⟨prepared', hprepared', hmem⟩ := exists_prepareAll hnames hprepared
    rcases r.run_cases renderer t names' with
      ⟨again, after', hrun', hagain, -, hlaid'⟩ | ⟨error, after', -, hnot⟩
    · obtain rfl : prepared' = again := Except.ok.inj (hprepared'.symm.trans hagain)
      obtain rfl : made = after := congrArg Prod.snd (hrun.symm.trans h)
      exact ⟨after', hrun', fun l => (hlaid.congr (Renderer.same_layoutAll hmem)).unique hlaid' l⟩
    · exact absurd (hall.congr hmem) (hnot prepared' hprepared')
  · rw [hrun] at h
    simp at h

/-- **The order of a release makes no difference to what is rendered.** Whether it succeeds, what
every location holds afterwards and what becomes of each application do not depend on it. -/
theorem rendered_in_any_order (r : Release) (renderer : Renderer) (t : FileTree)
    (hperm : names.Perm names') :
    ((∃ all after, r.run t names renderer.sink t = (.ok all, after)) ↔
      ∃ all after, r.run t names' renderer.sink t = (.ok all, after)) ∧
    ∀ all after all' after', r.run t names renderer.sink t = (.ok all, after) →
      r.run t names' renderer.sink t = (.ok all', after') →
      (∀ l, after.node? l = after'.node? l) ∧ all.Perm all' ∧
        ∃ outcome : String → Released, (∀ name, (outcome name).application = name) ∧
          all = names.map outcome ∧ all' = names'.map outcome := by
  have hnames : ∀ name, name ∈ names ↔ name ∈ names' := fun name => hperm.mem_iff
  refine ⟨⟨?_, ?_⟩, ?_⟩
  · rintro ⟨all, after, hrun⟩
    obtain ⟨after', hrun', -⟩ := run_of_same_members renderer hnames hrun
    exact ⟨_, after', hrun'⟩
  · rintro ⟨all, after, hrun⟩
    obtain ⟨after', hrun', -⟩ := run_of_same_members renderer (fun name => (hnames name).symm) hrun
    exact ⟨_, after', hrun'⟩
  · intro all after all' after' hrun hrun'
    obtain ⟨made, hmade, hkept⟩ := run_of_same_members renderer hnames hrun
    obtain ⟨again, hagain, -⟩ := run_of_same_members renderer (fun _ => Iff.rfl) hrun
    obtain ⟨hall, -⟩ := Prod.mk.inj (hrun.symm.trans hagain)
    obtain ⟨hall', hafter⟩ := Prod.mk.inj (hrun'.symm.trans hmade)
    rw [Except.ok.inj hall, Except.ok.inj hall', hafter]
    exact ⟨hkept, hperm.map _, r.outcome renderer t, r.application_outcome renderer t, rfl, rfl⟩

/-- The files of a machine with the secrets of two applications. -/
def sharedFiles : FileTree where
  nodes := [([".secrets"], .directory), ([".secrets", "local"], .directory),
    ([".secrets", "local", "react-web.env"], .file []),
    ([".secrets", "local", "grpc-mongo.env"], .file (Text.bytesOf
      ("MONGODB_USERNAME=a\nMONGODB_PASSWORD=b\n" ++
        "MONGODB_ROOT_USERNAME=c\nMONGODB_ROOT_PASSWORD=d\n")))]

/-- Two applications are rendered into the directory that has the secrets. -/
theorem rendered_in_any_order_shared :
    ["react-web", "grpc-mongo"].Perm ["grpc-mongo", "react-web"] ∧
    ∃ all after all' after',
      localRelease.run sharedFiles ["react-web", "grpc-mongo"] (Renderer.mk "").sink sharedFiles =
        (.ok all, after) ∧
      localRelease.run sharedFiles ["grpc-mongo", "react-web"] (Renderer.mk "").sink sharedFiles =
        (.ok all', after') ∧
      (∀ l, after.node? l = after'.node? l) ∧ all.Perm all' := by
  have hperm : ["react-web", "grpc-mongo"].Perm ["grpc-mongo", "react-web"] := by decide
  have hok : (localRelease.run sharedFiles ["react-web", "grpc-mongo"] (Renderer.mk "").sink
      sharedFiles).1.toOption.isSome = true := by decide +kernel
  obtain ⟨hsucceeds, hagree⟩ := rendered_in_any_order localRelease ⟨""⟩ sharedFiles hperm
  rcases localRelease.run_cases ⟨""⟩ sharedFiles ["react-web", "grpc-mongo"] with
    ⟨prepared, after, hrun, -⟩ | ⟨error, after, hrun, -⟩
  · obtain ⟨all', after', hrun'⟩ := hsucceeds.mp ⟨_, _, hrun⟩
    obtain ⟨hsame, hpermuted, -⟩ := hagree _ _ _ _ hrun hrun'
    exact ⟨hperm, _, _, _, _, hrun, hrun', hsame, hpermuted⟩
  · rw [hrun] at hok
    exact absurd hok (by simp [Except.toOption])

end Release

end AppRelease
