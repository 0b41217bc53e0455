import AppRelease.Proofs.Assembly
import AppRelease.Proofs.Changes
import AppRelease.Proofs.Numeral
import AppRelease.Proofs.Separation

/-!
# Rendering writes its own files

Program: `Renderer.render` makes the directory of an application and writes one file for each of its
objects, numbered in order. It stops at the first file that cannot be written.

Specification: `Renderer.render_writes_own_files`. Whatever the tree looks like, the objects of a
configuration that was built go to files of their own and every other file stays. If rendering
fails, it has changed the files of the first objects and not those of all.

1. **Names.** What is joined to a path is a name (`Path.IsName`): application and namespace are
   labels, and the name of a file starts with a number and a hyphen (`Manifest.isName_fileName`). So
   no object leaves the output directory, and the number can be read off a file's name
   (`Manifest.index_of_fileName`).
2. **One file after the other.** `Renderer.layout` says what is to be there, without an order.
   Writing the files succeeds exactly when the tree admits the layout, and then it is there
   (`writeFrom_cases`, `render_cases`).
3. **The crux.** The directory is part of the layout of each file, so a step of the induction puts
   together two layouts that share it. This is where the layouts have to be consistent, and they are
   because their numbers differ (`consistent_files`). To render again is to put together a layout
   with itself.
-/

namespace AppRelease

/-! ## Names below a path -/

namespace Path

/-- A text that is the name of one file or directory. -/
structure IsName (s : String) : Prop where
  nonempty : s ≠ ""
  notDot : s ≠ "."
  notDots : s ≠ ".."
  noStroke : '/' ∉ s.toList

section Names

variable {name : String}

theorem IsName.toList_ne_nil (h : IsName name) : name.toList ≠ [] :=
  fun hnil => h.nonempty (String.toList_inj.mp hnil)

theorem IsName.steps_eq (h : IsName name) : steps name = [.into name] :=
  steps_name h.noStroke h.toList_ne_nil (fun hdot => h.notDot (String.toList_inj.mp hdot))
    fun hdots => h.notDots (String.toList_inj.mp hdots)

theorem IsName.not_absolute (h : IsName name) : isAbsolute name = false :=
  isAbsolute_eq_false h.noStroke

/-- A name below a path is the last piece of the whole. -/
theorem IsName.pieces_join (h : IsName name) (base : String) :
    ∃ front, Text.pieces '/' (join base name).toList = front ++ [name.toList] := by
  by_cases hbase : base = ""
  · refine ⟨[], ?_⟩
    rw [hbase, join_empty, Text.pieces_of_not_mem h.noStroke]
    rfl
  · obtain ⟨front, -, hjoined⟩ := toList_join hbase h.not_absolute
    exact ⟨Text.pieces '/' front,
      by rw [hjoined, Text.pieces_append, Text.pieces_of_not_mem h.noStroke]⟩

theorem IsName.endsInDirectory_join (h : IsName name) (base : String) :
    endsInDirectory (join base name) = false := by
  obtain ⟨front, hpieces⟩ := h.pieces_join base
  have hdot : name.toList ≠ ['.'] := fun hdot => h.notDot (String.toList_inj.mp hdot)
  simp [endsInDirectory, hpieces, h.toList_ne_nil, hdot]

theorem IsName.endsInDot_join (h : IsName name) (base : String) :
    endsInDot (join base name) = false := by
  obtain ⟨front, hpieces⟩ := h.pieces_join base
  have hdot : name.toList ≠ ['.'] := fun hdot => h.notDot (String.toList_inj.mp hdot)
  simp [endsInDot, hpieces, h.toList_ne_nil, hdot]

/-- What goes between a path and what is put below it. -/
def strokeAfter (base : String) : String :=
  if base.toList.getLast? == none || base.toList.getLast? == some '/' then "" else "/"

theorem join_eq {below : String} (base : String) (h : isAbsolute below = false) :
    join base below = base ++ strokeAfter base ++ below := by
  rw [join, strokeAfter, h, if_neg Bool.false_ne_true]
  split
  · rw [String.append_empty]
  · rfl

theorem IsName.not_absolute_append (h : IsName name) (rest : String) :
    isAbsolute (name ++ rest) = false := by
  obtain ⟨first, others, hname⟩ := List.exists_cons_of_ne_nil h.toList_ne_nil
  have hfirst : first ≠ '/' := fun heq => h.noStroke (by rw [hname, heq]; exact List.mem_cons_self)
  simpa [isAbsolute, hname] using hfirst

/-- What is below a name below a path is below the path. -/
theorem IsName.join_join (h : IsName name) (base : String) {below : String}
    (hbelow : isAbsolute below = false) :
    join (join base name) below = join base (name ++ ("/" ++ below)) := by
  have hwhole := h.not_absolute_append ("/" ++ below)
  have hstroke : strokeAfter (base ++ strokeAfter base ++ name) = "/" := by
    -- the whole ends as the name does, and that is no stroke
    obtain ⟨last, hlast⟩ :=
      Option.ne_none_iff_exists'.mp (mt List.getLast?_eq_none_iff.mp h.toList_ne_nil)
    have hne : last ≠ '/' := fun heq => h.noStroke (heq ▸ List.mem_of_getLast? hlast)
    simp [strokeAfter, List.getLast?_append, hlast, hne]
  rw [join_eq _ hbelow, join_eq base h.not_absolute, join_eq base hwhole, hstroke]
  simp only [String.append_assoc]

end Names

end Path

/-! ## Names of files -/

theorem isName_of_isLabel {s : String} (h : isLabel s = true) : Path.IsName s := by
  have hpoint : '.' ∉ s.toList := not_mem_of_isLabel h (by decide)
  refine ⟨?_, ?_, ?_, not_mem_of_isLabel h (by decide)⟩
  · rintro rfl
    exact ne_nil_of_isLabel h rfl
  · rintro rfl
    exact hpoint (by decide)
  · rintro rfl
    exact hpoint (by decide)

theorem isDigit_of_mem_twoDigits {n : Nat} {c : Char} (h : c ∈ (twoDigits n).toList) :
    c.isDigit = true := by
  rw [twoDigits] at h
  split at h
  · rw [String.toList_append, List.mem_append] at h
    rcases h with hzero | hdigit
    · rw [List.mem_singleton.mp hzero]
      decide
    · exact Numeral.isDigit_of_mem_decimal hdigit
  · exact Numeral.isDigit_of_mem_decimal h

/-- A number is the value of its two digits or more. -/
theorem ofDigitChars_twoDigits (n : Nat) : Nat.ofDigitChars 10 (twoDigits n).toList 0 = n := by
  have hdecimal : Nat.ofDigitChars 10 (Numeral.decimal n).toList 0 = n := by
    rw [Numeral.decimal, String.toList_ofList, Nat.ofDigitChars_ten_toDigits]
  rw [twoDigits]
  split
  · -- a zero in front adds nothing
    rw [String.toList_append]
    exact (Nat.ofDigitChars_cons ..).trans hdecimal
  · exact hdecimal

namespace Manifest

theorem toList_fileName (m : Manifest) (index : Nat) : (m.fileName index).toList =
    (twoDigits index).toList ++
      '-' :: ((Text.smallLetters m.kind).toList ++ '-' :: (m.name.toList ++ ".yaml".toList)) := by
  simp [fileName]

/-- **The name of a file tells its number.** -/
theorem index_of_fileName {m n : Manifest} {i j : Nat}
    (h : m.fileName i = n.fileName j) : i = j := by
  have hcut : ∀ (m : Manifest) (i : Nat), ∃ rest,
      Text.cutAt '-' (m.fileName i).toList = some ((twoDigits i).toList, rest) := by
    intro m i
    refine ⟨_, Text.cutAt_eq_some_iff.mpr ⟨m.toList_fileName i, fun hmem => ?_⟩⟩
    exact absurd (isDigit_of_mem_twoDigits hmem) (by decide)
  obtain ⟨rest, hi⟩ := hcut m i
  obtain ⟨rest', hj⟩ := hcut n j
  rw [h, hj, Option.some.injEq, Prod.mk.injEq] at hi
  rw [← ofDigitChars_twoDigits i, ← hi.1, ofDigitChars_twoDigits]

/-- The name of the file of an object is a name if the object has no stroke in its own. -/
theorem isName_fileName {m : Manifest} (h : '/' ∉ m.name.toList) (index : Nat) :
    Path.IsName (m.fileName index) := by
  have hlist := m.toList_fileName index
  have hlength : 3 ≤ (m.fileName index).toList.length := by
    rw [hlist]
    simp
    omega
  have hkind : '/' ∉ (Text.smallLetters m.kind).toList := by
    have hall : ∀ kind ∈
        ["Namespace", "ConfigMap", "Secret", "Deployment", "Service", "Application"],
        '/' ∉ (Text.smallLetters kind).toList := by decide
    exact hall m.kind (by cases m <;> simp [kind])
  have hdigits : '/' ∉ (twoDigits index).toList :=
    fun hmem => absurd (isDigit_of_mem_twoDigits hmem) (by decide)
  refine ⟨?_, ?_, ?_, ?_⟩
  · intro heq
    rw [heq] at hlength
    exact absurd hlength (by decide)
  · intro heq
    rw [heq] at hlength
    exact absurd hlength (by decide)
  · intro heq
    rw [heq] at hlength
    exact absurd hlength (by decide)
  · rw [hlist]
    simp [hdigits, hkind, h]

end Manifest

/-! ## Sets of objects -/

/-- Application and namespace are labels, and no object has a stroke in its name. -/
structure ManifestSet.WellNamed (s : ManifestSet) : Prop where
  application : isLabel s.application = true
  nameSpace : isLabel s.nameSpace = true
  objects : ∀ m ∈ s.manifests, '/' ∉ m.name.toList

/-- The names in a configuration that was built are labels. -/
theorem Defaults.isLabel_of_build {d : Defaults} {known : Variables} {secrets : Secrets.Bundle}
    {c : AppConfig} (hbuild : d.build known secrets = .ok c) :
    isLabel c.name = true ∧ isLabel c.nameSpace = true := by
  obtain ⟨hfaults, -, -, image, -, rfl⟩ := build_eq_ok_iff.mp hbuild
  have haccepted := faults_eq_nil_iff.mp hfaults
  exact ⟨haccepted.name, haccepted.nameSpace⟩

/-- A namespace is called what the configuration calls it. -/
theorem AppConfig.name_of_nameSpace {c : AppConfig} {e : Environment} {project : Project}
    {s : ManifestSet} {m : Manifest} (h : c.manifests e project = .ok s) (hm : m ∈ s.manifests)
    (hkind : m.kind = "Namespace") :
    m.name = c.nameSpace := by
  obtain ⟨-, extra, hextra, rfl⟩ := manifests_eq_ok_iff.mp h
  rcases List.mem_append.mp hm with hfixed | hadded
  · simp only [List.mem_cons, List.not_mem_nil, or_false] at hfixed
    rcases hfixed with rfl | rfl | rfl | rfl | rfl
    · rfl
    all_goals exact absurd hkind (by simp [Manifest.kind])
  · rcases argoManifests_cases hextra with rfl | ⟨a, rfl⟩
    · exact absurd hadded (by simp)
    · rw [List.mem_singleton.mp hadded] at hkind
      exact absurd hkind (by simp [Manifest.kind])

/-- **The objects of a configuration are well named**, when the configuration is. -/
theorem AppConfig.wellNamed {c : AppConfig} {e : Environment} {project : Project} {s : ManifestSet}
    (hname : isLabel c.name = true) (hnameSpace : isLabel c.nameSpace = true)
    (h : c.manifests e project = .ok s) :
    s.WellNamed := by
  have hstroke : ∀ {label : String}, isLabel label = true → '/' ∉ label.toList :=
    fun hlabel => not_mem_of_isLabel hlabel (by decide)
  have hending : ∀ kind, '/' ∉ (objectEnding kind e).toList := by
    intro kind
    rw [objectEnding]
    split
    · decide
    split
    · decide
    split
    · rw [String.toList_append]
      simp [hstroke e.isLabel_name]
    · decide
  have hobjects : ∀ m ∈ s.manifests, '/' ∉ m.name.toList := by
    intro m hm
    by_cases hkind : m.kind = "Namespace"
    · rw [name_of_nameSpace h hm hkind]
      exact hstroke hnameSpace
    · rw [name_of_mem h hm hkind, String.toList_append, List.mem_append, not_or]
      exact ⟨hstroke hname, hending m.kind⟩
  obtain ⟨-, extra, -, rfl⟩ := manifests_eq_ok_iff.mp h
  exact ⟨hname, hnameSpace, hobjects⟩

namespace Renderer

/-! ## Writing the objects of a directory -/

/-- The paths of objects in a directory, numbered from a number on. -/
def paths (directory : String) (index : Nat) (objects : List Manifest) : List String :=
  (objects.zipIdx index).map fun e => filePath directory e.2 e.1

/-- The files of objects in a directory, numbered from a number on. -/
def files (t : FileTree) (directory : String) (index : Nat) (objects : List Manifest) :
    List (Location × List UInt8) :=
  (objects.zipIdx index).map fun e =>
    (t.locate (filePath directory e.2 e.1), Text.bytesOf e.1.toYaml)

/-- A directory with the files of objects. -/
def layout (t : FileTree) (directory : String) (index : Nat) (objects : List Manifest) : Layout :=
  ⟨FileTree.entered (t.start directory) (Path.steps directory), files t directory index objects⟩

/-- Every path of an object can be used. -/
def PathsFit (directory : String) (index : Nat) (objects : List Manifest) : Prop :=
  ∀ e ∈ objects.zipIdx index,
    FileTree.Usable (filePath directory e.2 e.1) ∧ FileTree.nameFits (e.1.fileName e.2) = true

section Directory

variable {t t' : FileTree} {directory : String} {index : Nat} {objects : List Manifest}
  {m : Manifest}

theorem pathsFit_cons : PathsFit directory index (m :: objects) ↔
    (FileTree.Usable (filePath directory index m) ∧ FileTree.nameFits (m.fileName index) = true) ∧
      PathsFit directory (index + 1) objects := by
  rw [PathsFit, List.zipIdx_cons, List.forall_mem_cons]
  rfl

/-- The path of an object is its name below the directory. -/
theorem steps_filePath (hm : '/' ∉ m.name.toList) (directory : String) (index : Nat) :
    Path.steps (filePath directory index m) =
      Path.steps directory ++ [.into (m.fileName index)] := by
  have hname := Manifest.isName_fileName hm index
  rw [filePath, Path.steps_join hname.not_absolute, hname.steps_eq]

theorem start_filePath (hm : '/' ∉ m.name.toList) (t : FileTree) (directory : String)
    (index : Nat) :
    t.start (filePath directory index m) = t.start directory := by
  rw [FileTree.start, FileTree.start, filePath,
    Path.isAbsolute_join (Manifest.isName_fileName hm index).not_absolute]

/-- The file of an object stands in the directory. -/
theorem locate_filePath (hm : '/' ∉ m.name.toList) (t : FileTree) (directory : String)
    (index : Nat) :
    t.locate (filePath directory index m) = t.locate directory ++ [m.fileName index] := by
  rw [t.locate_of_steps (steps_filePath hm directory index), start_filePath hm, FileTree.locate]

theorem layout_congr (h : t'.working = t.working) (directory : String) (index : Nat)
    (objects : List Manifest) :
    layout t' directory index objects = layout t directory index objects := by
  simp only [layout, files, FileTree.locate_congr h, FileTree.start_congr h]

theorem layout_cons (t : FileTree) (directory : String) (index : Nat) (m : Manifest)
    (rest : List Manifest) :
    (Layout.append
      ⟨FileTree.entered (t.start directory) (Path.steps directory),
        [(t.locate (filePath directory index m), Text.bytesOf m.toYaml)]⟩
      (layout t directory (index + 1) rest)).Same (layout t directory index (m :: rest)) := by
  refine ⟨fun l => ?_, fun f => ?_⟩
  · simp [Layout.append, layout]
  · simp [Layout.append, layout, files, List.zipIdx_cons]

/-- Files of different numbers stand in different locations. -/
theorem consistent_files (hplain : ∀ n ∈ m :: objects, '/' ∉ n.name.toList) :
    Layout.Consistent [(t.locate (filePath directory index m), Text.bytesOf m.toYaml)]
      (files t directory (index + 1) objects) := by
  intro f hf g hg hlocation
  obtain ⟨⟨n, j⟩, hn, rfl⟩ := List.mem_map.mp hg
  obtain ⟨hle, -, hmem⟩ := List.mem_zipIdx hn
  have hnplain : '/' ∉ n.name.toList :=
    hplain n (List.mem_cons_of_mem _ (hmem ▸ List.getElem_mem _))
  rw [List.mem_singleton.mp hf, locate_filePath (hplain m List.mem_cons_self),
    locate_filePath hnplain, List.append_right_inj, List.singleton_inj] at hlocation
  have hindex := Manifest.index_of_fileName hlocation
  omega

-- only what `write` gives is looked at here, so it is kept closed
attribute [local irreducible] FileTree.write in
theorem writeFrom_cons (directory : String) (index : Nat) (m : Manifest) (rest : List Manifest)
    (t : FileTree) :
    writeFrom directory index (m :: rest) t =
      match t.write (filePath directory index m) (Text.bytesOf m.toYaml) with
      | (.error fault, t) => (.error (.io fault), t)
      | (.ok (), t) =>
        match writeFrom directory (index + 1) rest t with
        | (.error error, t) => (.error error, t)
        | (.ok paths, t) => (.ok (filePath directory index m :: paths), t) := rfl

/-- **What comes of writing the objects of a directory** that is there. All of them are written, or
those before the first that cannot be. -/
theorem writeFrom_cases (directory : String) (index : Nat) (objects : List Manifest) (t : FileTree)
    (hplain : ∀ m ∈ objects, '/' ∉ m.name.toList)
    (hreach : t.Reaches (t.start directory) (Path.steps directory)) :
    (∃ after, writeFrom directory index objects t = (.ok (paths directory index objects), after) ∧
      (PathsFit directory index objects ∧ t.Admits (layout t directory index objects)) ∧
      t.LaidOut (layout t directory index objects) after) ∨
    ∃ error after written m rest, writeFrom directory index objects t = (.error error, after) ∧
      ¬ (PathsFit directory index objects ∧ t.Admits (layout t directory index objects)) ∧
      objects = written ++ m :: rest ∧ t.Admits (layout t directory index written) ∧
      t.LaidOut (layout t directory index written) after := by
  induction objects generalizing index t with
  | nil =>
    refine .inl ⟨t, rfl, ⟨by simp [PathsFit], hreach.allows.admits⟩, FileTree.laidOut_self hreach⟩
  | cons m rest ih =>
    have hm := hplain m List.mem_cons_self
    have hrest : ∀ n ∈ rest, '/' ∉ n.name.toList := fun n hn => hplain n (List.mem_cons_of_mem _ hn)
    have hname := Manifest.isName_fileName hm index
    have hcases :=
      FileTree.write_cases (t := t) (Text.bytesOf m.toYaml) (steps_filePath hm directory index)
      (hname.endsInDirectory_join directory) (by rw [start_filePath hm]; exact hreach)
    rw [start_filePath hm] at hcases
    rw [writeFrom_cons]
    rcases hcases with ⟨one, hwrite, ⟨husable, hfits, hadmits⟩, hlaid⟩ | ⟨fault, hwrite, hnot⟩
    · -- the first is written, and the others are written into what that leaves
      have hstart : one.start directory = t.start directory :=
        FileTree.start_congr hlaid.working directory
      have hreach' : one.Reaches (one.start directory) (Path.steps directory) := by
        rw [hstart]
        exact ⟨hreach.names, hlaid.directories⟩
      have hcases' := ih (index + 1) one hrest hreach'
      simp only [layout_congr hlaid.working] at hcases'
      rw [hwrite]
      rcases hcases' with ⟨after, hothers, ⟨hfit', hadmits'⟩, hlaid'⟩ |
        ⟨error, after, written, n, left, hothers, hnot, hsplit, hadmits', hlaid'⟩
      · refine .inl ⟨after, ?_, ⟨pathsFit_cons.mpr ⟨⟨husable, hfits⟩, hfit'⟩, ?_⟩, ?_⟩
        · simp only [hothers]
          rfl
        · exact ((FileTree.admits_append_iff hadmits hlaid).mp hadmits').congr
            (layout_cons t directory index m rest)
        · exact (hlaid.append hlaid' hadmits' (consistent_files hplain)).congr
            (layout_cons t directory index m rest)
      · have hplain' : ∀ k ∈ m :: written, '/' ∉ k.name.toList := by
          intro k hk
          refine hplain k ?_
          rw [hsplit, ← List.cons_append]
          exact List.mem_append_left _ hk
        refine .inr ⟨error, after, m :: written, n, left, ?_, ?_, by rw [hsplit]; rfl, ?_, ?_⟩
        · simp only [hothers]
        · rintro ⟨hfit', hadmits'⟩
          refine hnot ⟨(pathsFit_cons.mp hfit').2,
            (FileTree.admits_append_iff hadmits hlaid).mpr ?_⟩
          exact hadmits'.congr (layout_cons t directory index m rest).symm
        · exact ((FileTree.admits_append_iff hadmits hlaid).mp hadmits').congr
            (layout_cons t directory index m written)
        · exact (hlaid.append hlaid' hadmits' (consistent_files hplain')).congr
            (layout_cons t directory index m written)
    · rw [hwrite]
      refine .inr ⟨.io fault, t, [], m, rest, rfl, ?_, rfl, hreach.allows.admits,
        FileTree.laidOut_self hreach⟩
      rintro ⟨hfit', hadmits⟩
      obtain ⟨husable, hfits⟩ := (pathsFit_cons.mp hfit').1
      exact hnot ⟨husable, hfits, (hadmits.congr (layout_cons t directory index m rest).symm).left⟩

end Directory

/-! ## Rendering an application -/

/-- Every path of an application can be used: that of its directory and those of its files. -/
structure Fits (r : Renderer) (s : ManifestSet) : Prop where
  directory : FileTree.Usable (r.directory s)
  names : FileTree.NamesFit (Path.steps (r.directory s))
  files : PathsFit (r.directory s) 0 s.manifests

variable {r : Renderer} {s : ManifestSet} {t after : FileTree}

attribute [local irreducible] FileTree.createDirectories in
theorem render_eq (r : Renderer) (s : ManifestSet) (t : FileTree) : r.render s t =
    match t.createDirectories (r.directory s) with
    | (.error fault, t) => (.error (.io fault), t)
    | (.ok (), t) => writeFrom (r.directory s) 0 s.manifests t := rfl

/-- **What comes of rendering an application.** Its layout is there, or something is in the way of
it and only files of the first objects have changed. -/
theorem render_cases (r : Renderer) (s : ManifestSet) (t : FileTree) (hs : s.WellNamed) :
    (∃ after, r.render s t = (.ok (paths (r.directory s) 0 s.manifests), after) ∧
      (r.Fits s ∧ t.Admits (layout t (r.directory s) 0 s.manifests)) ∧
      t.LaidOut (layout t (r.directory s) 0 s.manifests) after) ∨
    ∃ error after, r.render s t = (.error error, after) ∧
      ¬ (r.Fits s ∧ t.Admits (layout t (r.directory s) 0 s.manifests)) ∧
      ∃ written rest, s.manifests = written ++ rest ∧ (s.manifests ≠ [] → rest ≠ []) ∧
        t.FilesBecome (files t (r.directory s) 0 written) after := by
  have hdot : Path.endsInDot (r.directory s) = false :=
    (isName_of_isLabel hs.application).endsInDot_join _
  have hsame : ∀ objects, (Layout.append
      ⟨FileTree.entered (t.start (r.directory s)) (Path.steps (r.directory s)), []⟩
      (layout t (r.directory s) 0 objects)).Same (layout t (r.directory s) 0 objects) :=
    fun objects => Layout.same_append_of_mem (fun _ hl => hl) (by simp)
  rw [render_eq]
  rcases t.createDirectories_cases hdot with
    ⟨made, hcreate, ⟨husable, hallows⟩, hlaid⟩ | ⟨fault, left, hcreate, hblocked, hleft⟩
  · have hstart : made.start (r.directory s) = t.start (r.directory s) :=
      FileTree.start_congr hlaid.working _
    have hreach : made.Reaches (made.start (r.directory s)) (Path.steps (r.directory s)) := by
      rw [hstart]
      exact ⟨hallows.names, hlaid.directories⟩
    have hcases := writeFrom_cases (r.directory s) 0 s.manifests made hs.objects hreach
    simp only [layout_congr hlaid.working] at hcases
    rw [hcreate]
    rcases hcases with ⟨after, hwrite, ⟨hfit, hadmits⟩, hlaid'⟩ |
      ⟨error, after, written, m, rest, hwrite, hnot, hsplit, hadmits, hlaid'⟩
    · refine .inl ⟨after, hwrite, ⟨⟨husable, hallows.names, hfit⟩, ?_⟩, ?_⟩
      · exact ((FileTree.admits_append_iff hallows.admits hlaid).mp hadmits).congr
          (hsame s.manifests)
      · exact (hlaid.append hlaid' hadmits (by simp [Layout.Consistent])).congr (hsame s.manifests)
    · refine .inr ⟨error, after, hwrite, ?_, written, m :: rest, hsplit, by simp, ?_⟩
      · rintro ⟨hfits, hadmits⟩
        refine hnot ⟨hfits.files, (FileTree.admits_append_iff hallows.admits hlaid).mpr ?_⟩
        exact hadmits.congr (hsame s.manifests).symm
      · exact (hlaid.filesBecome hallows.admits).trans (hlaid'.filesBecome hadmits)
  · rw [hcreate]
    refine .inr ⟨.io fault, left, rfl, ?_, [], s.manifests, rfl, id, hleft⟩
    rintro ⟨hfits, hadmits⟩
    refine hblocked ⟨hfits.directory, hfits.names, ?_⟩
    exact FileTree.admits_directories_iff.mpr hadmits.directories

/-- What is rendered a second time is as it was. -/
theorem render_again (hs : s.WellNamed) (hfits : r.Fits s)
    (hadmits : t.Admits (layout t (r.directory s) 0 s.manifests))
    (hlaid : t.LaidOut (layout t (r.directory s) 0 s.manifests) after) :
    ∃ again, r.render s after = (.ok (paths (r.directory s) 0 s.manifests), again) ∧
      ∀ l, again.node? l = after.node? l := by
  have hcases := r.render_cases s after hs
  simp only [layout_congr hlaid.working] at hcases
  rcases hcases with ⟨again, hrender, -, hlaid'⟩ | ⟨error, again, -, hnot, -⟩
  · exact ⟨again, hrender, hlaid.node?_of_again hlaid'⟩
  · exact absurd ⟨hfits, hlaid.admits_again hadmits⟩ hnot

/-- Each file can be read where it was written. -/
theorem nodeAt?_of_rendered (hs : s.WellNamed) (hfits : r.Fits s)
    (hlaid : t.LaidOut (layout t (r.directory s) 0 s.manifests) after) {i : Nat} {m : Manifest}
    (hm : s.manifests[i]? = some m) :
    after.nodeAt? (filePath (r.directory s) i m) = some (.file (Text.bytesOf m.toYaml)) := by
  have hmem : (m, i) ∈ s.manifests.zipIdx := List.mem_zipIdx_iff_getElem?.mpr hm
  have hplain : '/' ∉ m.name.toList := hs.objects m (List.mem_of_getElem? hm)
  obtain ⟨husable, hname⟩ := hfits.files (m, i) hmem
  refine FileTree.nodeAt?_of_file (steps_filePath hplain _ i)
    ((Manifest.isName_fileName hplain i).endsInDirectory_join _) husable hname ?_ ?_
  · rw [start_filePath hplain, FileTree.start_congr hlaid.working]
    exact ⟨hfits.names, hlaid.directories⟩
  · have hfile : (t.locate (filePath (r.directory s) i m), Text.bytesOf m.toYaml) ∈
        (layout t (r.directory s) 0 s.manifests).files := by
      rw [layout, files]
      exact List.mem_map.mpr ⟨(m, i), hmem, rfl⟩
    rw [FileTree.locate_congr hlaid.working]
    exact hlaid.node?_of_mem hfile

/-! ## Paths of files -/

/-- A path is an output directory followed by an environment, a namespace, an application and a
file, and each of these is one name. -/
structure IsPathOf (output : String) (e : Environment) (nameSpace application file path : String) :
    Prop where
  text : path =
    Path.join output (e.name ++ ("/" ++ (nameSpace ++ ("/" ++ (application ++ ("/" ++ file))))))
  steps : Path.steps path =
    Path.steps output ++ [.into e.name, .into nameSpace, .into application, .into file]
  names : ∀ name ∈ [e.name, nameSpace, application, file], Path.IsName name

theorem isPathOf_filePath (r : Renderer) (hs : s.WellNamed) {m : Manifest} (hm : m ∈ s.manifests)
    (index : Nat) :
    IsPathOf r.outputDirectory s.environment s.nameSpace s.application (m.fileName index)
      (filePath (r.directory s) index m) := by
  have henvironment := isName_of_isLabel s.environment.isLabel_name
  have hnameSpace := isName_of_isLabel hs.nameSpace
  have happlication := isName_of_isLabel hs.application
  have hfile := Manifest.isName_fileName (hs.objects m hm) index
  refine ⟨?_, ?_, ?_⟩
  · rw [filePath, directory, happlication.join_join _ hfile.not_absolute,
      hnameSpace.join_join _ (happlication.not_absolute_append _),
      henvironment.join_join _ (hnameSpace.not_absolute_append _)]
  · rw [steps_filePath (hs.objects m hm), r.steps_directory s hs.application hs.nameSpace,
      List.append_assoc]
    rfl
  · simp [henvironment, hnameSpace, happlication, hfile]

/-- Files of different numbers stand in different locations. -/
theorem nodup_locations (t : FileTree) (directory : String) {objects : List Manifest}
    (hplain : ∀ m ∈ objects, '/' ∉ m.name.toList) :
    ((paths directory 0 objects).map t.locate).Nodup := by
  have hnumbers : (objects.zipIdx 0).Pairwise fun e f => e.2 ≠ f.2 := by
    rw [← List.pairwise_map (R := (· ≠ ·)), List.zipIdx_map_snd]
    exact List.nodup_range'
  have hmem : ∀ e ∈ objects.zipIdx 0, '/' ∉ e.1.name.toList :=
    fun e he => hplain e.1 (List.mem_of_getElem? (List.mem_zipIdx_iff_getElem?.mp he))
  rw [paths, List.map_map, List.Nodup, List.pairwise_map]
  refine hnumbers.imp_of_mem ?_
  intro e f he hf hne hlocations
  simp only [Function.comp, locate_filePath (hmem e he), locate_filePath (hmem f hf)] at hlocations
  exact hne
    (Manifest.index_of_fileName (List.singleton_inj.mp (List.append_cancel_left hlocations)))

/-! ## Rendering the objects of a configuration -/

variable {d : Defaults} {known : Variables} {secrets : Secrets.Bundle} {c : AppConfig}
  {e : Environment} {project : Project}

/-- **Rendering writes its own files.** The objects of a configuration that was built go to files of
their own, in order, three names below the output directory, and every other file stays. To render
them again changes nothing. If rendering fails, files of the first objects have changed and not
those of all. -/
theorem render_writes_own_files (hbuild : d.build known secrets = .ok c)
    (hset : c.manifests e project = .ok s) (r : Renderer) (t : FileTree) :
    (∃ (paths : List String) (after : FileTree), r.render s t = (.ok paths, after) ∧
      paths.length = s.manifests.length ∧ (paths.map t.locate).Nodup ∧
      (∀ (i : Nat) (m : Manifest), s.manifests[i]? = some m → ∃ path, paths[i]? = some path ∧
        IsPathOf r.outputDirectory e c.nameSpace c.name (m.fileName i) path ∧
        after.nodeAt? path = some (.file (Text.bytesOf m.toYaml))) ∧
      (∀ l, l ∉ paths.map t.locate → ∀ content,
        after.node? l = some (.file content) ↔ t.node? l = some (.file content)) ∧
      ∃ again, r.render s after = (.ok paths, again) ∧ ∀ l, again.node? l = after.node? l) ∨
    ∃ error after written m rest, r.render s t = (.error error, after) ∧
      s.manifests = written ++ m :: rest ∧
      t.FilesBecome (files t (r.directory s) 0 written) after := by
  obtain ⟨hname, hnameSpace⟩ := Defaults.isLabel_of_build hbuild
  have hs : s.WellNamed := AppConfig.wellNamed hname hnameSpace hset
  obtain ⟨-, extra, -, hmade⟩ := AppConfig.manifests_eq_ok_iff.mp hset
  have hwhere : s.environment = e := by rw [hmade]; rfl
  have hnameSpaceOf : s.nameSpace = c.nameSpace := by rw [hmade]; rfl
  have hnameOf : s.application = c.name := by rw [hmade]; rfl
  rcases r.render_cases s t hs with ⟨after, hrender, ⟨hfits, hadmits⟩, hlaid⟩ |
    ⟨error, after, hrender, -, written, rest, hsplit, hrest, hbecome⟩
  · refine .inl ⟨_, after, hrender, by simp [paths], nodup_locations t _ hs.objects, ?_, ?_,
      render_again hs hfits hadmits hlaid⟩
    · intro i m hm
      refine ⟨filePath (r.directory s) i m, by simp [paths, hm], ?_,
        nodeAt?_of_rendered hs hfits hlaid hm⟩
      have hpath := isPathOf_filePath r hs (List.mem_of_getElem? hm) i
      rwa [hwhere, hnameSpaceOf, hnameOf] at hpath
    · intro l hl
      refine (hlaid.filesBecome hadmits).others l ?_
      simpa [files, layout, paths] using hl
  · obtain ⟨m, others, rfl⟩ :=
      List.exists_cons_of_ne_nil (hrest (by simp [hmade, AppConfig.manifestSet]))
    exact .inr ⟨error, after, written, m, others, hrender, hsplit, hbecome⟩

/-- Trees with an old file of the application, one that has nothing to do with it, and what else is
given. -/
def demoTree (others : List (Location × Node)) : FileTree where
  nodes := others ++ [
    (["srv"], .directory),
    (["srv", "app"], .directory),
    (["srv", "out"], .directory),
    (["srv", "out", "staging"], .directory),
    (["srv", "out", "staging", "apps"], .directory),
    (["srv", "out", "staging", "apps", "demo"], .directory),
    (["srv", "out", "staging", "apps", "demo", "00-namespace-apps.yaml"], .file [0]),
    (["srv", "out", "staging", "apps", "demo", "05-ingress-demo.yaml"], .file [1])]
  working := ["srv", "app"]

/-- A tree in which a directory is in the way of the third file. -/
def blockedTree : FileTree :=
  demoTree [(["srv", "out", "staging", "apps", "demo", "02-secret-demo-secret.yaml"], .directory)]

theorem render_writes_own_files_demo : ∃ known secrets s,
    Assembly.demoDefaults.build known secrets = .ok Assembly.demoConfig ∧
    Assembly.demoConfig.manifests .staging {} = .ok s ∧
    (∃ paths after, (Renderer.mk "..//./out").render s (demoTree []) = (.ok paths, after) ∧
      paths.length = s.manifests.length ∧ (paths.map (demoTree []).locate).Nodup ∧
      (∀ l, l ∉ paths.map (demoTree []).locate → ∀ content,
        after.node? l = some (.file content) ↔ (demoTree []).node? l = some (.file content)) ∧
      ∃ again, (Renderer.mk "..//./out").render s after = (.ok paths, again) ∧
        ∀ l, again.node? l = after.node? l) ∧
    ∃ error after written m rest,
      (Renderer.mk "../out").render s blockedTree = (.error error, after) ∧
      s.manifests = written ++ m :: rest ∧
      blockedTree.FilesBecome (files blockedTree ((Renderer.mk "../out").directory s) 0 written)
        after := by
  have hbuild : Assembly.demoDefaults.build ⟨.staging, Dict.ofList [("IMAGE_TAG_DEMO", "v1")]⟩
      ⟨"demo", .staging, "vault/staging/demo.env", Dict.ofList [("DB", "cGEkSE9NRT3DqQ==")]⟩ =
        .ok Assembly.demoConfig := by decide +kernel
  have hset : Assembly.demoConfig.manifests .staging {} =
      .ok (Assembly.demoConfig.manifestSet .staging []) := by
    decide +kernel
  refine ⟨_, _, _, hbuild, hset, ?_, ?_⟩
  · rcases render_writes_own_files hbuild hset ⟨"..//./out"⟩ (demoTree []) with
      ⟨paths, after, hrender, hlength, hnodup, -, hothers, hagain⟩ |
      ⟨error, after, -, -, -, hrender, -⟩
    · exact ⟨paths, after, hrender, hlength, hnodup, hothers, hagain⟩
    · have hok : ((Renderer.mk "..//./out").render (Assembly.demoConfig.manifestSet .staging [])
          (demoTree [])).1.toOption.isSome = true := by decide +kernel
      rw [hrender] at hok
      exact absurd hok (by simp [Except.toOption])
  · rcases render_writes_own_files hbuild hset ⟨"../out"⟩ blockedTree with
      ⟨paths, after, hrender, -⟩ | hfails
    · have herror : ((Renderer.mk "../out").render (Assembly.demoConfig.manifestSet .staging [])
          blockedTree).1.toOption.isSome = false := by decide +kernel
      rw [hrender] at herror
      exact absurd herror (by simp [Except.toOption])
    · exact hfails

end Renderer

end AppRelease
