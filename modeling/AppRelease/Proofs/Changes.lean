import AppRelease.Proofs.Layout

/-!
# Making directories and writing files

Program: directories are made and files are written by paths, and a path is followed from where it
starts. Each may fail, and what was done before stays.

1. **Steps.** There are no links, so where steps lead to is known without the tree:
   `FileTree.target` is the last location and `FileTree.entered` are all locations that are entered
   on the way. `directoryAt_cases` says what comes of following steps in terms of these.
2. **The crux (`makeAll_cases`).** Directories are tried from the last one backwards, and made from
   the first missing one forwards. For all that, they are made exactly when nothing is in the way,
   and then all that are entered are there.
3. **Paths.** `createDirectories_cases` and `write_cases` give the layout of each change, and say
   that the change succeeds exactly when the path can be used and the layout is admitted.
-/

namespace AppRelease

namespace FileTree

/-! ## Where steps lead to -/

/-- The location that steps lead to. -/
def target (base : Location) : List Path.Step → Location
  | [] => base
  | .up :: rest => target base.dropLast rest
  | .into name :: rest => target (base ++ [name]) rest

/-- The locations that are entered on the way, from the first to the last. -/
def entered (base : Location) : List Path.Step → List Location
  | [] => []
  | .up :: rest => entered base.dropLast rest
  | .into name :: rest => (base ++ [name]) :: entered (base ++ [name]) rest

/-- Every name among steps can be the name of a file. -/
def NamesFit (steps : List Path.Step) : Prop := ∀ name, .into name ∈ steps → nameFits name = true

/-- The location of a path. -/
def locate (t : FileTree) (path : String) : Location := target (t.start path) (Path.steps path)

/-- Every location on the way is a directory. -/
structure Reaches (t : FileTree) (base : Location) (steps : List Path.Step) : Prop where
  names : NamesFit steps
  directories : ∀ l ∈ entered base steps, t.node? l = some .directory

/-- No file is on the way. -/
structure Allows (t : FileTree) (base : Location) (steps : List Path.Step) : Prop where
  names : NamesFit steps
  admits : t.Admits ⟨entered base steps, []⟩

section Steps

variable {t t' t'' : FileTree} {base : Location} {steps rest : List Path.Step} {step : Path.Step}
  {name : String}

theorem target_append (base : Location) (steps rest : List Path.Step) :
    target base (steps ++ rest) = target (target base steps) rest := by
  induction steps generalizing base with
  | nil => rfl
  | cons step steps ih => cases step <;> exact ih _

theorem entered_append (base : Location) (steps rest : List Path.Step) :
    entered base (steps ++ rest) = entered base steps ++ entered (target base steps) rest := by
  induction steps generalizing base with
  | nil => rfl
  | cons step steps ih =>
    cases step with
    | up => exact ih _
    | into name => exact congrArg _ (ih _)

theorem namesFit_append : NamesFit (steps ++ rest) ↔ NamesFit steps ∧ NamesFit rest := by
  simp only [NamesFit, List.mem_append]
  constructor
  · intro h
    exact ⟨fun name hname => h name (.inl hname), fun name hname => h name (.inr hname)⟩
  · rintro ⟨h, h'⟩ name (hname | hname)
    · exact h name hname
    · exact h' name hname

theorem namesFit_into : NamesFit [.into name] ↔ nameFits name = true := by simp [NamesFit]

theorem admits_directories_iff {directories : List Location} : t.Admits ⟨directories, []⟩ ↔
    ∀ l ∈ directories, ∀ content, t.node? l ≠ some (.file content) :=
  ⟨fun h => h.directories, fun h => ⟨h, by simp, by simp⟩⟩

theorem Reaches.allows (h : t.Reaches base steps) : t.Allows base steps := by
  refine ⟨h.names, admits_directories_iff.mpr fun l hl content => ?_⟩
  simp [h.directories l hl]

/-- Steps are allowed when the first of them are, and then the others. -/
theorem allows_append_iff : t.Allows base (steps ++ rest) ↔
    t.Allows base steps ∧ t.Allows (target base steps) rest := by
  constructor
  · rintro ⟨hnames, hadmits⟩
    rw [namesFit_append] at hnames
    rw [entered_append, admits_directories_iff, List.forall_mem_append] at hadmits
    exact ⟨⟨hnames.1, admits_directories_iff.mpr hadmits.1⟩, hnames.2,
      admits_directories_iff.mpr hadmits.2⟩
  · rintro ⟨⟨hnames, hadmits⟩, hnames', hadmits'⟩
    refine ⟨namesFit_append.mpr ⟨hnames, hnames'⟩, ?_⟩
    rw [admits_directories_iff] at hadmits hadmits' ⊢
    rw [entered_append, List.forall_mem_append]
    exact ⟨hadmits, hadmits'⟩

theorem reaches_append_iff : t.Reaches base (steps ++ rest) ↔
    t.Reaches base steps ∧ t.Reaches (target base steps) rest := by
  constructor
  · rintro ⟨hnames, hdirectories⟩
    rw [namesFit_append] at hnames
    rw [entered_append, List.forall_mem_append] at hdirectories
    exact ⟨⟨hnames.1, hdirectories.1⟩, hnames.2, hdirectories.2⟩
  · rintro ⟨⟨hnames, hdirectories⟩, hnames', hdirectories'⟩
    refine ⟨namesFit_append.mpr ⟨hnames, hnames'⟩, ?_⟩
    rw [entered_append, List.forall_mem_append]
    exact ⟨hdirectories, hdirectories'⟩

theorem reaches_up : t.Reaches base [.up] := ⟨by simp [NamesFit], by simp [entered]⟩

theorem reaches_into_iff : t.Reaches base [.into name] ↔
    nameFits name = true ∧ t.node? (base ++ [name]) = some .directory := by
  constructor
  · rintro ⟨hnames, hdirectories⟩
    exact ⟨namesFit_into.mp hnames, hdirectories _ (by simp [entered])⟩
  · rintro ⟨hname, hnode⟩
    exact ⟨namesFit_into.mpr hname, by simpa [entered] using hnode⟩

theorem allows_into_iff : t.Allows base [.into name] ↔
    nameFits name = true ∧ ∀ content, t.node? (base ++ [name]) ≠ some (.file content) := by
  constructor
  · rintro ⟨hnames, hadmits⟩
    exact ⟨namesFit_into.mp hnames, hadmits.directories _ (by simp [entered])⟩
  · rintro ⟨hname, hnode⟩
    exact ⟨namesFit_into.mpr hname, admits_directories_iff.mpr (by simpa [entered] using hnode)⟩

/-! ## Following steps -/

/-- **What comes of following steps.** They lead to a directory; or something is missing; or
something is in the way, which is the only other way to fail. -/
theorem follow_cases (t : FileTree) (base : Location) (steps : List Path.Step) :
    t.follow base steps = .ok (target base steps, .directory) ∧ t.Reaches base steps ∨
      t.follow base steps = .error .notFound ∧ ¬ t.Reaches base steps ∨
      ((∃ there content, t.follow base steps = .ok (there, .file content)) ∨
        ∃ fault, t.follow base steps = .error fault ∧ fault ≠ .notFound) ∧
          ¬ t.Allows base steps := by
  induction steps generalizing base with
  | nil => exact .inl ⟨rfl, by simp [NamesFit], by simp [entered]⟩
  | cons step steps ih =>
    cases step with
    | up =>
      -- a step up asks for nothing
      have hreaches : t.Reaches base (.up :: steps) ↔ t.Reaches base.dropLast steps := by
        rw [← List.singleton_append, reaches_append_iff]
        exact ⟨fun h => h.2, fun h => ⟨reaches_up, h⟩⟩
      have hallows : t.Allows base (.up :: steps) ↔ t.Allows base.dropLast steps := by
        rw [← List.singleton_append, allows_append_iff]
        exact ⟨fun h => h.2, fun h => ⟨reaches_up.allows, h⟩⟩
      rw [hreaches, hallows]
      exact ih _
    | into name =>
      have hreaches : t.Reaches base (.into name :: steps) ↔
          (nameFits name = true ∧ t.node? (base ++ [name]) = some .directory) ∧
            t.Reaches (base ++ [name]) steps := by
        rw [← List.singleton_append, reaches_append_iff, reaches_into_iff]
        rfl
      have hallows : t.Allows base (.into name :: steps) ↔
          (nameFits name = true ∧ ∀ content, t.node? (base ++ [name]) ≠ some (.file content)) ∧
            t.Allows (base ++ [name]) steps := by
        rw [← List.singleton_append, allows_append_iff, allows_into_iff]
        rfl
      rw [hreaches, hallows, follow]
      by_cases hfits : nameFits name = true
      · simp only [hfits, Bool.not_true, Bool.false_eq_true, if_false]
        cases hnode : t.node? (base ++ [name]) with
        | none => exact .inr (.inl ⟨rfl, by simp⟩)
        | some node =>
          cases node with
          | directory =>
            rcases ih (base ++ [name]) with
              ⟨hfollow, hreach⟩ | ⟨hfollow, hreach⟩ | ⟨hfollow, hallow⟩
            · exact .inl ⟨hfollow, ⟨trivial, rfl⟩, hreach⟩
            · exact .inr (.inl ⟨hfollow, fun h => hreach h.2⟩)
            · exact .inr (.inr ⟨hfollow, fun h => hallow h.2⟩)
          | file content =>
            refine .inr (.inr ⟨?_, fun h => h.1.2 content rfl⟩)
            by_cases hlast : steps.isEmpty = true
            · exact .inl ⟨base ++ [name], content, by simp [hlast]⟩
            · exact .inr ⟨.notDirectory, by simp [hlast], by simp⟩
      · refine .inr (.inr ⟨.inr ⟨.nameTooLong, by simp [hfits], by simp⟩, fun h => hfits h.1.1⟩)

/-- What comes of looking for a directory. -/
theorem directoryAt_cases (t : FileTree) (base : Location) (steps : List Path.Step) :
    t.directoryAt base steps = .ok (target base steps) ∧ t.Reaches base steps ∨
      t.directoryAt base steps = .error .notFound ∧ ¬ t.Reaches base steps ∨
      (∃ fault, t.directoryAt base steps = .error fault ∧ fault ≠ .notFound) ∧
        ¬ t.Allows base steps := by
  rcases t.follow_cases base steps with ⟨hfollow, hreach⟩ | ⟨hfollow, hreach⟩ | ⟨hfollow, hallow⟩
  · exact .inl ⟨directoryAt_eq_ok_iff.mpr hfollow, hreach⟩
  · exact .inr (.inl ⟨by rw [directoryAt, hfollow]; rfl, hreach⟩)
  · refine .inr (.inr ⟨?_, hallow⟩)
    rcases hfollow with ⟨there, content, hfile⟩ | ⟨fault, hfault, hne⟩
    · exact ⟨.notDirectory, by rw [directoryAt, hfile]; rfl, by simp⟩
    · exact ⟨fault, by rw [directoryAt, hfault]; rfl, hne⟩

theorem directoryAt_eq_ok_iff_reaches : t.directoryAt base steps = .ok (target base steps) ↔
    t.Reaches base steps := by
  rcases t.directoryAt_cases base steps with
    ⟨hat, hreach⟩ | ⟨hat, hreach⟩ | ⟨⟨fault, hat, -⟩, hallow⟩
  · exact ⟨fun _ => hreach, fun _ => hat⟩
  · rw [hat]
    exact ⟨fun h => absurd h (by simp), fun h => absurd h hreach⟩
  · rw [hat]
    exact ⟨fun h => absurd h (by simp), fun h => absurd h.allows hallow⟩

theorem leadsToDirectory_iff : t.leadsToDirectory base steps = true ↔ t.Reaches base steps := by
  rw [leadsToDirectory]
  rcases t.directoryAt_cases base steps with
    ⟨hat, hreach⟩ | ⟨hat, hreach⟩ | ⟨⟨fault, hat, -⟩, hallow⟩
  · simp [hat, hreach]
  · simp [hat, hreach]
  · have hreach : ¬ t.Reaches base steps := fun h => hallow h.allows
    simp [hat, hreach]

/-! ## Making directories -/

/-- Directories on the way are asked for again with every directory below them. -/
theorem same_append_entered (base : Location) (steps rest : List Path.Step) :
    (Layout.append ⟨entered base steps, []⟩ ⟨entered base (steps ++ rest), []⟩).Same
      ⟨entered base (steps ++ rest), []⟩ := by
  refine Layout.same_append_of_mem (fun l hl => ?_) (by simp)
  rw [entered_append]
  exact List.mem_append_left _ hl

/-- Directories that are made on the way are not in the way. -/
theorem allows_of_laidOut (hallows : t.Allows base steps)
    (h : t.LaidOut ⟨entered base steps, []⟩ t') :
    t'.Allows base (steps ++ rest) ↔ t.Allows base (steps ++ rest) := by
  have hsame := same_append_entered base steps rest
  have hadmits := admits_append_iff (q := ⟨entered base (steps ++ rest), []⟩) hallows.admits h
  constructor
  · rintro ⟨hnames, hrest⟩
    exact ⟨hnames, (hadmits.mp hrest).congr hsame⟩
  · rintro ⟨hnames, hrest⟩
    exact ⟨hnames, hadmits.mpr (hrest.congr hsame.symm)⟩

/-- Directories that are made after those on the way to them. -/
theorem LaidOut.extend (h : t.LaidOut ⟨entered base steps, []⟩ t')
    (hallows : t'.Allows base (steps ++ rest))
    (h' : t'.LaidOut ⟨entered base (steps ++ rest), []⟩ t'') :
    t.LaidOut ⟨entered base (steps ++ rest), []⟩ t'' :=
  (h.append h' hallows.admits (by simp [Layout.Consistent])).congr
    (same_append_entered base steps rest)

/-- A directory that is put where nothing stands. -/
theorem laidOut_set {l : Location} (hl : l ≠ []) {directories : List Location}
    (hother : ∀ d ∈ directories, t.node? d = some .directory) :
    t.LaidOut ⟨directories ++ [l], []⟩ (t.set l .directory) := by
  refine ⟨rfl, ?_, by simp, ?_⟩
  · intro d hd
    rw [node?_set _ _ _ _ hl]
    split
    · rfl
    · rcases List.mem_append.mp hd with hd | hd
      · exact hother d hd
      · exact absurd (List.mem_singleton.mp hd) ‹_›
  · intro d hd _
    have hne : d ≠ l := fun heq => hd (List.mem_append_right _ (List.mem_singleton.mpr heq))
    rw [node?_set _ _ _ _ hl, if_neg hne]

theorem laidOut_self (h : t.Reaches base steps) : t.LaidOut ⟨entered base steps, []⟩ t :=
  ⟨rfl, h.directories, by simp, fun _ _ _ => rfl⟩

/-- **What comes of making one directory.** It is made; or it was there; or something is in the way;
or a directory before it is missing, and nothing else is reported as missing. -/
theorem makeDirectory_cases (t : FileTree) (base : Location) (parents : List Path.Step)
    (last : Path.Step) :
    (∃ made, t.makeDirectory base parents last = .ok made ∧ t.Allows base (parents ++ [last]) ∧
      t.LaidOut ⟨entered base (parents ++ [last]), []⟩ made) ∨
    (∃ fault, t.makeDirectory base parents last = .error fault ∧ fault ≠ .notFound ∧
      (t.Reaches base (parents ++ [last]) ∨ ¬ t.Allows base (parents ++ [last]))) ∨
    t.makeDirectory base parents last = .error .notFound ∧ ¬ t.Reaches base parents := by
  rcases t.directoryAt_cases base parents with
    ⟨hat, hreach⟩ | ⟨hat, hreach⟩ | ⟨⟨fault, hat, hne⟩, hallow⟩
  · cases last with
    | up =>
      refine .inr (.inl ⟨.alreadyThere, ?_, by simp,
        .inl (reaches_append_iff.mpr ⟨hreach, reaches_up⟩)⟩)
      rw [makeDirectory, hat]
      rfl
    | into name =>
      rw [reaches_append_iff, allows_append_iff, reaches_into_iff, allows_into_iff]
      by_cases hfits : nameFits name = true
      · cases hnode : t.node? (target base parents ++ [name]) with
        | none =>
          have hentered : entered base (parents ++ [.into name]) =
              entered base parents ++ [target base parents ++ [name]] := entered_append _ _ _
          have hmade : t.makeDirectory base parents (.into name) =
              .ok (t.set (target base parents ++ [name]) .directory) := by
            simp [makeDirectory, hat, bind, Except.bind, hfits, hnode, pure, Except.pure]
          refine .inl ⟨_, hmade, ⟨hreach.allows, hfits, by simp⟩, ?_⟩
          rw [hentered]
          exact laidOut_set (by simp) hreach.directories
        | some node =>
          refine .inr (.inl ⟨.alreadyThere, ?_, by simp, ?_⟩)
          · simp [makeDirectory, hat, bind, Except.bind, hfits, hnode, throw, throwThe,
              MonadExceptOf.throw]
          · cases node with
            | directory => exact .inl ⟨hreach, hfits, rfl⟩
            | file content => exact .inr fun h => h.2.2 content rfl
      · refine .inr (.inl ⟨.nameTooLong, ?_, by simp, .inr fun h => hfits h.2.1⟩)
        simp [makeDirectory, hat, bind, Except.bind, hfits, throw, throwThe, MonadExceptOf.throw]
  · exact .inr (.inr ⟨by rw [makeDirectory, hat]; rfl, hreach⟩)
  · refine .inr (.inl ⟨fault, by rw [makeDirectory, hat]; rfl, hne, .inr fun h => hallow ?_⟩)
    exact (allows_append_iff.mp h).1

/-- What comes of making sure that one directory is there. -/
theorem ensureDirectory_cases (t : FileTree) (base : Location) (parents : List Path.Step)
    (last : Path.Step) :
    (∃ made, t.ensureDirectory base parents last = (.ok (), made) ∧
      t.Allows base (parents ++ [last]) ∧
      t.LaidOut ⟨entered base (parents ++ [last]), []⟩ made) ∨
    ∃ fault, t.ensureDirectory base parents last = (.error fault, t) ∧
      (¬ t.Allows base (parents ++ [last]) ∨
      t.makeDirectory base parents last = .error .notFound ∧ ¬ t.Reaches base parents) := by
  rw [ensureDirectory]
  rcases t.makeDirectory_cases base parents last with
    ⟨made, hmake, hallows, hlaid⟩ | ⟨fault, hmake, -, hreach | hblocked⟩ | ⟨hmake, hmissing⟩
  · rw [hmake]
    exact .inl ⟨made, rfl, hallows, hlaid⟩
  · rw [hmake]
    exact .inl ⟨t, by simp [leadsToDirectory_iff.mpr hreach], hreach.allows, laidOut_self hreach⟩
  · have hreach : ¬ t.leadsToDirectory base (parents ++ [last]) = true :=
      fun h => hblocked (leadsToDirectory_iff.mp h).allows
    rw [hmake]
    exact .inr ⟨fault, by simp [hreach], .inl hblocked⟩
  · have hreach : ¬ t.leadsToDirectory base (parents ++ [last]) = true :=
      fun h => hmissing (reaches_append_iff.mp (leadsToDirectory_iff.mp h)).1
    rw [hmake]
    exact .inr ⟨.notFound, by simp [hreach], .inr ⟨rfl, hmissing⟩⟩

/-- Where nothing is missing on the way, only the last directory is made. -/
theorem makeAll_of_ne {before : List Path.Step} {last : Path.Step}
    (h : t.makeDirectory base before.reverse last ≠ .error .notFound) :
    t.makeAll base (last :: before) = t.ensureDirectory base before.reverse last := by
  rw [makeAll]
  split
  · exact absurd ‹_› h
  · rfl

/-- **What comes of making a directory with all on the way to it.** They are all there afterwards
and nothing else has changed, or something is in the way, and then no file has changed. -/
theorem makeAll_cases (t : FileTree) (base : Location) (backwards : List Path.Step) :
    (∃ made, t.makeAll base backwards = (.ok (), made) ∧ t.Allows base backwards.reverse ∧
      t.LaidOut ⟨entered base backwards.reverse, []⟩ made) ∨
    ∃ fault left, t.makeAll base backwards = (.error fault, left) ∧
      ¬ t.Allows base backwards.reverse ∧
      t.FilesBecome [] left := by
  induction backwards with
  | nil =>
    have hreach : t.Reaches base [] := ⟨by simp [NamesFit], by simp [entered]⟩
    exact .inl ⟨t, rfl, hreach.allows, laidOut_self hreach⟩
  | cons last before ih =>
    rw [List.reverse_cons]
    by_cases hmissing : t.makeDirectory base before.reverse last = .error .notFound
    · rw [makeAll, hmissing]
      rcases ih with ⟨parents, hparents, hallows, hlaid⟩ | ⟨fault, left, hparents, hblocked, hleft⟩
      · -- all on the way is there now, so nothing can be missing a second time
        have hreach : parents.Reaches base before.reverse := ⟨hallows.names, hlaid.directories⟩
        rw [hparents]
        rcases parents.ensureDirectory_cases base before.reverse last with
          ⟨made, hmake, hallows', hlaid'⟩ | ⟨fault, hmake, hblocked | ⟨-, hagain⟩⟩
        · exact .inl ⟨made, hmake, (allows_of_laidOut hallows hlaid).mp hallows',
            hlaid.extend hallows' hlaid'⟩
        · refine .inr ⟨fault, parents, hmake, ?_, hlaid.filesBecome hallows.admits⟩
          exact fun h => hblocked ((allows_of_laidOut hallows hlaid).mpr h)
        · exact absurd hreach hagain
      · rw [hparents]
        exact .inr ⟨fault, left, rfl, fun h => hblocked (allows_append_iff.mp h).1, hleft⟩
    · rw [makeAll_of_ne hmissing]
      rcases t.ensureDirectory_cases base before.reverse last with
        ⟨made, hmake, hallows, hlaid⟩ | ⟨fault, hmake, hblocked | ⟨hagain, -⟩⟩
      · exact .inl ⟨made, hmake, hallows, hlaid⟩
      · exact .inr ⟨fault, t, hmake, hblocked, .refl t⟩
      · exact absurd hagain hmissing

end Steps

/-! ## Paths -/

section Paths

variable {t : FileTree} {path : String}

/-- A path that can be followed, whatever the tree. -/
structure Usable (path : String) : Prop where
  noNul : '\x00' ∉ path.toList
  fits : pathFits path = true
  nonempty : path ≠ ""

theorem stepsOf_of_usable (h : Usable path) : stepsOf path = .ok (Path.steps path) := by
  simp [stepsOf, h.noNul, h.fits, h.nonempty]

theorem exists_stepsOf_eq_error (h : ¬ Usable path) : ∃ fault, stepsOf path = .error fault := by
  rw [stepsOf]
  split
  · exact ⟨_, rfl⟩
  split
  · exact ⟨_, rfl⟩
  split
  · exact ⟨_, rfl⟩
  · rename_i hnul hfits hempty
    exact absurd ⟨hnul, by simpa using hfits, hempty⟩ h

/-- **What comes of making the directory of a path.** -/
theorem createDirectories_cases (t : FileTree) (hdot : Path.endsInDot path = false) :
    (∃ made, t.createDirectories path = (.ok (), made) ∧
      (Usable path ∧ t.Allows (t.start path) (Path.steps path)) ∧
      t.LaidOut ⟨entered (t.start path) (Path.steps path), []⟩ made) ∨
    ∃ fault left, t.createDirectories path = (.error fault, left) ∧
      ¬ (Usable path ∧ t.Allows (t.start path) (Path.steps path)) ∧ t.FilesBecome [] left := by
  rw [createDirectories]
  by_cases husable : Usable path
  · simp only [stepsOf_of_usable husable, hdot, Bool.false_eq_true, if_false]
    rcases t.makeAll_cases (t.start path) (Path.steps path).reverse with
      ⟨made, hmake, hallows, hlaid⟩ | ⟨fault, left, hmake, hblocked, hleft⟩
    · rw [List.reverse_reverse] at hallows hlaid
      exact .inl ⟨made, hmake, ⟨husable, hallows⟩, hlaid⟩
    · rw [List.reverse_reverse] at hblocked
      exact .inr ⟨fault, left, hmake, fun h => hblocked h.2, hleft⟩
  · obtain ⟨fault, hfault⟩ := exists_stepsOf_eq_error husable
    rw [hfault]
    exact .inr ⟨fault, t, rfl, fun h => husable h.1, .refl t⟩

theorem start_congr {t' : FileTree} (h : t'.working = t.working) (path : String) :
    t'.start path = t.start path := by
  rw [start, start, h]

/-- Where a path leads to depends on the working directory only. -/
theorem locate_congr {t' : FileTree} (h : t'.working = t.working) (path : String) :
    t'.locate path = t.locate path := by
  rw [locate, locate, start_congr h]

/-- The last name of a path is the last name of its location. -/
theorem locate_of_steps (t : FileTree) {before : List Path.Step} {name : String}
    (hsteps : Path.steps path = before ++ [.into name]) :
    t.locate path = target (t.start path) before ++ [name] := by
  rw [locate, hsteps, target_append]
  rfl

/-- A file that is put where no directory stands, below directories that are there. -/
theorem laidOut_set_file {l : Location} {directories : List Location} (content : List UInt8)
    (hl : l ≠ []) (hthere : ∀ d ∈ directories, t.node? d = some .directory)
    (hnode : t.node? l ≠ some .directory) :
    t.Admits ⟨directories, [(l, content)]⟩ ∧
      t.LaidOut ⟨directories, [(l, content)]⟩ (t.set l (.file content)) := by
  have hapart : l ∉ directories := fun hmem => hnode (hthere l hmem)
  refine ⟨⟨?_, by simpa using hnode, by simpa using hapart⟩, rfl, ?_, ?_, ?_⟩
  · intro d hd other
    simp [hthere d hd]
  · intro d hd
    have hne : d ≠ l := fun heq => hapart (heq ▸ hd)
    rw [node?_set _ _ _ _ hl, if_neg hne]
    exact hthere d hd
  · simp [node?_set _ _ _ _ hl]
  · intro d _ hd
    have hne : d ≠ l := by simpa using hd
    rw [node?_set _ _ _ _ hl, if_neg hne]

/-- **What comes of writing a file** whose directory is there. -/
theorem write_cases {before : List Path.Step} {name : String} (content : List UInt8)
    (hsteps : Path.steps path = before ++ [.into name]) (hend : Path.endsInDirectory path = false)
    (hreach : t.Reaches (t.start path) before) :
    (∃ after, t.write path content = (.ok (), after) ∧
      (Usable path ∧ nameFits name = true ∧
        t.Admits ⟨entered (t.start path) before, [(t.locate path, content)]⟩) ∧
      t.LaidOut ⟨entered (t.start path) before, [(t.locate path, content)]⟩ after) ∨
    ∃ fault, t.write path content = (.error fault, t) ∧
      ¬ (Usable path ∧ nameFits name = true ∧
        t.Admits ⟨entered (t.start path) before, [(t.locate path, content)]⟩) := by
  have hlocate := t.locate_of_steps hsteps
  rw [write, hlocate]
  by_cases husable : Usable path
  · have hplace : t.place path =
        if nameFits name = true then
          if t.node? (target (t.start path) before ++ [name]) = some .directory then
            .error .isDirectory
          else .ok (target (t.start path) before ++ [name])
        else .error .nameTooLong := by
      rw [place, stepsOf_of_usable husable, hsteps]
      simp only [bind, Except.bind, List.getLast?_concat, List.dropLast_concat,
        directoryAt_eq_ok_iff_reaches.mpr hreach, hend]
      by_cases hfits : nameFits name = true
      · cases hnode : t.node? (target (t.start path) before ++ [name]) with
        | none => simp [hfits, pure, Except.pure]
        | some node =>
          cases node <;> simp [hfits, pure, Except.pure, throw, throwThe, MonadExceptOf.throw]
      · simp [hfits, throw, throwThe, MonadExceptOf.throw]
    rw [hplace]
    by_cases hfits : nameFits name = true
    · by_cases hnode : t.node? (target (t.start path) before ++ [name]) = some .directory
      · rw [if_pos hfits, if_pos hnode]
        exact .inr ⟨_, rfl, fun h => h.2.2.files _ (List.mem_singleton.mpr rfl) hnode⟩
      · rw [if_pos hfits, if_neg hnode]
        obtain ⟨hadmits, hlaid⟩ := laidOut_set_file content (by simp) hreach.directories hnode
        exact .inl ⟨_, rfl, ⟨husable, hfits, hadmits⟩, hlaid⟩
    · rw [if_neg hfits]
      exact .inr ⟨_, rfl, fun h => hfits h.2.1⟩
  · obtain ⟨fault, hfault⟩ := exists_stepsOf_eq_error husable
    have hplace : t.place path = .error fault := by
      rw [place, hfault]
      rfl
    rw [hplace]
    exact .inr ⟨fault, rfl, fun h => husable h.1⟩

/-- A file stands at the end of its path. -/
theorem nodeAt?_of_file {before : List Path.Step} {name : String} {content : List UInt8}
    (hsteps : Path.steps path = before ++ [.into name]) (hend : Path.endsInDirectory path = false)
    (husable : Usable path) (hname : nameFits name = true)
    (hreach : t.Reaches (t.start path) before)
    (hnode : t.node? (t.locate path) = some (.file content)) :
    t.nodeAt? path = some (.file content) := by
  have hlocate := t.locate_of_steps hsteps
  have hfollow : t.follow (t.start path) (Path.steps path) =
      .ok (t.locate path, .file content) := by
    have hfront := directoryAt_eq_ok_iff.mp (directoryAt_eq_ok_iff_reaches.mpr hreach)
    rw [hlocate] at hnode ⊢
    rw [hsteps, follow_append, hfront]
    simp [follow, hname, hnode]
  rw [nodeAt?, find, stepsOf_of_usable husable]
  simp [bind, Except.bind, hfollow, hend, pure, Except.pure, Except.toOption]

end Paths

end FileTree

end AppRelease
