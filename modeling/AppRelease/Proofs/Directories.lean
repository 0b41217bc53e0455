import AppRelease.Proofs.Configuration
import AppRelease.Proofs.Files
import AppRelease.Proofs.Labels
import AppRelease.Proofs.Variables
import AppRelease.Proofs.Wiring
import AppRelease.Sink

/-!
# The directory of an application

Specification: the objects of an application are written to one directory, and Argo CD follows one
directory. The first is found by putting names below the output directory one after the other, the
second by writing the names down with strokes between them. Both take the same steps, and they are
the same path (`Path.Same`) exactly when the output directory is not the empty text
(`AppConfig.followed_where_rendered`).

1. **Names.** A label is one step of a path (`steps_of_isLabel`), so the directory of an application
   lies three steps below the output directory (`Renderer.steps_directory`).
2. **The crux (`Path.StartsAs`).** Paths with the same steps differ at most in where they start. A
   path that goes on after a stroke starts as the text before the stroke does, if there is any, and
   strokes at the end of a text can be left out. Only of the empty text nothing is left to say that
   the path does not start at the root.
-/

namespace AppRelease

/-! ## Labels as names -/

section Labels

variable {s : String}

/-- **A label is one step of a path.** -/
theorem steps_of_isLabel (h : isLabel s = true) : Path.steps s = [.into s] ∧
    Path.isAbsolute s = false := by
  have hstroke : '/' ∉ s.toList := not_mem_of_isLabel h (by decide)
  have hpoint : '.' ∉ s.toList := not_mem_of_isLabel h (by decide)
  refine ⟨Path.steps_name hstroke (ne_nil_of_isLabel h) ?_ ?_, Path.isAbsolute_eq_false hstroke⟩
  · intro hdot
    exact hpoint (by simp [hdot])
  · intro hdots
    exact hpoint (by simp [hdots])

theorem Environment.isLabel_name (e : Environment) : isLabel e.name = true := by
  cases e <;> decide

end Labels

/-! ## Where a path starts -/

namespace Path

/-- Whether a path starts with a single dot, which is kept when paths are compared. -/
def startsHere (path : String) : Bool := (Text.pieces '/' path.toList).head? == some ['.']

/-- Two paths start in the same place: at the root or not, and with a single dot or not. -/
structure StartsAs (p q : String) : Prop where
  absolute : isAbsolute p = isAbsolute q
  here : startsHere p = startsHere q

/-- Two texts are the same path: they start in the same place and take the same steps. Repeated
strokes and single dots between names do not count. -/
structure Same (p q : String) : Prop where
  start : StartsAs p q
  steps : steps p = steps q

theorem StartsAs.trans {p q r : String} (h : StartsAs p q) (h' : StartsAs q r) : StartsAs p r :=
  ⟨h.absolute.trans h'.absolute, h.here.trans h'.here⟩

theorem StartsAs.symm {p q : String} (h : StartsAs p q) : StartsAs q p :=
  ⟨h.absolute.symm, h.here.symm⟩

theorem head?_pieces_append (l rest : List Char) :
    (Text.pieces '/' (l ++ '/' :: rest)).head? = (Text.pieces '/' l).head? := by
  obtain ⟨first, others, hpieces⟩ := List.exists_cons_of_ne_nil (Text.pieces_ne_nil '/' l)
  rw [Text.pieces_append, hpieces]
  rfl

/-- What comes after a stroke does not matter for where a path starts, nor does the stroke itself if
something comes before it. -/
theorem startsAs_of_front {p q : String} {front rest : List Char}
    (hp : p.toList = front ++ '/' :: rest)
    (hq : q.toList = front ∧ q ≠ "" ∨ ∃ rest', q.toList = front ++ '/' :: rest') :
    StartsAs p q := by
  rcases hq with ⟨hq, hne⟩ | ⟨rest', hq⟩
  · refine ⟨?_, by rw [startsHere, startsHere, hp, hq, head?_pieces_append]⟩
    rw [isAbsolute, isAbsolute, hp, hq]
    cases front with
    | nil => exact absurd (String.toList_inj.mp hq) hne
    | cons c others => rfl
  · refine ⟨?_, by rw [startsHere, startsHere, hp, hq, head?_pieces_append, head?_pieces_append]⟩
    cases front <;> simp [isAbsolute, hp, hq]

/-- A path below another starts as that one does. -/
theorem startsAs_join {base below : String} (hbase : base ≠ "") (h : isAbsolute below = false) :
    StartsAs (join base below) base := by
  obtain ⟨front, hfront, hjoined⟩ := toList_join hbase h
  refine startsAs_of_front hjoined ?_
  rcases hfront with hfront | hfront
  · exact .inl ⟨hfront, hbase⟩
  · exact .inr ⟨[], hfront⟩

theorem join_ne_empty {base below : String} (hbase : base ≠ "") (h : isAbsolute below = false) :
    join base below ≠ "" := by
  obtain ⟨front, -, hjoined⟩ := toList_join hbase h
  intro hempty
  simp [hempty] at hjoined

/-- Strokes at the end of a text make no difference to a path that goes on after it. -/
theorem startsAs_trimEnd {base path : String} {rest : List Char} (hbase : base ≠ "")
    (hpath : path.toList = (Text.trimEnd '/' base).toList ++ '/' :: rest) : StartsAs path base := by
  obtain ⟨⟨n, hsplit⟩, -⟩ := Text.trimEnd_eq_iff.mp (rfl : Text.trimEnd '/' base = _)
  refine startsAs_of_front hpath ?_
  cases n with
  | zero =>
    rw [List.replicate_zero, List.append_nil] at hsplit
    exact .inl ⟨hsplit, hbase⟩
  | succ n => exact .inr ⟨List.replicate n '/', hsplit⟩

/-- Strokes at the end of a text are no steps. -/
theorem steps_of_append_replicate {path base : String} (n : Nat)
    (h : path.toList = base.toList ++ List.replicate n '/') : steps path = steps base := by
  induction n generalizing path with
  | zero =>
    rw [List.replicate_zero, List.append_nil] at h
    rw [String.toList_inj.mp h]
  | succ n ih =>
    rw [List.replicate_succ', ← List.append_assoc,
      ← String.toList_ofList (l := _ ++ List.replicate n '/')] at h
    rw [steps_of_append_stroke h, ih String.toList_ofList]

theorem steps_trimEnd (base : String) : steps (Text.trimEnd '/' base) = steps base := by
  obtain ⟨⟨n, hsplit⟩, -⟩ := Text.trimEnd_eq_iff.mp (rfl : Text.trimEnd '/' base = _)
  exact (steps_of_append_replicate n hsplit).symm

end Path

/-! ## Where objects are written and followed -/

/-- **The directory of an application** lies three steps below the output directory. -/
theorem Renderer.steps_directory (r : Renderer) (s : ManifestSet)
    (hname : isLabel s.application = true) (hnameSpace : isLabel s.nameSpace = true) :
    Path.steps (r.directory s) =
      Path.steps r.outputDirectory ++ [.into s.environment.name, .into s.nameSpace,
        .into s.application] := by
  obtain ⟨hsteps, habsolute⟩ := steps_of_isLabel hname
  obtain ⟨hsteps', habsolute'⟩ := steps_of_isLabel hnameSpace
  obtain ⟨hsteps'', habsolute''⟩ := steps_of_isLabel s.environment.isLabel_name
  rw [directory, Path.steps_join habsolute, Path.steps_join habsolute',
    Path.steps_join habsolute'', hsteps, hsteps', hsteps'']
  simp

/-- The directory of an application starts where the output directory does. -/
theorem Renderer.startsAs_directory {r : Renderer} (s : ManifestSet)
    (houtput : r.outputDirectory ≠ "") (hname : isLabel s.application = true)
    (hnameSpace : isLabel s.nameSpace = true) :
    Path.StartsAs (r.directory s) r.outputDirectory := by
  have habsolute := (steps_of_isLabel hname).2
  have habsolute' := (steps_of_isLabel hnameSpace).2
  have habsolute'' := (steps_of_isLabel s.environment.isLabel_name).2
  have hfirst := Path.join_ne_empty houtput habsolute''
  have hsecond := Path.join_ne_empty hfirst habsolute'
  exact ((Path.startsAs_join hsecond habsolute).trans (Path.startsAs_join hfirst habsolute')).trans
    (Path.startsAs_join houtput habsolute'')

namespace AppConfig

variable {c : AppConfig}

/-- The names that follow the output directory in the path that Argo CD follows. -/
theorem toList_sourcePath (c : AppConfig) (e : Environment) (output : String) :
    (c.sourcePath e output).toList = (Text.trimEnd '/' output).toList ++ '/' ::
      (e.name ++ "/" ++ c.nameSpace ++ "/" ++ c.name).toList := by
  simp [sourcePath, String.append_assoc]

/-- **The directory that Argo CD follows** lies three steps below the output directory. -/
theorem steps_sourcePath (hname : isLabel c.name = true) (hnameSpace : isLabel c.nameSpace = true)
    (e : Environment) (output : String) : Path.steps (c.sourcePath e output) =
      Path.steps output ++ [.into e.name, .into c.nameSpace, .into c.name] := by
  have hlast : (e.name ++ "/" ++ c.nameSpace ++ "/" ++ c.name).toList =
      (e.name ++ "/" ++ c.nameSpace).toList ++ '/' :: c.name.toList := by simp
  have hfirst : (e.name ++ "/" ++ c.nameSpace).toList =
      e.name.toList ++ '/' :: c.nameSpace.toList := by simp
  rw [Path.steps_of_append (toList_sourcePath c e output), Path.steps_trimEnd,
    Path.steps_of_append hlast, Path.steps_of_append hfirst, (steps_of_isLabel hname).1,
    (steps_of_isLabel hnameSpace).1, (steps_of_isLabel e.isLabel_name).1]
  rfl

theorem steps_sourcePath_eq (hname : isLabel c.name = true)
    (hnameSpace : isLabel c.nameSpace = true) (e : Environment) (output : String)
    (objects : List Manifest) : Path.steps (c.sourcePath e output) =
      Path.steps ((Renderer.mk output).directory ⟨c.name, c.nameSpace, e, objects⟩) := by
  rw [steps_sourcePath hname hnameSpace,
    Renderer.steps_directory ⟨output⟩ ⟨c.name, c.nameSpace, e, objects⟩ hname hnameSpace]

/-- Argo CD follows the directory that is written to, unless there is no output directory. -/
theorem same_sourcePath_iff (hname : isLabel c.name = true)
    (hnameSpace : isLabel c.nameSpace = true) (e : Environment) (output : String)
    (objects : List Manifest) :
    Path.Same (c.sourcePath e output)
      ((Renderer.mk output).directory ⟨c.name, c.nameSpace, e, objects⟩) ↔
      output ≠ "" := by
  constructor
  · rintro ⟨hstart, -⟩ rfl
    -- the one path starts with a stroke, the other with the name of the environment
    have hfollowed : Path.isAbsolute (c.sourcePath e "") = true := by
      rw [Path.isAbsolute, toList_sourcePath]
      rfl
    have hwritten : Path.isAbsolute
        ((Renderer.mk "").directory ⟨c.name, c.nameSpace, e, objects⟩) = false := by
      have hfirst := Path.join_ne_empty e.name_ne_empty (steps_of_isLabel hnameSpace).2
      have hstart' := (Path.startsAs_join hfirst (steps_of_isLabel hname).2).trans
        (Path.startsAs_join e.name_ne_empty (steps_of_isLabel hnameSpace).2)
      rw [Renderer.directory, Path.join_empty, hstart'.absolute]
      exact (steps_of_isLabel e.isLabel_name).2
    rw [hstart.absolute, hwritten] at hfollowed
    exact absurd hfollowed (by simp)
  · intro houtput
    have hfollowed := Path.startsAs_trimEnd houtput (toList_sourcePath c e output)
    have hwritten := Renderer.startsAs_directory (r := ⟨output⟩) ⟨c.name, c.nameSpace, e, objects⟩
      houtput hname hnameSpace
    exact ⟨hfollowed.trans hwritten.symm, steps_sourcePath_eq hname hnameSpace e output objects⟩

/-- **Argo CD follows the directory that the objects are written to.** Whatever the output directory
is, the two paths take the same steps, and they are the same path exactly when the output directory
is not the empty text. This holds as well of the object that is written. -/
theorem followed_where_rendered (c : AppConfig) (e : Environment) (hname : isLabel c.name = true)
    (hnameSpace : isLabel c.nameSpace = true) :
    (∀ output objects,
      Path.steps (c.sourcePath e output) =
          Path.steps ((Renderer.mk output).directory ⟨c.name, c.nameSpace, e, objects⟩) ∧
        (Path.Same (c.sourcePath e output)
          ((Renderer.mk output).directory ⟨c.name, c.nameSpace, e, objects⟩) ↔
          output ≠ "")) ∧
    ∀ project s a, c.manifests e project = .ok s → .application a ∈ s.manifests →
      (Path.Same a.sourcePath ((Renderer.mk project.render.outputDirectory).directory s) ↔
        project.render.outputDirectory ≠ "") := by
  refine ⟨fun output objects => ⟨steps_sourcePath_eq hname hnameSpace e output objects,
    same_sourcePath_iff hname hnameSpace e output objects⟩, fun project s a hs ha => ?_⟩
  have hpath := (argoApplication_eq_ok (argoApplication_of_mem hs ha)).2
  obtain ⟨-, extra, -, rfl⟩ := manifests_eq_ok_iff.mp hs
  rw [hpath]
  exact same_sourcePath_iff hname hnameSpace e _ _

/-- A project that is followed and writes to a directory of its own. -/
def followedProject (output : String) : Project :=
  { webProject with render := { outputDirectory := output } }

theorem exists_followed_web (output : String) : ∃ s a,
    webConfig.manifests .staging (followedProject output) = .ok s ∧ .application a ∈ s.manifests ∧
      a.sourcePath = webConfig.sourcePath .staging output ∧
      (Renderer.mk output).directory s =
        (Renderer.mk output).directory ⟨"web", "apps", .staging, []⟩ := by
  obtain ⟨s, hs⟩ : ∃ s, webConfig.manifests .staging webProject = .ok s :=
    exists_eq_ok_of_isSome (by decide +kernel)
  have hreadable := (manifests_eq_ok_iff.mp hs).1
  have henabled : (followedProject output).argo.enabled = true := rfl
  have hrepository : Text.isBlankText (followedProject output).argo.repository = false := by
    show Text.isBlankText "https://git.local/web" = false
    decide +kernel
  obtain ⟨a, hextra⟩ :
      ∃ a, webConfig.argoManifests .staging (followedProject output) = .ok [.application a] := by
    rw [argoManifests, if_pos henabled, argoApplication, if_neg (by simp [hrepository])]
    exact ⟨_, rfl⟩
  have hset := manifests_eq_ok_iff.mpr ⟨hreadable, _, hextra, rfl⟩
  have hmem : .application a ∈ (webConfig.manifestSet .staging [.application a]).manifests := by
    simp [manifestSet]
  exact ⟨_, a, hset, hmem, (argoApplication_eq_ok (argoApplication_of_mem hset hmem)).2, rfl⟩

theorem followed_where_rendered_web :
    isLabel webConfig.name = true ∧ isLabel webConfig.nameSpace = true ∧
      ∃ s a, webConfig.manifests .staging (followedProject "./out//") = .ok s ∧
        .application a ∈ s.manifests ∧
        a.sourcePath = "./out/staging/apps/web" ∧
        (Renderer.mk "./out//").directory s = "./out//staging/apps/web" ∧
        Path.Same a.sourcePath ((Renderer.mk "./out//").directory s) := by
  have hname : isLabel webConfig.name = true := by decide
  have hnameSpace : isLabel webConfig.nameSpace = true := by decide
  obtain ⟨s, a, hs, ha, hfollowed, hwritten⟩ := exists_followed_web "./out//"
  refine ⟨hname, hnameSpace, s, a, hs, ha, ?_, ?_, ?_⟩
  · rw [hfollowed]
    decide +kernel
  · rw [hwritten]
    decide +kernel
  · exact ((followed_where_rendered webConfig .staging hname hnameSpace).2 _ s a hs ha).mpr
      (by decide)

/-- Without an output directory the objects are written below the working directory, and Argo CD
follows a directory below the root. -/
theorem empty_output_followed_from_root :
    ∃ s a, webConfig.manifests .staging (followedProject "") = .ok s ∧
      .application a ∈ s.manifests ∧
      a.sourcePath = "/staging/apps/web" ∧ (Renderer.mk "").directory s = "staging/apps/web" ∧
      ¬ Path.Same a.sourcePath ((Renderer.mk "").directory s) := by
  obtain ⟨s, a, hs, ha, hfollowed, hwritten⟩ := exists_followed_web ""
  have hroot : a.sourcePath = "/staging/apps/web" := by
    rw [hfollowed]
    decide +kernel
  have hhere : (Renderer.mk "").directory s = "staging/apps/web" := by
    rw [hwritten]
    decide +kernel
  refine ⟨s, a, hs, ha, hroot, hhere, fun hsame => ?_⟩
  rw [hroot, hhere] at hsame
  exact absurd hsame.start.absolute (by decide)

end AppConfig

end AppRelease
