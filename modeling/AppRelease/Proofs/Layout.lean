import AppRelease.Proofs.Files

/-!
# What a tree is asked to hold

Specification: a `Layout` lists directories and files with their contents. A tree `Admits` it when
no file is in the way of a directory, no directory in the way of a file, and no location is to be
both. A tree is `LaidOut` from another when it has the layout and is otherwise as the other was.
Both speak of the members of the lists only, so the order in which things are done cannot matter
(`Layout.Same`).

The crux is that what is done in sequence is done as one layout (`admits_append_iff`,
`LaidOut.append`): a second layout is admitted after a first one exactly when both together are
admitted at the start. So it is enough to know of each change that it succeeds when its layout is
admitted, and that it then leaves the layout.
-/

namespace AppRelease

/-- Directories that are to be there, and files with their contents. -/
structure Layout where
  directories : List Location := []
  files : List (Location × List UInt8) := []

namespace Layout

/-- All that two layouts ask for. -/
def append (p q : Layout) : Layout := ⟨p.directories ++ q.directories, p.files ++ q.files⟩

/-- Two layouts ask for the same, though maybe in another order or more than once. -/
structure Same (p q : Layout) : Prop where
  directories : ∀ l, l ∈ p.directories ↔ l ∈ q.directories
  files : ∀ f, f ∈ p.files ↔ f ∈ q.files

theorem Same.symm {p q : Layout} (h : p.Same q) : q.Same p :=
  ⟨fun l => (h.directories l).symm, fun f => (h.files f).symm⟩

/-- What is asked for again adds nothing. -/
theorem same_append_of_mem {p q : Layout} (hdirectories : ∀ l ∈ p.directories, l ∈ q.directories)
    (hfiles : ∀ f ∈ p.files, f ∈ q.files) : (p.append q).Same q := by
  refine ⟨fun l => ⟨fun hl => ?_, List.mem_append_right _⟩,
    fun f => ⟨fun hf => ?_, List.mem_append_right _⟩⟩
  · rcases List.mem_append.mp hl with hl | hl
    · exact hdirectories l hl
    · exact hl
  · rcases List.mem_append.mp hf with hf | hf
    · exact hfiles f hf
    · exact hf

/-- Two lists of files give no location two contents. -/
def Consistent (files files' : List (Location × List UInt8)) : Prop :=
  ∀ f ∈ files, ∀ g ∈ files', f.1 = g.1 → f.2 = g.2

end Layout

namespace FileTree

/-- Nothing is in the way of a layout. -/
structure Admits (t : FileTree) (p : Layout) : Prop where
  directories : ∀ l ∈ p.directories, ∀ content, t.node? l ≠ some (.file content)
  files : ∀ f ∈ p.files, t.node? f.1 ≠ some .directory
  apart : ∀ f ∈ p.files, f.1 ∉ p.directories

/-- A tree has a layout and is otherwise as another one was. -/
structure LaidOut (t : FileTree) (p : Layout) (t' : FileTree) : Prop where
  working : t'.working = t.working
  directories : ∀ l ∈ p.directories, t'.node? l = some .directory
  files : ∀ f ∈ p.files, t'.node? f.1 = some (.file f.2)
  others : ∀ l, l ∉ p.directories → l ∉ p.files.map Prod.fst → t'.node? l = t.node? l

/-- Of all files in a tree only some have changed, and these have the contents that are given.
Directories are not spoken of. -/
structure FilesBecome (t : FileTree) (files : List (Location × List UInt8))
    (t' : FileTree) : Prop where
  written : ∀ f ∈ files, t'.node? f.1 = some (.file f.2)
  others : ∀ l, l ∉ files.map Prod.fst → ∀ content,
    t'.node? l = some (.file content) ↔ t.node? l = some (.file content)

/-! ## One layout after another -/

section Layouts

variable {t t' t'' : FileTree} {p q : Layout} {files files' : List (Location × List UInt8)}

theorem LaidOut.node?_of_mem {l : Location} {content : List UInt8} (h : t.LaidOut p t')
    (hf : (l, content) ∈ p.files) :
    t'.node? l = some (.file content) := h.files (l, content) hf

/-- A location is a directory of a layout, or a file of it, or is left alone. -/
theorem LaidOut.cases (h : t.LaidOut p t') (l : Location) :
    l ∈ p.directories ∧ t'.node? l = some .directory ∨
      (∃ f ∈ p.files, f.1 = l ∧ t'.node? l = some (.file f.2)) ∨
      l ∉ p.directories ∧ l ∉ p.files.map Prod.fst ∧ t'.node? l = t.node? l := by
  by_cases hdirectory : l ∈ p.directories
  · exact .inl ⟨hdirectory, h.directories l hdirectory⟩
  · by_cases hfile : l ∈ p.files.map Prod.fst
    · obtain ⟨f, hf, rfl⟩ := List.mem_map.mp hfile
      exact .inr (.inl ⟨f, hf, rfl, h.files f hf⟩)
    · exact .inr (.inr ⟨hdirectory, hfile, h.others l hdirectory hfile⟩)

/-- **What is admitted after a layout** is what is admitted together with it. -/
theorem admits_append_iff (hp : t.Admits p) (h : t.LaidOut p t') : t'.Admits q ↔
    t.Admits (p.append q) := by
  constructor
  · intro hq
    refine ⟨?_, ?_, ?_⟩
    · intro l hl content hfile
      rcases List.mem_append.mp hl with hl | hl
      · exact hp.directories l hl content hfile
      · -- a file that was there is still a file, whatever the first layout did
        rcases h.cases l with ⟨hdirectory, -⟩ | ⟨f, -, -, hwritten⟩ | ⟨-, -, hkept⟩
        · exact hp.directories l hdirectory content hfile
        · exact hq.directories l hl f.2 hwritten
        · exact hq.directories l hl content (hkept.trans hfile)
    · intro f hf hdirectory
      rcases List.mem_append.mp hf with hf | hf
      · exact hp.files f hf hdirectory
      · rcases h.cases f.1 with ⟨-, hmade⟩ | ⟨g, hg, hsame, -⟩ | ⟨-, -, hkept⟩
        · exact hq.files f hf hmade
        · exact hp.files g hg (hsame ▸ hdirectory)
        · exact hq.files f hf (hkept.trans hdirectory)
    · intro f hf hdirectory
      rcases List.mem_append.mp hf with hf | hf <;>
        rcases List.mem_append.mp hdirectory with hl | hl
      · exact hp.apart f hf hl
      · exact hq.directories f.1 hl f.2 (h.files f hf)
      · exact hq.files f hf (h.directories f.1 hl)
      · exact hq.apart f hf hl
  · intro hboth
    refine ⟨?_, ?_, ?_⟩
    · intro l hl content hfile
      have hl' : l ∈ (p.append q).directories := List.mem_append_right _ hl
      rcases h.cases l with ⟨-, hmade⟩ | ⟨f, hf, hsame, -⟩ | ⟨-, -, hkept⟩
      · rw [hmade] at hfile
        exact absurd hfile (by simp)
      · exact hboth.apart f (List.mem_append_left _ hf) (hsame ▸ hl')
      · exact hboth.directories l hl' content (hkept ▸ hfile)
    · intro f hf hdirectory
      have hf' : f ∈ (p.append q).files := List.mem_append_right _ hf
      rcases h.cases f.1 with ⟨hl, -⟩ | ⟨g, -, -, hwritten⟩ | ⟨-, -, hkept⟩
      · exact hboth.apart f hf' (List.mem_append_left _ hl)
      · rw [hwritten] at hdirectory
        exact absurd hdirectory (by simp)
      · exact hboth.files f hf' (hkept ▸ hdirectory)
    · intro f hf hl
      exact hboth.apart f (List.mem_append_right _ hf) (List.mem_append_right _ hl)

/-- **One layout after another** is both of them, if they agree on the contents of files. -/
theorem LaidOut.append (h : t.LaidOut p t') (h' : t'.LaidOut q t'') (hq : t'.Admits q)
    (hsame : Layout.Consistent p.files q.files) : t.LaidOut (p.append q) t'' := by
  refine ⟨h'.working.trans h.working, ?_, ?_, ?_⟩
  · intro l hl
    rcases List.mem_append.mp hl with hl | hl
    · have hmade := h.directories l hl
      rcases h'.cases l with ⟨-, hdirectory⟩ | ⟨f, hf, rfl, -⟩ | ⟨-, -, hkept⟩
      · exact hdirectory
      · exact absurd hmade (hq.files f hf)
      · exact hkept.trans hmade
    · exact h'.directories l hl
  · intro f hf
    rcases List.mem_append.mp hf with hf | hf
    · have hwritten := h.files f hf
      rcases h'.cases f.1 with ⟨hl, -⟩ | ⟨g, hg, hlocation, hagain⟩ | ⟨-, -, hkept⟩
      · exact absurd hwritten (hq.directories f.1 hl f.2)
      · rw [hagain, hsame f hf g hg hlocation.symm]
      · exact hkept.trans hwritten
    · exact h'.files f hf
  · intro l hl hfile
    simp only [Layout.append, List.map_append, List.mem_append, not_or] at hl hfile
    rw [h'.others l hl.2 hfile.2, h.others l hl.1 hfile.1]

/-- What is laid out is admitted a second time. -/
theorem LaidOut.admits_again (hp : t.Admits p) (h : t.LaidOut p t') : t'.Admits p := by
  refine ⟨?_, ?_, hp.apart⟩
  · intro l hl content
    simp [h.directories l hl]
  · intro f hf
    simp [h.files f hf]

/-- Layouts that ask for the same are admitted by the same trees. -/
theorem Admits.congr (hsame : p.Same q) (h : t.Admits p) : t.Admits q := by
  refine ⟨?_, ?_, ?_⟩
  · intro l hl
    exact h.directories l ((hsame.directories l).mpr hl)
  · intro f hf
    exact h.files f ((hsame.files f).mpr hf)
  · intro f hf hl
    exact h.apart f ((hsame.files f).mpr hf) ((hsame.directories f.1).mpr hl)

/-- A tree that admits two layouts admits the first of them. -/
theorem Admits.left (h : t.Admits (p.append q)) : t.Admits p := by
  refine ⟨?_, ?_, ?_⟩
  · intro l hl
    exact h.directories l (List.mem_append_left _ hl)
  · intro f hf
    exact h.files f (List.mem_append_left _ hf)
  · intro f hf hl
    exact h.apart f (List.mem_append_left _ hf) (List.mem_append_left _ hl)

/-- Layouts that ask for the same leave the same. -/
theorem LaidOut.congr (hsame : p.Same q) (h : t.LaidOut p t') : t.LaidOut q t' := by
  refine ⟨h.working, ?_, ?_, ?_⟩
  · intro l hl
    exact h.directories l ((hsame.directories l).mpr hl)
  · intro f hf
    exact h.files f ((hsame.files f).mpr hf)
  · intro l hl hfile
    refine h.others l (fun hl' => hl ((hsame.directories l).mp hl')) fun hfile' => ?_
    obtain ⟨f, hf, rfl⟩ := List.mem_map.mp hfile'
    exact hfile (List.mem_map_of_mem ((hsame.files f).mp hf))

/-- **A layout leaves one tree.** -/
theorem LaidOut.unique (h : t.LaidOut p t') (h' : t.LaidOut p t'') (l : Location) :
    t'.node? l = t''.node? l := by
  rcases h.cases l with ⟨hl, hmade⟩ | ⟨f, hf, rfl, hwritten⟩ | ⟨hl, hfile, hkept⟩
  · rw [hmade, h'.directories l hl]
  · rw [hwritten, h'.files f hf]
  · rw [hkept, h'.others l hl hfile]

/-- Where a layout is already there, it changes nothing. -/
theorem LaidOut.node?_of_again (h : t.LaidOut p t') (h' : t'.LaidOut p t'') (l : Location) :
    t''.node? l = t'.node? l := by
  rcases h'.cases l with ⟨hl, hmade⟩ | ⟨f, hf, rfl, hwritten⟩ | ⟨-, -, hkept⟩
  · rw [hmade, h.directories l hl]
  · rw [hwritten, h.files f hf]
  · exact hkept

/-- The files of a layout are the ones that change. -/
theorem LaidOut.filesBecome (hp : t.Admits p) (h : t.LaidOut p t') : t.FilesBecome p.files t' := by
  refine ⟨h.files, fun l hfile content => ?_⟩
  rcases h.cases l with ⟨hl, hmade⟩ | ⟨f, hf, rfl, -⟩ | ⟨-, -, hkept⟩
  · -- a directory is no file, and where it was made there was none
    rw [hmade]
    exact ⟨fun heq => absurd heq (by simp), fun heq => absurd heq (hp.directories l hl content)⟩
  · exact absurd (List.mem_map_of_mem hf) hfile
  · rw [hkept]

theorem FilesBecome.refl (t : FileTree) : t.FilesBecome [] t := ⟨by simp, fun _ _ _ => Iff.rfl⟩

/-- Where no file has changed, the files that change later are all that change. -/
theorem FilesBecome.trans (h : t.FilesBecome [] t') (h' : t'.FilesBecome files t'') :
    t.FilesBecome files t'' :=
  ⟨h'.written, fun l hl content => (h'.others l hl content).trans (h.others l (by simp) content)⟩

end Layouts

end FileTree

end AppRelease
