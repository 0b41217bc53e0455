import AppRelease.Proofs.Directories
import AppRelease.Proofs.Inputs

/-!
# Applications are kept apart

Specification: whatever is named after an application tells which application it is, so two
applications share neither an input nor an output, nor do two environments of one application
(`applications_kept_apart`).

1. **Image tags.** In the name of the variable letters are capitals and a hyphen is an underscore.
   For a label nothing is lost by that, as the name can be read back (`nameCharacter_imageTag`).
2. **Files.** The steps of a path end with the names that it was made from
   (`Secrets.Store.steps_pathFor`, `Renderer.steps_directory`), and what comes before is the same
   for all.
3. **Objects.** The name of an object is that of the application with an ending for its kind
   (`objectEnding`), so two objects of one kind have different names when their applications do
   (`objectEnding_injective`).
4. **The crux (`name_hyphen_injective`).** What Argo CD follows has the environment in its ending,
   and the name of an application may end like that itself. But no environment has a hyphen in its
   name, so the last hyphen tells where the name of the application ends.
-/

namespace AppRelease

/-! ## Image tags -/

/-- The character of a label that a character of its image tag variable stands for. -/
def nameCharacter (c : Char) : Char := if c = '_' then '-' else c.toLower

/-- **A character of a label can be read back** from the name of the variable. -/
theorem nameCharacter_imageTag {c : Char}
    (h : isSmallLetter c = true ∨ c.isDigit = true ∨ c = '-') :
    nameCharacter (if c.isAlphanum then c.toUpper else '_') = c := by
  -- the characters of labels are few, so all of them are tried
  have hall : ∀ n < 128,
      (isSmallLetter (Char.ofNat n) || (Char.ofNat n).isDigit || Char.ofNat n == '-') = true →
      nameCharacter (if (Char.ofNat n).isAlphanum then (Char.ofNat n).toUpper else '_') =
        Char.ofNat n := by
    decide +kernel
  have hc := hall c.toNat (labelCharacter_iff.mpr h).toNat_lt
  rw [Char.ofNat_toNat] at hc
  refine hc ?_
  simpa [or_assoc] using h

/-- **Labels have image tag variables of their own.** -/
theorem imageTagKey_injective {a b : String} (ha : isLabel a = true) (hb : isLabel b = true)
    (h : imageTagKey a = imageTagKey b) : a = b := by
  have hread : ∀ {s : String}, isLabel s = true →
      (s.toList.map fun c => if c.isAlphanum then c.toUpper else '_').map nameCharacter =
        s.toList := by
    intro s hs
    calc (s.toList.map fun c => if c.isAlphanum then c.toUpper else '_').map nameCharacter
        = s.toList.map id := by
          rw [List.map_map]
          exact List.map_congr_left fun c hc => nameCharacter_imageTag (mem_of_isLabel hs hc)
      _ = s.toList := List.map_id _
  have hlist := congrArg String.toList ((String.append_right_inj _).mp h)
  rw [String.toList_ofList, String.toList_ofList] at hlist
  have hboth := congrArg (List.map nameCharacter) hlist
  rw [hread ha, hread hb] at hboth
  exact String.toList_inj.mp hboth

/-! ## Files -/

/-- The secrets files of an application in an environment are its own. -/
theorem Secrets.Store.pathFor_injective (store : Secrets.Store) {a b : String} {e f : Environment}
    (ha : isLabel a = true) (hb : isLabel b = true)
    (h : Path.steps (store.pathFor a e) = Path.steps (store.pathFor b f)) : a = b ∧ e = f := by
  have hstroke : ∀ {s : String}, isLabel s = true → '/' ∉ s.toList :=
    fun hs => not_mem_of_isLabel hs (by decide)
  rw [store.steps_pathFor (hstroke ha), store.steps_pathFor (hstroke hb)] at h
  simp only [List.append_cancel_left_eq, List.cons.injEq, Path.Step.into.injEq, and_true] at h
  exact ⟨fileName_injective h.2, Environment.name_injective h.1⟩

/-- The directory of an application in a namespace and an environment is its own. -/
theorem Renderer.directory_injective (r : Renderer) (s t : ManifestSet)
    (hs : isLabel s.application = true) (hs' : isLabel s.nameSpace = true)
    (ht : isLabel t.application = true) (ht' : isLabel t.nameSpace = true)
    (h : Path.steps (r.directory s) = Path.steps (r.directory t)) :
    s.environment = t.environment ∧ s.nameSpace = t.nameSpace ∧ s.application = t.application := by
  rw [r.steps_directory s hs hs', r.steps_directory t ht ht'] at h
  simp only [List.append_cancel_left_eq, List.cons.injEq, Path.Step.into.injEq, and_true] at h
  exact ⟨Environment.name_injective h.1, h.2⟩

/-! ## Objects -/

/-- The name of an application followed by that of an environment tells both. -/
theorem name_hyphen_injective {a b : String} {e f : Environment}
    (h : a ++ "-" ++ e.name = b ++ "-" ++ f.name) : a = b ∧ e = f := by
  have hcut : ∀ (s : String) (e : Environment), Text.cutAtLast '-' (s ++ "-" ++ e.name) =
      some (s, e.name) := by
    intro s e
    have hhyphen : '-' ∉ e.name.toList := by cases e <;> decide
    exact Text.cutAtLast_eq_some_iff.mpr ⟨by simp, hhyphen⟩
  have hboth := hcut a e
  rw [h, hcut b f, Option.some.injEq, Prod.mk.injEq] at hboth
  exact ⟨hboth.1.symm, Environment.name_injective hboth.2.symm⟩

/-- What tells an object from all others in a cluster: its kind, its namespace and its name. -/
def Manifest.identity (m : Manifest) : String × Option String × String :=
  (m.kind, m.nameSpace?, m.name)

/-- What comes after the name of the application in the name of an object of a kind. -/
def objectEnding (kind : String) (e : Environment) : String :=
  if kind = "ConfigMap" then "-config"
  else if kind = "Secret" then "-secret"
  else if kind = "Application" then "-" ++ e.name
  else ""

/-- **Every object but the namespace is named after the application.** -/
theorem AppConfig.name_of_mem {c : AppConfig} {e : Environment} {project : Project}
    {s : ManifestSet} {m : Manifest} (h : c.manifests e project = .ok s) (hm : m ∈ s.manifests)
    (hkind : m.kind ≠ "Namespace") :
    m.name = c.name ++ objectEnding m.kind e := by
  have happlication : ∀ a, .application a ∈ s.manifests →
      a.metadata.name = c.name ++ "-" ++ e.name :=
    fun a ha => (argoApplication_eq_ok (argoApplication_of_mem h ha)).1
  obtain ⟨-, extra, hextra, rfl⟩ := manifests_eq_ok_iff.mp h
  rcases List.mem_append.mp hm with hfixed | hadded
  · simp only [List.mem_cons, List.not_mem_nil, or_false] at hfixed
    rcases hfixed with rfl | rfl | rfl | rfl | rfl
    · exact absurd rfl hkind
    · rfl
    · rfl
    · exact String.append_empty.symm
    · exact String.append_empty.symm
  · rcases argoManifests_cases hextra with rfl | ⟨a, rfl⟩
    · exact absurd hadded (by simp)
    · obtain rfl := List.mem_singleton.mp hadded
      show a.metadata.name = c.name ++ ("-" ++ e.name)
      rw [← String.append_assoc]
      exact happlication a hm

/-- Names with the endings of one kind belong to one application, whatever the environments are. -/
theorem objectEnding_injective {a b kind : String} {e f : Environment}
    (h : a ++ objectEnding kind e = b ++ objectEnding kind f) : a = b := by
  by_cases happlication : kind = "Application"
  · subst happlication
    have hname : a ++ ("-" ++ e.name) = b ++ ("-" ++ f.name) := h
    rw [← String.append_assoc, ← String.append_assoc] at hname
    exact (name_hyphen_injective hname).1
  · have hending : objectEnding kind e = objectEnding kind f := by simp [objectEnding, happlication]
    rw [hending] at h
    exact (String.append_left_inj _).mp h

/-- **An object other than a namespace belongs to one application.** -/
theorem Manifest.application_of_identity {c d : AppConfig} {e f : Environment} {p q : Project}
    {s t : ManifestSet} {m n : Manifest} (hs : c.manifests e p = .ok s)
    (ht : d.manifests f q = .ok t) (hm : m ∈ s.manifests) (hn : n ∈ t.manifests)
    (hkind : m.kind ≠ "Namespace") (h : m.identity = n.identity) : c.name = d.name := by
  obtain ⟨hsame, -, hname⟩ : m.kind = n.kind ∧ m.nameSpace? = n.nameSpace? ∧ m.name = n.name := by
    simpa [identity] using h
  rw [AppConfig.name_of_mem hs hm hkind, AppConfig.name_of_mem ht hn (hsame ▸ hkind),
    hsame] at hname
  exact objectEnding_injective hname

/-! ## All together -/

/-- **Applications are kept apart.** For names that are labels, and whatever the settings of the
project are: the secrets files of different applications or environments are different, and so are
the names of what Argo CD follows. The directories that objects are written to differ unless
environment, namespace and application are the same. Different applications read different image tag
variables, and no object but a namespace is made for two of them, in whatever namespaces and
environments. -/
theorem applications_kept_apart {a b : String} (ha : isLabel a = true) (hb : isLabel b = true) :
    (∀ (store : Secrets.Store) (e f : Environment), (a, e) ≠ (b, f) →
      Path.steps (store.pathFor a e) ≠ Path.steps (store.pathFor b f)) ∧
    (∀ (c d : AppConfig) (e f : Environment) (p q : Project) (x y : ArgoApplication),
      c.name = a → d.name = b →
      c.argoApplication e p = .ok x → d.argoApplication f q = .ok y → (a, e) ≠ (b, f) →
      x.metadata.name ≠ y.metadata.name) ∧
    (∀ (r : Renderer) (nameSpace nameSpace' : String) (e f : Environment)
      (objects objects' : List Manifest),
      isLabel nameSpace = true → isLabel nameSpace' = true →
      (e, nameSpace, a) ≠ (f, nameSpace', b) →
      Path.steps (r.directory ⟨a, nameSpace, e, objects⟩) ≠
        Path.steps (r.directory ⟨b, nameSpace', f, objects'⟩)) ∧
    (a ≠ b → imageTagKey a ≠ imageTagKey b) ∧
    (a ≠ b → ∀ (c d : AppConfig) (e f : Environment) (p q : Project) (s t : ManifestSet),
      c.name = a → d.name = b → c.manifests e p = .ok s → d.manifests f q = .ok t →
      ∀ m ∈ s.manifests, ∀ n ∈ t.manifests, m.kind ≠ "Namespace" → n.kind ≠ "Namespace" →
        m.identity ≠ n.identity) := by
  refine ⟨?_, ?_, ?_, fun hne h => hne (imageTagKey_injective ha hb h), ?_⟩
  · intro store e f hne h
    obtain ⟨rfl, rfl⟩ := store.pathFor_injective ha hb h
    exact hne rfl
  · rintro c d e f p q x y rfl rfl hx hy hne h
    rw [(AppConfig.argoApplication_eq_ok hx).1, (AppConfig.argoApplication_eq_ok hy).1] at h
    obtain ⟨hname, rfl⟩ := name_hyphen_injective h
    exact hne (by rw [hname])
  · intro r nameSpace nameSpace' e f objects objects' hspace hspace' hne h
    obtain ⟨rfl, rfl, rfl⟩ : e = f ∧ nameSpace = nameSpace' ∧ a = b :=
      r.directory_injective ⟨a, nameSpace, e, objects⟩ ⟨b, nameSpace', f, objects'⟩
        ha hspace hb hspace' h
    exact hne rfl
  · rintro hne c d e f p q s t rfl rfl hs ht m hm n hn hkind - h
    exact hne (Manifest.application_of_identity hs ht hm hn hkind h)

/-- An application of another name that is configured in the same way. -/
def AppConfig.webNamed (name : String) : AppConfig := { webConfig with name := name }

theorem applications_kept_apart_web :
    Path.steps (Secrets.Store.pathFor { root := "../keys" } "web-local" .staging) ≠
        Path.steps (Secrets.Store.pathFor { root := "../keys" } "web" .staging) ∧
      Path.steps ((Renderer.mk "").directory ⟨"web-local", "web", .staging, []⟩) ≠
        Path.steps ((Renderer.mk "").directory ⟨"web", "web-local", .staging, []⟩) ∧
      imageTagKey "web-local" ≠ imageTagKey "web" ∧
      ∃ s t, (AppConfig.webNamed "web-local").manifests .staging AppConfig.webProject = .ok s ∧
        (AppConfig.webNamed "web").manifests .localMachine AppConfig.webProject = .ok t ∧
        ∀ m ∈ s.manifests, ∀ n ∈ t.manifests, m.kind ≠ "Namespace" → n.kind ≠ "Namespace" →
          m.identity ≠ n.identity := by
  have ha : isLabel "web-local" = true := by decide
  have hb : isLabel "web" = true := by decide
  obtain ⟨hsecrets, -, hdirectories, htags, hobjects⟩ := applications_kept_apart ha hb
  obtain ⟨s, hs⟩ :
      ∃ s, (AppConfig.webNamed "web-local").manifests .staging AppConfig.webProject = .ok s :=
    exists_eq_ok_of_isSome (by decide +kernel)
  obtain ⟨t, ht⟩ :
      ∃ t, (AppConfig.webNamed "web").manifests .localMachine AppConfig.webProject = .ok t :=
    exists_eq_ok_of_isSome (by decide +kernel)
  exact ⟨hsecrets _ _ _ (by decide), hdirectories _ _ _ _ _ _ _ hb ha (by decide),
    htags (by decide), s, t, hs, ht, hobjects (by decide) _ _ _ _ _ _ s t rfl rfl hs ht⟩

end AppRelease
