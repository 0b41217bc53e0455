import AppRelease.Proofs.Fallbacks

/-!
# Variables that are reported as not set

Specification: an application requires the variable that names the environment, its image tag and
the variables it lists (`Defaults.Requires`). A variable is reported as not set in two places: when
the variables are resolved, where it is looked up in the source, and when templates are filled in,
where it is looked up among the values that were kept. So it is reported exactly when it is required
and the source has none, or when a template asks for one that was not kept
(`Assembly.reported_as_unset_iff`).

1. **What is kept.** The values of all required variables but `ENVIRONMENT`, which is read as an
   environment (`Assembly.get?_eq_none_iff`).
2. **The crux (`Defaults.AsksForUnread`).** A template may ask for a variable that is not required,
   or for `ENVIRONMENT` itself. That variable is reported as not set whatever the source holds; of
   all others the report is right. `Assembly.set_variables_reported_as_unset` has one run of each
   kind where the variable is set.
-/

namespace AppRelease

namespace Defaults

/-- The variables that an application requires. -/
def Requires (d : Defaults) (key : String) : Prop :=
  key = Environment.key ∨ key = d.imageTagKey ∨ key ∈ d.requiredEnv

/-- A template asks for a variable whose value is not kept: one that is not required, or the one
that names the environment. -/
structure AsksForUnread (d : Defaults) (key : String) : Prop where
  asked : ∃ name, (name, .resolved key) ∈ d.env
  unread : key = Environment.key ∨ ¬ d.Requires key

variable {d : Defaults} {known : Variables} {secrets : Secrets.Bundle} {key : String}

theorem image_eq_missing_iff :
    d.image known = .error (.missing key) ↔ key = d.imageTagKey ∧ known.get? key = none := by
  rw [image]
  cases htag : known.get? d.imageTagKey with
  | none =>
    simp only [Except.error.injEq, Problem.missing.injEq]
    constructor
    · rintro rfl
      exact ⟨rfl, htag⟩
    · exact fun h => h.1.symm
  | some tag =>
    have hnot : ¬ (key = d.imageTagKey ∧ known.get? key = none) := by
      rintro ⟨rfl, hnone⟩
      exact absurd (htag.symm.trans hnone) (by simp)
    by_cases hvalid : isImageTag tag = true <;> simp [hvalid, hnot]

/-- While templates are filled in, a variable is missing when it was not kept and is asked for. -/
theorem missing_mem_variableProblems : .missing key ∈ d.variableProblems known secrets ↔
    (key = d.imageTagKey ∨ ∃ name, (name, .resolved key) ∈ d.env) ∧ known.get? key = none := by
  have htemplates : Problem.missing key ∈
      ((d.shortfalls known secrets).filterMap Shortfall.variableKey?).map Problem.missing ↔
      (∃ name, (name, .resolved key) ∈ d.env) ∧ known.get? key = none := by
    rw [variableShortfalls_eq]
    simp only [List.mem_map, List.mem_filter, Problem.missing.injEq, exists_eq_right,
      mem_resolvedKeys, Option.isNone_iff_eq_none]
  rw [variableProblems, List.mem_append, htemplates, or_and_right, ← image_eq_missing_iff]
  refine or_congr_left ?_
  cases d.image known with
  | ok image => simp
  | error problem => simp [eq_comm]

end Defaults

/-- A required variable is missing when the source has none. -/
theorem Requirement.fault_missing_iff {source : Source} {q : Requirement} {key : String} :
    q.Fault source (.missing key) ↔ q.name = key ∧ source key = .absent := by
  constructor
  · intro h
    cases h with
    | absent hreading => exact ⟨rfl, hreading⟩
  · rintro ⟨rfl, hreading⟩
    exact .absent hreading

namespace Assembly

variable {a : Assembly} {files : FileTree} {d : Defaults} {known : Variables} {key : String}

/-! ## What is required -/

/-- The first requirement of a name, when all of them are not to be blank. -/
theorem find?_nonEmpty {names : List String} {q : Requirement} :
    (names.map (⟨·, .nonEmpty⟩)).find? (fun other : Requirement => other.name == q.name) = some q ↔
      q.kind = .nonEmpty ∧ q.name ∈ names := by
  constructor
  · intro h
    obtain ⟨name, hname, rfl⟩ := List.mem_map.mp (List.mem_of_find?_eq_some h)
    exact ⟨rfl, hname⟩
  · rintro ⟨hkind, hname⟩
    have hmem : q ∈ names.map (⟨·, .nonEmpty⟩) := List.mem_map.mpr ⟨q.name, hname, by rw [← hkind]⟩
    have hsome : ((names.map (⟨·, .nonEmpty⟩)).find? fun other : Requirement =>
        other.name == q.name).isSome :=
      List.find?_isSome.mpr ⟨q, hmem, beq_self_eq_true _⟩
    obtain ⟨other, hother⟩ := Option.isSome_iff_exists.mp hsome
    have hsame : other.name = q.name := by simpa using List.find?_some hother
    obtain ⟨name, -, rfl⟩ := List.mem_map.mp (List.mem_of_find?_eq_some hother)
    rw [hother, Option.some.injEq, show name = q.name from hsame, ← hkind]

/-- **What an application requires**: the variable that names the environment, and all others not to
be blank. -/
theorem mem_required {q : Requirement} : q ∈ (requirements d).required ↔
    q = ⟨Environment.key, .environment⟩ ∨ q.kind = .nonEmpty ∧
      q.name ≠ Environment.key ∧ d.Requires q.name := by
  have hdeclared : Requirements.declared (.requireImageTag d.name :: d.requiredEnv.map .require) =
      ⟨Environment.key, .environment⟩ :: (d.imageTagKey :: d.requiredEnv).map (⟨·, .nonEmpty⟩) := by
    simp [Requirements.declared, List.filterMap_map, Declaration.requirement?, Defaults.imageTagKey,
      Function.comp_def]
  rw [requirements_eq_ofDeclarations, (Requirements.lists_ofDeclarations _).required.mem_iff,
    hdeclared, List.find?_cons]
  by_cases hkey : Environment.key = q.name
  · -- the first declaration of the name counts, and it is that of the environment
    simp [hkey, eq_comm]
  · have hne : q ≠ ⟨Environment.key, .environment⟩ := fun heq => hkey (by rw [heq])
    simp only [beq_false_of_ne hkey, find?_nonEmpty, List.mem_cons, hne, false_or,
      Defaults.Requires, Ne.symm hkey, ne_eq, not_false_eq_true, true_and]

theorem exists_required_iff : (∃ q ∈ (requirements d).required, q.name = key) ↔ d.Requires key := by
  simp only [mem_required]
  constructor
  · rintro ⟨q, rfl | ⟨-, -, hrequires⟩, rfl⟩
    · exact .inl rfl
    · exact hrequires
  · intro hrequires
    by_cases hkey : key = Environment.key
    · exact ⟨_, .inl rfl, hkey.symm⟩
    · exact ⟨⟨key, .nonEmpty⟩, .inr ⟨rfl, hkey, hrequires⟩, rfl⟩

theorem optional_eq_nil (d : Defaults) : (requirements d).optional = [] := by
  rw [requirements_eq_ofDeclarations, List.eq_nil_iff_forall_not_mem]
  intro name
  rw [Requirements.mem_optional_iff]
  simp

/-- While variables are resolved, one is missing when it is required and the source has none. -/
theorem missing_mem_problems {source : Source} :
    .missing key ∈ (requirements d).problems source ↔ d.Requires key ∧ source key = .absent := by
  rw [Requirements.mem_problems, optional_eq_nil, ← exists_required_iff]
  simp only [Requirement.fault_missing_iff, List.not_mem_nil, false_and, exists_false, or_false]
  constructor
  · rintro ⟨q, hq, hname, habsent⟩
    exact ⟨⟨q, hq, hname⟩, habsent⟩
  · rintro ⟨⟨q, hq, hname⟩, habsent⟩
    exact ⟨q, hq, hname, habsent⟩

/-- **What is kept** are the required variables, but not the one that names the environment. -/
theorem get?_eq_none_iff (h : a.resolve d = .ok known) :
    known.get? key = none ↔ key = Environment.key ∨ ¬ d.Requires key := by
  obtain ⟨-, -, hresolved⟩ := Requirements.resolve_eq_ok h
  have hkept : (known.get? key).isSome ↔ key ≠ Environment.key ∧ d.Requires key := by
    rw [Variables.get?, ← Dict.mem_keys_iff, hresolved.names, mem_required, optional_eq_nil]
    simp
  rw [← Option.not_isSome_iff_eq_none, hkept]
  by_cases hkey : key = Environment.key <;> simp [hkey]

/-! ## What is reported -/

/-- **Which variables are reported as not set**: those that are required and that the source does
not have, and, when nothing else is wrong before templates are filled in, those that a template asks
for and that were not kept. -/
theorem exists_missing_iff :
    (∃ problems, a.assemble files d = .error (.configuration problems) ∧ .missing key ∈ problems) ↔
      (d.Requires key ∧ a.source key = .absent) ∨
        ∃ known secrets, a.resolve d = .ok known ∧
          a.store.load files d.name known.environment = .ok secrets ∧
          d.Acceptable ∧ d.AsksForUnread key := by
  constructor
  · rintro ⟨problems, hfailed, hmissing⟩
    rcases assemble_error_cases hfailed with
      ⟨-, hproblems⟩ | hload |
      ⟨known, secrets, hknown, hsecrets, ⟨-, hother⟩ | ⟨hacceptable, -, hproblems⟩ | hother⟩
    · cases hproblems
      exact .inl (missing_mem_problems.mp hmissing)
    · cases hload
    · cases hother
    · cases hproblems
      obtain ⟨hasked, hnone⟩ := Defaults.missing_mem_variableProblems.mp hmissing
      have hunread := (get?_eq_none_iff hknown).mp hnone
      refine .inr ⟨known, secrets, hknown, hsecrets, hacceptable, ?_, hunread⟩
      rcases hasked with rfl | hasked
      · -- the image tag is required, so it was kept
        rcases hunread with hkey | hnot
        · exact absurd hkey (imageTagKey_ne_environment d.name)
        · exact absurd (.inr (.inl rfl)) hnot
      · exact hasked
    · cases hother
  · rintro (⟨hrequires, habsent⟩ | ⟨known, secrets, hknown, hsecrets, hacceptable, hasked, hunread⟩)
    · have hmissing := missing_mem_problems.mpr ⟨hrequires, habsent⟩
      have hresolve := resolve_eq_error_iff.mpr ⟨List.ne_nil_of_mem hmissing, rfl⟩
      exact ⟨_, bind_eq_error_iff.mpr (.inl hresolve), hmissing⟩
    · have hmissing : .missing key ∈ d.variableProblems known secrets :=
        Defaults.missing_mem_variableProblems.mpr ⟨.inr hasked,
          (get?_eq_none_iff hknown).mpr hunread⟩
      have hbuild :
          d.build known secrets = .error (.configuration (d.variableProblems known secrets)) := by
        rw [Defaults.build_eq, if_neg (by simp [Defaults.faults_eq_nil_iff.mpr hacceptable]),
          if_neg (by simp [own_of_load hsecrets]), if_pos (List.ne_nil_of_mem hmissing)]
      refine ⟨_, bind_eq_error_iff.mpr (.inr ⟨known, hknown, ?_⟩), hmissing⟩
      refine bind_eq_error_iff.mpr (.inr ⟨secrets, hsecrets, ?_⟩)
      exact bind_eq_error_iff.mpr (.inl hbuild)

/-- **A variable is reported as not set exactly when** it is required and the source does not have
it, or a template asks for it and its value is not kept. So the report is right of every variable
but those that are asked for and not kept, and of these it is made whatever the source holds. -/
theorem reported_as_unset_iff (a : Assembly) (files : FileTree) (d : Defaults) (key : String) :
    ((∃ problems, a.assemble files d = .error (.configuration problems) ∧ .missing key ∈ problems) ↔
      (d.Requires key ∧ a.source key = .absent) ∨
        ∃ known secrets, a.resolve d = .ok known ∧
          a.store.load files d.name known.environment = .ok secrets ∧
          d.Acceptable ∧ d.AsksForUnread key) ∧
    ∀ problems, a.assemble files d = .error (.configuration problems) → .missing key ∈ problems →
      ¬ d.AsksForUnread key → a.source key = .absent := by
  refine ⟨exists_missing_iff, ?_⟩
  intro problems hfailed hmissing hread
  rcases exists_missing_iff.mp ⟨problems, hfailed, hmissing⟩ with
    ⟨-, habsent⟩ | ⟨_, _, -, -, -, hunread⟩
  · exact habsent
  · exact absurd hunread hread

/-! ## Reports that are right, and reports that are not -/

/-- A source with an environment, an image tag and a region. -/
def regionAssembly : Assembly where
  source :=
    .ofDict (Dict.ofList [("ENVIRONMENT", .text "local"), ("IMAGE_TAG_DEMO", .text "v1"),
      ("REGION", .text "eu")])
  store := { root := ".secrets" }

/-- An empty secrets file. -/
def regionFiles : FileTree where
  nodes := [([".secrets"], .directory), ([".secrets", "local"], .directory),
    ([".secrets", "local", "demo.env"], .file [])]

/-- An application that asks for a zone and requires it. -/
def zoneDefaults : Defaults :=
  { Defaults.plainDefaults with env := [("ZONE", .resolved "ZONE")], requiredEnv := ["ZONE"] }

theorem reported_as_unset_iff_zone :
    regionAssembly.assemble regionFiles zoneDefaults = .error (.configuration [.missing "ZONE"]) ∧
      ¬ zoneDefaults.AsksForUnread "ZONE" ∧ regionAssembly.source "ZONE" = .absent := by
  have hfailed : regionAssembly.assemble regionFiles zoneDefaults =
      .error (.configuration [.missing "ZONE"]) := by
    decide +kernel
  have hread : ¬ zoneDefaults.AsksForUnread "ZONE" := by
    rintro ⟨-, hkey | hnot⟩
    · exact absurd hkey (by decide)
    · exact hnot (.inr (.inr (by decide)))
  obtain ⟨-, hright⟩ := reported_as_unset_iff regionAssembly regionFiles zoneDefaults "ZONE"
  exact ⟨hfailed, hread, hright _ hfailed List.mem_cons_self hread⟩

/-- An application that asks for one variable and requires none of its own. -/
def askingFor (key : String) : Defaults :=
  { Defaults.plainDefaults with env := [("ASKED", .resolved key)] }

/-- **Variables that are set are reported as not set**: the one that names the environment, which
every application requires, and one that is not required. -/
theorem set_variables_reported_as_unset :
    (regionAssembly.assemble regionFiles (askingFor "ENVIRONMENT") =
        .error (.configuration [.missing "ENVIRONMENT"]) ∧
      regionAssembly.source "ENVIRONMENT" = .text "local") ∧
    regionAssembly.assemble regionFiles (askingFor "REGION") =
        .error (.configuration [.missing "REGION"]) ∧
      regionAssembly.source "REGION" = .text "eu" := by
  refine ⟨⟨?_, ?_⟩, ?_, ?_⟩
  · decide +kernel
  · decide +kernel
  · decide +kernel
  · decide +kernel

end Assembly

end AppRelease
