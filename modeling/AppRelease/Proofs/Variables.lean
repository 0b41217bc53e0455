import AppRelease.Assembly
import AppRelease.Proofs.Laws

/-!
# What a source says

Specification: a source gives a text under a key when it holds one there that is not blank, and
blanks around it do not count (`Source.Gives`). The run is in an environment when the text under
`ENVIRONMENT` is its name (`Source.IsIn`). What becomes of a required variable is said in these
words (`read_nonEmpty`, `read_environment`).

1. **Nothing else is read.** `Requirements.resolve_congr`: sources that agree on the variables that
   are declared give the same result, whatever else they hold.
2. **Applications without variables of their own.** They need two variables, and
   `Assembly.resolve_cases` says that either both are given or the problems of both are reported
   together.
-/

namespace AppRelease

theorem Environment.name_ne_empty (e : Environment) : e.name ≠ "" := by
  cases e <;> decide

/-- A name is read as the environment that has it. -/
theorem Environment.ofName?_eq_some_iff {s : String} {e : Environment} :
    Environment.ofName? s = some e ↔ s = e.name := by
  constructor
  · intro h
    have hname := List.find?_some h
    exact (eq_of_beq hname).symm
  · rintro rfl
    cases e <;> decide

theorem Environment.name_injective {e e' : Environment} (h : e.name = e'.name) : e = e' := by
  have hsome := Environment.ofName?_eq_some_iff.mpr h
  rw [Environment.ofName?_eq_some_iff.mpr rfl] at hsome
  exact Option.some.inj hsome

/-! ## What is given -/

namespace Source

/-- A source gives a text: it holds one under the key that is not blank, and this is what is left of
it without the blanks around it. -/
def Gives (source : Source) (key text : String) : Prop :=
  ∃ raw, source key = .text raw ∧ text = Text.trim raw ∧ text ≠ ""

/-- The run is in an environment: the source gives its name. -/
def IsIn (source : Source) (e : Environment) : Prop := source.Gives Environment.key e.name

variable {source : Source} {key text text' : String} {e e' : Environment}

theorem Gives.unique (h : source.Gives key text) (h' : source.Gives key text') : text = text' := by
  obtain ⟨raw, hraw, rfl, -⟩ := h
  obtain ⟨raw', hraw', rfl, -⟩ := h'
  rw [hraw, Reading.text.injEq] at hraw'
  rw [hraw']

theorem IsIn.unique (h : source.IsIn e) (h' : source.IsIn e') : e = e' :=
  Environment.name_injective (Gives.unique h h')

theorem gives_iff_eq (h : source.Gives key text) (other : String) :
    source.Gives key other ↔ other = text :=
  ⟨fun h' => h'.unique h, fun heq => heq ▸ h⟩

theorem isIn_iff_eq (h : source.IsIn e) (other : Environment) : source.IsIn other ↔ other = e :=
  ⟨fun h' => h'.unique h, fun heq => heq ▸ h⟩

end Source

/-! ## What becomes of a variable -/

namespace Requirement

/-- A required variable has a value when the source gives one, and is a problem otherwise. -/
theorem read_nonEmpty (source : Source) (key : String) :
    (∃ text, source.Gives key text ∧ read source ⟨key, .nonEmpty⟩ = .value key text) ∨
      (¬ ∃ text, source.Gives key text) ∧
        ∃ problem, read source ⟨key, .nonEmpty⟩ = .problem problem := by
  cases hreading : source key with
  | absent => exact .inr ⟨by simp [Source.Gives, hreading], by simp [read, hreading]⟩
  | undecodable bytes => exact .inr ⟨by simp [Source.Gives, hreading], by simp [read, hreading]⟩
  | text raw =>
    by_cases hblank : Text.trim raw = ""
    · exact .inr ⟨by simp [Source.Gives, hreading, hblank], by simp [read, hreading, hblank]⟩
    · exact .inl ⟨Text.trim raw, ⟨raw, hreading, rfl, hblank⟩, by simp [read, hreading, hblank]⟩

/-- The variable that names the environment does so, or is a problem. -/
theorem read_environment (source : Source) :
    (∃ e, source.IsIn e ∧ read source ⟨Environment.key, .environment⟩ = .environment e) ∨
      (¬ ∃ e, source.IsIn e) ∧
        ∃ problem, read source ⟨Environment.key, .environment⟩ = .problem problem := by
  cases hreading : source Environment.key with
  | absent => exact .inr ⟨by simp [Source.IsIn, Source.Gives, hreading], by simp [read, hreading]⟩
  | undecodable bytes =>
    exact .inr ⟨by simp [Source.IsIn, Source.Gives, hreading], by simp [read, hreading]⟩
  | text raw =>
    by_cases hblank : Text.trim raw = ""
    · exact .inr ⟨by simp [Source.IsIn, Source.Gives, hreading, hblank,
        Environment.name_ne_empty], by simp [read, hreading, hblank]⟩
    · cases hname : Environment.ofName? (Text.trim raw) with
      | some e =>
        have heq := Environment.ofName?_eq_some_iff.mp hname
        exact .inl ⟨e, ⟨raw, hreading, heq.symm, e.name_ne_empty⟩,
          by simp [read, hreading, hblank, hname]⟩
      | none =>
        refine .inr ⟨?_, by simp [read, hreading, hblank, hname]⟩
        rintro ⟨e, raw', hraw', heq, -⟩
        rw [hreading, Reading.text.injEq] at hraw'
        rw [hraw', ← heq, Environment.ofName?_eq_some_iff.mpr rfl] at hname
        exact absurd hname (by simp)

/-- What becomes of a variable depends on what the source holds under its name. -/
theorem read_congr {source source' : Source} {r : Requirement}
    (h : source r.name = source' r.name) :
    r.read source = r.read source' := by
  rw [read, read, h]

end Requirement

/-- **Nothing is read but what is declared.** -/
theorem Requirements.resolve_congr {r : Requirements} {source source' : Source}
    (hrequired : ∀ requirement ∈ r.required, source requirement.name = source' requirement.name)
    (hoptional : ∀ name ∈ r.optional, source name = source' name) :
    r.resolve source = r.resolve source' := by
  have houtcomes : r.outcomes source = r.outcomes source' := by
    rw [outcomes, outcomes]
    congr 1
    · exact List.map_congr_left fun requirement h =>
        Requirement.read_congr (hrequired requirement h)
    · refine List.map_congr_left fun name h => ?_
      rw [readOptional, readOptional, hoptional name h]
  rw [resolve, resolve, houtcomes]

/-! ## Applications without variables of their own -/

theorem imageTagKey_ne_environment (application : String) :
    imageTagKey application ≠ Environment.key := by
  intro h
  have hhead := congrArg (fun s : String => s.toList.head?) h
  simp [imageTagKey, Environment.key] at hhead

/-- What is wrong with the two variables that every application needs. -/
def variableProblems (source : Source) (tagKey : String) : List Problem :=
  let required : List Requirement := [⟨Environment.key, .environment⟩, ⟨tagKey, .nonEmpty⟩]
  (required.map (Requirement.read source)).filterMap Outcome.problem?

namespace Assembly

variable {a : Assembly} {d : Defaults}

/-- The environment and the image tag are required of every application. -/
theorem requirements_eq (hown : d.requiredEnv = []) :
    requirements d = ⟨[⟨Environment.key, .environment⟩, ⟨d.imageTagKey, .nonEmpty⟩], []⟩ := by
  have hne : ¬ Environment.key = imageTagKey d.name := (imageTagKey_ne_environment d.name).symm
  simp [requirements, hown, Requirements.requireImageTag, Requirements.require,
    Requirements.addRequired, Requirements.initial, hne, Defaults.imageTagKey]

/-- **Both variables are given, or the problems of both are reported together.** -/
theorem resolve_cases (a : Assembly) (hown : d.requiredEnv = []) :
    (∃ e tag, a.source.IsIn e ∧ a.source.Gives d.imageTagKey tag ∧
        a.resolve d = .ok ⟨e, Dict.ofList [(d.imageTagKey, tag)]⟩) ∨
      ¬ ((∃ e, a.source.IsIn e) ∧ ∃ tag, a.source.Gives d.imageTagKey tag) ∧
        a.resolve d = .error (.configuration (variableProblems a.source d.imageTagKey)) := by
  rw [resolve, requirements_eq hown, Requirements.resolve, Requirements.outcomes, variableProblems]
  simp only [List.map_cons, List.map_nil, List.append_nil]
  rcases Requirement.read_environment a.source with ⟨e, he, hread⟩ | ⟨hnone, problem, hread⟩
  · rcases Requirement.read_nonEmpty a.source d.imageTagKey with
      ⟨tag, htag, hread'⟩ | ⟨hnone', problem', hread'⟩
    · refine .inl ⟨e, tag, he, htag, ?_⟩
      rw [hread, hread']
      rfl
    · refine .inr ⟨fun h => hnone' h.2, ?_⟩
      rw [hread, hread']
      rfl
  · refine .inr ⟨fun h => hnone h.1, ?_⟩
    rcases Requirement.read_nonEmpty a.source d.imageTagKey with
      ⟨tag, -, hread'⟩ | ⟨-, problem', hread'⟩
    · rw [hread, hread']
      rfl
    · rw [hread, hread']
      rfl

end Assembly

end AppRelease
