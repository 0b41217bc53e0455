import AppRelease.Catalog
import AppRelease.Overrides
import AppRelease.Proofs.Conditions

/-!
# What applications start from

Specification: an application of the catalog asks for no variables beyond the two that every
application needs, neither by name nor by a template, and goes by its own name (`Defaults.Listed`).
Overrides leave that as it is.

1. **One override.** `Property.change_cases` says what a property can do: put a literal under a
   name, or change something else than the name, the templates and the required variables.
2. **All overrides.** `Overrides.listed_effect`, by induction on the entries.
-/

namespace AppRelease

/-- Defaults of an application of this name that needs no variables of its own. -/
structure Defaults.Listed (name : String) (d : Defaults) : Prop where
  name_eq : d.name = name
  requiredEnv_eq : d.requiredEnv = []
  not_resolved : ∀ entry ∈ d.env, ∀ key, entry.2 ≠ .resolved key

/-! ## The catalog -/

namespace Catalog

/-- The catalog has an entry for exactly its names. -/
theorem exists_listed_iff {name : String} : (∃ listed, listed? name = some listed) ↔
    name ∈ names := by
  simp only [names, List.mem_cons, List.not_mem_nil, or_false]
  rw [listed?]
  split
  · simp [*]
  split
  · simp [*]
  split
  · simp [*]
  split
  · simp [*]
  · simp [*]

/-- No template of the catalog asks for a variable. -/
theorem not_resolved_of_listed {name : String} {port : UInt16} {env : List (String × Template)}
    (h : listed? name = some (port, env)) : ∀ entry ∈ env, ∀ key, entry.2 ≠ .resolved key := by
  have hall : ∀ parts : List (String × Template),
      (parts.all fun entry => !entry.2 matches .resolved _) = true →
        ∀ entry ∈ parts, ∀ key, entry.2 ≠ .resolved key := by
    rintro parts hparts ⟨n, t⟩ hentry key rfl
    exact absurd (List.all_eq_true.mp hparts _ hentry) (by simp)
  rw [listed?] at h
  split at h
  · cases h
    exact hall _ rfl
  split at h
  · cases h
    exact hall _ rfl
  split at h
  · cases h
    exact hall _ rfl
  split at h
  · cases h
    exact hall _ rfl
  · exact absurd h (by simp)

variable {name : String} {project : Project} {d : Defaults}

/-- Defaults of the catalog are those of an application that needs no variables of its own. -/
theorem listed_of_defaultsFor (h : defaultsFor name project = .ok d) : d.Listed name := by
  rw [defaultsFor] at h
  split at h
  · exact absurd h (by simp)
  · rename_i port env hentry
    cases h
    exact ⟨rfl, rfl, not_resolved_of_listed hentry⟩

end Catalog

/-! ## One override -/

/-- What a property does to defaults: it puts a literal under a name, or changes none of the name,
the templates and the required variables. -/
theorem Property.change_cases {value : String} {p : Property} {f : Defaults → Defaults}
    (h : p.change value = .ok f) :
    (∃ name, f = fun d => d.setEnv name (.literal value)) ∨
      ∀ d, (f d).name = d.name ∧ (f d).env = d.env ∧ (f d).requiredEnv = d.requiredEnv := by
  cases p with
  | env name =>
    cases h
    exact .inl ⟨name, rfl⟩
  | host | nameSpace | registry =>
    cases h
    exact .inr fun d => ⟨rfl, rfl, rfl⟩
  | replicas | port | requestCpu | limitCpu | requestMemory | limitMemory =>
    -- a number or a quantity is read first; what it is does not matter
    obtain ⟨read, -, hf⟩ := bind_eq_ok_iff.mp h
    cases hf
    exact .inr fun d => ⟨rfl, rfl, rfl⟩

/-- The templates after one is put under a name are that one and those that were there. -/
theorem mem_setTemplate {name : String} {template : Template} {env : List (String × Template)}
    {entry : String × Template} (h : entry ∈ setTemplate name template env) :
    entry.2 = template ∨ entry ∈ env := by
  induction env with
  | nil =>
    rw [setTemplate, List.mem_singleton] at h
    exact .inl (by rw [h])
  | cons first rest ih =>
    obtain ⟨n, t⟩ := first
    rw [setTemplate] at h
    split at h
    · rcases List.mem_cons.mp h with rfl | h
      · exact .inl rfl
      · exact .inr (List.mem_cons_of_mem _ h)
    · rcases List.mem_cons.mp h with rfl | h
      · exact .inr List.mem_cons_self
      · rcases ih h with h | h
        · exact .inl h
        · exact .inr (List.mem_cons_of_mem _ h)

/-- One override leaves an application without variables of its own. -/
theorem Override.listed_step {name : String} {d : Defaults} (h : d.Listed name)
    (entry : String × String) :
    (step d entry).Listed name := by
  rw [step]
  cases hchange : change entry.1 entry.2 with
  | error reason => exact h
  | ok f =>
    rw [change] at hchange
    cases hproperty : Property.ofKey? entry.1 with
    | none => simp [hproperty] at hchange
    | some property =>
      simp only [hproperty] at hchange
      rcases Property.change_cases hchange with ⟨n, rfl⟩ | hsame
      · refine ⟨h.name_eq, h.requiredEnv_eq, ?_⟩
        intro entry hentry key
        rcases mem_setTemplate hentry with htemplate | hmem
        · rw [htemplate]
          exact nofun
        · exact h.not_resolved entry hmem key
      · obtain ⟨hname, henv, hrequired⟩ := hsame d
        refine ⟨hname.trans h.name_eq, hrequired.trans h.requiredEnv_eq, ?_⟩
        show ∀ entry ∈ (f d).env, ∀ key, entry.2 ≠ .resolved key
        rw [henv]
        exact h.not_resolved

/-! ## All overrides -/

namespace Overrides

/-- **Overrides leave an application without variables of its own.** -/
theorem listed_effect {name : String} {d : Defaults} (h : d.Listed name) (o : Overrides) :
    (o.effect d).Listed name := by
  rw [effect]
  generalize o.entries = entries
  induction entries generalizing d with
  | nil => exact h
  | cons entry rest ih => exact ih (Override.listed_step h entry)

/-- No override is rejected exactly when each makes a change. -/
theorem rejections_eq_nil_iff {o : Overrides} : o.rejections = [] ↔
    ∀ entry ∈ o.entries, ∃ change, Override.change entry.1 entry.2 = .ok change := by
  rw [rejections, List.filterMap_eq_nil_iff]
  refine forall₂_congr fun entry _ => ?_
  rw [Override.rejection?]
  cases Override.change entry.1 entry.2 <;> simp

end Overrides

end AppRelease
