import AppRelease.Proofs.Resolution

/-!
# What a declaration decides

Specification: two kinds of declarations can change a run that would succeed without them. A
requirement to name an environment changes which environment it is in, and an optional variable is
read if it is there.

1. **The environment.** It is the one that is named by the last variable that is required to name
   one (`Requirements.selector?`). So the variable `ENVIRONMENT` decides, whatever the source holds,
   exactly when no other variable is required to name an environment
   (`Requirements.environment_named_by_last`).
2. **Optional variables.** Wherever it is declared, an optional variable adds its own value and
   nothing else. There is one exception, and it is exact: a variable that is no text is a problem,
   and then the run fails with this problem alone (`Requirements.optional_adds_or_is_undecodable`).
3. **The crux (`Requirements.getLast?_environments`).** Environments are collected from all outcomes
   and the last one counts. Without a fault every variable that is required to name an environment
   does so, and no other variable does, so the last environment is that of the last such variable.
-/

namespace AppRelease

theorem Declaration.optional?_eq_some_iff {d : Declaration} {name : String} :
    d.optional? = some name ↔ d = .optionally name := by
  cases d <;> simp [optional?]

/-! ## Environments among the outcomes -/

theorem Outcome.environment?_eq_some_iff {o : Outcome} {e : Environment} :
    o.environment? = some e ↔ o = .environment e := by
  cases o <;> simp [environment?]

/-- A required variable names an environment when it has to and the source gives the name. -/
theorem Requirement.read_environment? {source : Source} {q : Requirement} {e : Environment} :
    (q.read source).environment? = some e ↔ q.kind = .environment ∧ source.Gives q.name e.name := by
  rw [Outcome.environment?_eq_some_iff]
  constructor
  · intro h
    rcases q.read_cases source with ⟨p, hfault⟩ | ⟨text, -, -, hread⟩ | ⟨e', hkind, hgives, hread⟩
    · cases h.symm.trans hfault.read_eq
    · cases h.symm.trans hread
    · cases h.symm.trans hread
      exact ⟨hkind, hgives⟩
  · rintro ⟨hkind, raw, hreading, hname, hfull⟩
    have hread : Environment.ofName? e.name = some e := Environment.ofName?_eq_some_iff.mpr rfl
    simp [Requirement.read, hreading, hkind, ← hname, hread, hfull]

/-- An optional variable names no environment. -/
theorem readOptional_environment? (source : Source) (name : String) :
    (readOptional source name).environment? = none := by
  rcases readOptional_cases source name with ⟨p, hfault⟩ | ⟨text, -, hread⟩ | hread
  · rw [hfault.read_eq]
    rfl
  · rw [hread]
    rfl
  · rw [hread]
    rfl

namespace Requirements

variable {r r' : Requirements} {source : Source} {v v' : Variables} {q : Requirement}

/-! ## The environment of a run -/

/-- The variable that selects the environment: the last one that is required to name an
environment. -/
def selector? (r : Requirements) : Option Requirement :=
  r.required.findRev? fun q => q.kind == .environment

theorem selector?_eq_some_iff : r.selector? = some q ↔ q.kind = .environment ∧
    ∃ before after, r.required = before ++ q :: after ∧
      ∀ other ∈ after, other.kind ≠ .environment := by
  rw [selector?, List.findRev?_eq_find?_reverse, List.find?_eq_some_iff_append, beq_iff_eq]
  refine and_congr_right fun _ => ⟨?_, ?_⟩
  · rintro ⟨after, before, hsplit, hafter⟩
    refine ⟨before.reverse, after.reverse, ?_, fun other hother => ?_⟩
    · rw [← List.reverse_reverse r.required, hsplit]
      simp
    · simpa using hafter other (List.mem_reverse.mp hother)
  · rintro ⟨before, after, hsplit, hafter⟩
    refine ⟨after.reverse, before.reverse, by simp [hsplit], fun other hother => ?_⟩
    simpa using hafter other (List.mem_reverse.mp hother)

/-- A run that succeeds has no fault, its environment is the last one among the outcomes, and its
values are those that the source gives. -/
theorem resolve_eq_ok (h : r.resolve source = .ok v) : ¬ r.Faulty source ∧
    ((r.outcomes source).filterMap Outcome.environment?).getLast? = some v.environment ∧
      r.Resolved source v := by
  obtain ⟨required, optional, hproblems, hrequired, hoptional⟩ := exists_reports r source
  simp only [resolve, hproblems] at h
  split at h
  case isFalse => exact absurd h (by simp)
  case isTrue hempty =>
    obtain ⟨hnone, hnone'⟩ := List.append_eq_nil_iff.mp (List.isEmpty_iff.mp hempty)
    have hsound : ¬ r.Faulty source :=
      not_or.mpr ⟨hrequired.eq_nil_iff.mp hnone, hoptional.eq_nil_iff.mp hnone'⟩
    split at h
    case h_1 e he =>
      rw [← Except.ok.inj h]
      exact ⟨hsound, he, resolved_values hsound e⟩
    case h_2 => exact absurd h (by simp)

/-- **The last environment among the outcomes is that of the selector.** -/
theorem getLast?_environments (hsound : ¬ r.Faulty source) (hselector : r.selector? = some q) :
    ((r.outcomes source).filterMap Outcome.environment?).getLast? =
      (q.read source).environment? := by
  obtain ⟨hkind, before, after, hsplit, hafter⟩ := selector?_eq_some_iff.mp hselector
  obtain ⟨e, hread⟩ : ∃ e, (q.read source).environment? = some e := by
    rcases q.read_cases source with hfault | ⟨text, hkind', -⟩ | ⟨e, -, hgives, -⟩
    · exact absurd (.inl ⟨q, by simp [hsplit], hfault⟩) hsound
    · exact absurd (hkind.symm.trans hkind') (by simp)
    · exact ⟨e, Requirement.read_environment?.mpr ⟨hkind, hgives⟩⟩
  -- no variable after the selector names an environment, be it required or optional
  have hrest : (after.map (Requirement.read source) ++
      r.optional.map (readOptional source)).filterMap Outcome.environment? = [] := by
    rw [List.filterMap_eq_nil_iff]
    intro o ho
    rcases List.mem_append.mp ho with ho | ho
    · obtain ⟨other, hother, rfl⟩ := List.mem_map.mp ho
      rw [Option.eq_none_iff_forall_ne_some]
      intro e' he'
      exact hafter other hother (Requirement.read_environment?.mp he').1
    · obtain ⟨name, -, rfl⟩ := List.mem_map.mp ho
      exact readOptional_environment? source name
  have houtcomes : r.outcomes source = before.map (Requirement.read source) ++
      q.read source :: (after.map (Requirement.read source) ++
        r.optional.map (readOptional source)) := by
    simp [outcomes, hsplit]
  rw [houtcomes, List.filterMap_append, List.filterMap_cons_some hread, hrest,
    List.getLast?_concat, hread]

/-- **The selector names the environment of a run.** -/
theorem environment_of_selector (hselector : r.selector? = some q) (h : r.resolve source = .ok v) :
    source.Gives q.name v.environment.name := by
  obtain ⟨hsound, hlast, -⟩ := resolve_eq_ok h
  rw [getLast?_environments hsound hselector] at hlast
  exact (Requirement.read_environment?.mp hlast).2

theorem key_mem_required (ds : List Declaration) :
    ⟨Environment.key, .environment⟩ ∈ (ofDeclarations ds).required :=
  List.mem_of_head? (lists_ofDeclarations ds).required.head?

/-- Whatever is declared, there is a selector, as every run starts with one. -/
theorem exists_selector (ds : List Declaration) : ∃ q, (ofDeclarations ds).selector? = some q := by
  rw [← Option.isSome_iff_exists, selector?, List.findRev?_eq_find?_reverse, List.find?_isSome]
  exact ⟨_, List.mem_reverse.mpr (key_mem_required ds), by decide⟩

/-- Whatever is declared, a run without a fault succeeds. -/
theorem exists_resolve {ds : List Declaration} (hsound : ¬ (ofDeclarations ds).Faulty source) :
    ∃ v, (ofDeclarations ds).resolve source = .ok v := by
  rcases resolve_cases (key_mem_required ds) source with ⟨hfaulty, -⟩ | ⟨-, v, hresolve, -⟩
  · exact absurd hfaulty hsound
  · exact ⟨v, hresolve⟩

/-- A selector with the name `ENVIRONMENT` is the only variable that is required to name an
environment, as that name is required first and only once. -/
theorem eq_key_of_selector {ds : List Declaration}
    (hselector : (ofDeclarations ds).selector? = some q) (hname : q.name = Environment.key)
    {other : Requirement} (hother : other ∈ (ofDeclarations ds).required)
    (hkind : other.kind = .environment) : other.name = Environment.key := by
  have hlists := (lists_ofDeclarations ds).required
  have hnodup := hlists.nodup
  obtain ⟨-, before, after, hsplit, hafter⟩ := selector?_eq_some_iff.mp hselector
  have hhead := hlists.head?
  rw [hsplit] at hhead hnodup hother
  cases before with
  | nil =>
    -- the selector comes first, and after it nothing names an environment
    rcases List.mem_cons.mp hother with rfl | hrest
    · exact hname
    · exact absurd hkind (hafter other hrest)
  | cons first rest =>
    -- the selector would be a second requirement of its name
    have hfirst : first = ⟨Environment.key, .environment⟩ := Option.some.inj hhead
    have hne := (List.nodup_cons.mp hnodup).1
    exact absurd (by simp [hfirst, hname]) hne

/-! ## Two names for an environment -/

/-- A source that names one environment under `ENVIRONMENT` and another one everywhere else. -/
def dividedSource : Source :=
  fun name => .text (if name = Environment.key then "local" else "production")

theorem isIn_dividedSource : dividedSource.IsIn .localMachine :=
  ⟨"local", by simp [dividedSource], by decide, by decide⟩

theorem dividedSource_gives {name : String} (hname : name ≠ Environment.key) :
    dividedSource.Gives name Environment.production.name :=
  ⟨"production", by simp [dividedSource, hname], by decide, by decide⟩

/-- Where every variable names an environment, none has a fault. -/
theorem not_faulty_of_gives (h : ∀ name, ∃ e : Environment, source.Gives name e.name) :
    ¬ r.Faulty source := by
  rintro (⟨q, -, p, hfault⟩ | ⟨name, -, p, hfault⟩)
  · obtain ⟨e, hgives⟩ := h q.name
    have hread := hfault.read_eq
    cases hkind : q.kind with
    | nonEmpty =>
      have hvalue := Requirement.read_value?.mpr ⟨by rw [← hkind], hgives⟩
      exact absurd hvalue (by simp [hread, Outcome.value?])
    | environment =>
      have henvironment := Requirement.read_environment?.mpr ⟨hkind, hgives⟩
      exact absurd henvironment (by simp [hread, Outcome.environment?])
  · obtain ⟨e, hgives⟩ := h name
    have hvalue := readOptional_value?.mpr ⟨rfl, hgives⟩
    exact absurd hvalue (by simp [hfault.read_eq, Outcome.value?])

theorem not_faulty_dividedSource (r : Requirements) : ¬ r.Faulty dividedSource := by
  refine not_faulty_of_gives fun name => ?_
  by_cases hname : name = Environment.key
  · exact ⟨.localMachine, hname ▸ isIn_dividedSource⟩
  · exact ⟨.production, dividedSource_gives hname⟩

/-- **The last variable that is required to name an environment decides.** Whatever is declared,
there is such a variable, and a run that succeeds is in the environment that it names. The variable
`ENVIRONMENT` decides for every source exactly when no other one is required to name an
environment. -/
theorem environment_named_by_last (ds : List Declaration) :
    ∃ q, (ofDeclarations ds).selector? = some q ∧
      (∀ source v, (ofDeclarations ds).resolve source = .ok v →
        source.Gives q.name v.environment.name) ∧
      ((∀ source v, (ofDeclarations ds).resolve source = .ok v → source.IsIn v.environment) ↔
        ∀ other ∈ (ofDeclarations ds).required, other.kind = .environment →
          other.name = Environment.key) := by
  obtain ⟨q, hselector⟩ := exists_selector ds
  have hgives : ∀ source v, (ofDeclarations ds).resolve source = .ok v →
      source.Gives q.name v.environment.name :=
    fun source v h => environment_of_selector hselector h
  refine ⟨q, hselector, hgives, ⟨fun hdecides other hother hkind => ?_, fun honly source v h => ?_⟩⟩
  · obtain ⟨v, hresolve⟩ := exists_resolve (not_faulty_dividedSource (ofDeclarations ds))
    have hlocal : v.environment = .localMachine := (hdecides _ v hresolve).unique isIn_dividedSource
    by_cases hname : q.name = Environment.key
    · exact eq_key_of_selector hselector hname hother hkind
    · -- under any other name the divided source names another environment
      have hother' := (hgives _ v hresolve).unique (dividedSource_gives hname)
      rw [hlocal] at hother'
      exact absurd hother' (by decide)
  · obtain ⟨hkind, before, after, hsplit, -⟩ := selector?_eq_some_iff.mp hselector
    have hname := honly q (by simp [hsplit]) hkind
    rw [Source.IsIn, ← hname]
    exact hgives source v h

/-- Declarations with a second variable that is required to name an environment, and that may be
read as well. -/
def secondDeclarations : List Declaration :=
  [.addRequired ⟨"SECOND", .environment⟩, .optionally "SECOND"]

theorem resolve_secondDeclarations : (ofDeclarations secondDeclarations).resolve dividedSource =
    .ok ⟨.production, Dict.ofList [("SECOND", "production")]⟩ := by decide +kernel

theorem environment_named_by_last_second :
    (ofDeclarations secondDeclarations).selector? = some ⟨"SECOND", .environment⟩ ∧
      ∃ v, (ofDeclarations secondDeclarations).resolve dividedSource = .ok v ∧
        dividedSource.Gives "SECOND" v.environment.name := by
  have hselector : (ofDeclarations secondDeclarations).selector? =
      some ⟨"SECOND", .environment⟩ := by
    decide +kernel
  obtain ⟨q, hq, hgives, -⟩ := environment_named_by_last secondDeclarations
  obtain rfl := Option.some.inj (hselector.symm.trans hq)
  exact ⟨hselector, _, resolve_secondDeclarations, hgives _ _ resolve_secondDeclarations⟩

/-- The variable `ENVIRONMENT` names one environment and the run is in another one. -/
theorem second_variable_decides :
    dividedSource.IsIn .localMachine ∧
      (ofDeclarations secondDeclarations).resolve dividedSource =
        .ok ⟨.production, Dict.ofList [("SECOND", "production")]⟩ ∧
      ¬ ∀ ds source v, (ofDeclarations ds).resolve source = .ok v → source.IsIn v.environment := by
  refine ⟨isIn_dividedSource, resolve_secondDeclarations, fun hdecides => ?_⟩
  exact absurd ((hdecides _ _ _ resolve_secondDeclarations).unique isIn_dividedSource) (by decide)

/-! ## One more optional variable -/

@[simp] theorem required_optionally (r : Requirements) (name : String) :
    (r.optionally name).required = r.required := by
  rw [optionally]
  split <;> rfl

/-- A declaration adds the same requirements whatever is optional. -/
theorem required_declare_congr (h : r.required = r'.required) (d : Declaration) :
    (r.declare d).required = (r'.declare d).required := by
  have hadd : ∀ q, (r.addRequired q).required = (r'.addRequired q).required := by
    intro q
    rw [addRequired, addRequired, h]
    split
    · exact h
    · rfl
  cases d with
  | require name => exact hadd ⟨name, .nonEmpty⟩
  | requireImageTag application => exact hadd ⟨imageTagKey application, .nonEmpty⟩
  | addRequired q => exact hadd q
  | optionally name => simpa [declare] using h

theorem required_declareAll_congr (h : r.required = r'.required) (ds : List Declaration) :
    (ds.foldl declare r).required = (ds.foldl declare r').required := by
  induction ds generalizing r r' with
  | nil => exact h
  | cons d rest ih => exact ih (required_declare_congr h d)

section Insertion

variable {before after ds : List Declaration} {name : String}

/-- An optional variable requires nothing, wherever it is declared. -/
theorem required_insert_optionally (before after : List Declaration) (name : String) :
    (ofDeclarations (before ++ .optionally name :: after)).required =
      (ofDeclarations (before ++ after)).required := by
  rw [ofDeclarations, ofDeclarations, List.foldl_append, List.foldl_append, List.foldl_cons]
  exact required_declareAll_congr (required_optionally _ name) after

theorem mem_optional_iff : name ∈ (ofDeclarations ds).optional ↔
    Declaration.optionally name ∈ ds := by
  have hlists := (lists_ofDeclarations ds).optional
  constructor
  · intro hname
    obtain ⟨d, hd, hoptional⟩ :=
      List.mem_filterMap.mp (List.mem_of_find?_eq_some ((hlists.mem_iff name).mp hname))
    exact Declaration.optional?_eq_some_iff.mp hoptional ▸ hd
  · intro hd
    have hmem : name ∈ ds.filterMap Declaration.optional? := List.mem_filterMap.mpr ⟨_, hd, rfl⟩
    obtain ⟨other, hother, hsame⟩ :=
      (hlists.find?_isSome name).mp (List.find?_isSome.mpr ⟨name, hmem, by simp⟩)
    rw [id, id] at hsame
    exact hsame ▸ hother

/-- An optional variable is added to those that are declared anyway. -/
theorem mem_insert_optionally {other : String} :
    other ∈ (ofDeclarations (before ++ .optionally name :: after)).optional ↔
      other = name ∨ other ∈ (ofDeclarations (before ++ after)).optional := by
  rw [mem_optional_iff, mem_optional_iff, List.mem_append, List.mem_append, List.mem_cons,
    Declaration.optionally.injEq]
  exact or_left_comm

end Insertion

/-- The value of a variable is what the source gives, if the variable is declared and does not name
an environment. -/
theorem Resolved.get?_eq_some_iff (h : r.Resolved source v) {name text : String} :
    v.get? name = some text ↔
    (⟨name, .nonEmpty⟩ ∈ r.required ∨ name ∈ r.optional) ∧ source.Gives name text := by
  constructor
  · intro hget
    have hkey : name ∈ v.values.keys :=
      (Dict.mem_keys_iff _).mpr (by rw [← Variables.get?, hget]; rfl)
    refine ⟨?_, h.values name text hget⟩
    exact ((h.names name).mp hkey).imp_right And.left
  · rintro ⟨hdeclared, hgives⟩
    have hkey : name ∈ v.values.keys :=
      (h.names name).mpr (hdeclared.imp_right fun ho => ⟨ho, text, hgives⟩)
    obtain ⟨text', htext'⟩ := Option.isSome_iff_exists.mp ((Dict.mem_keys_iff _).mp hkey)
    rw [hgives.unique (h.values name text' htext')]
    exact htext'

end Requirements

theorem exists_optionalFault_iff {source : Source} {name : String} :
    (∃ p, OptionalFault source name p) ↔ ∃ bytes, source name = .undecodable bytes := by
  constructor
  · rintro ⟨p, hfault⟩
    cases hfault with
    | undecodable hreading => exact ⟨_, hreading⟩
  · rintro ⟨bytes, hreading⟩
    exact ⟨_, .undecodable hreading⟩

/-- Where one item alone has a fault, its problem is the whole report. -/
theorem Reports.eq_singleton {α : Type} {fault : α → Problem → Prop} {items : List α}
    {problems : List Problem} {a : α} {p : Problem} (h : Reports fault items problems)
    (hnodup : items.Nodup) (ha : a ∈ items) (hproblem : ∀ p', fault a p' ↔ p' = p)
    (hothers : ∀ b ∈ items, (∃ p', fault b p') → b = a) :
    problems = [p] := by
  induction h with
  | nil => exact absurd ha (by simp)
  | sound hnone hrest ih =>
    obtain ⟨-, hnodup⟩ := List.nodup_cons.mp hnodup
    rcases List.mem_cons.mp ha with rfl | ha
    · exact absurd ⟨p, (hproblem p).mpr rfl⟩ hnone
    · exact ih hnodup ha fun b hb => hothers b (List.mem_cons_of_mem _ hb)
  | faulty hfault hrest ih =>
    obtain ⟨hnot, -⟩ := List.nodup_cons.mp hnodup
    obtain rfl := hothers _ List.mem_cons_self ⟨_, hfault⟩
    -- the item does not come again, so nothing is left to report
    have hnil := hrest.eq_nil_iff.mpr fun ⟨b, hb, hbad⟩ =>
      hnot (hothers b (List.mem_cons_of_mem _ hb) hbad ▸ hb)
    rw [(hproblem _).mp hfault, hnil]

namespace Requirements

section OneMore

variable {before after : List Declaration} {name : String} {source : Source} {v v' : Variables}

/-- One more optional variable adds one more way to fail. -/
theorem faulty_insert_optionally :
    (ofDeclarations (before ++ .optionally name :: after)).Faulty source ↔
    (∃ bytes, source name = .undecodable bytes) ∨
      (ofDeclarations (before ++ after)).Faulty source := by
  simp only [Faulty, required_insert_optionally, mem_insert_optionally, ← exists_optionalFault_iff]
  constructor
  · rintro (hrequired | ⟨other, rfl | hother, hfault⟩)
    · exact .inr (.inl hrequired)
    · exact .inl hfault
    · exact .inr (.inr ⟨other, hother, hfault⟩)
  · rintro (hfault | hrequired | ⟨other, hother, hfault⟩)
    · exact .inr ⟨name, .inl rfl, hfault⟩
    · exact .inl hrequired
    · exact .inr ⟨other, .inr hother, hfault⟩

/-- An optional variable that is no text is the one problem of a run that has no other. -/
theorem resolve_of_undecodable {bytes : List UInt8}
    (hsound : ¬ (ofDeclarations (before ++ after)).Faulty source)
    (hreading : source name = .undecodable bytes) :
    (ofDeclarations (before ++ .optionally name :: after)).resolve source =
      .error (.configuration [.invalid name (Text.lossy bytes) "valid UTF-8"]) := by
  have hlists := lists_ofDeclarations (before ++ .optionally name :: after)
  rcases resolve_cases (key_mem_required (before ++ .optionally name :: after)) source with
    ⟨-, required, optional, hresolve, hrequired, hoptional⟩ | ⟨hsound', -⟩
  · have hnone : required = [] := by
      rw [hrequired.eq_nil_iff, required_insert_optionally]
      exact fun hfault => hsound (.inl hfault)
    have hone : optional = [.invalid name (Text.lossy bytes) "valid UTF-8"] := by
      refine hoptional.eq_singleton (by simpa using hlists.optional.nodup)
        (mem_insert_optionally.mpr (.inl rfl)) (fun p => ?_) fun other hother hfault => ?_
      · constructor
        · intro hfault
          cases hfault with
          | undecodable hreading' =>
            rw [hreading, Reading.undecodable.injEq] at hreading'
            rw [hreading']
        · rintro rfl
          exact .undecodable hreading
      · rcases mem_insert_optionally.mp hother with rfl | hother
        · rfl
        · exact absurd (.inr ⟨other, hother, hfault⟩) hsound
    rw [hresolve, hnone, hone, List.nil_append]
  · exact absurd (faulty_insert_optionally.mpr (.inl ⟨bytes, hreading⟩)) hsound'

/-- The environment is the same with an optional variable and without it. -/
theorem environment_insert_optionally
    (h : (ofDeclarations (before ++ after)).resolve source = .ok v)
    (h' : (ofDeclarations (before ++ .optionally name :: after)).resolve source = .ok v') :
    v'.environment = v.environment := by
  obtain ⟨q, hselector⟩ := exists_selector (before ++ after)
  have hselector' : (ofDeclarations (before ++ .optionally name :: after)).selector? = some q := by
    rw [selector?, required_insert_optionally]
    exact hselector
  have hname := (environment_of_selector hselector' h').unique (environment_of_selector hselector h)
  exact Environment.name_injective hname

end OneMore

/-- **An optional variable adds itself, or it is no text.** Take a run that succeeds, and declare
one more optional variable anywhere among its declarations. If the variable is no text then the run
fails with this one problem. In every other case it succeeds, in the same environment and with every
value that it had, and what is added is at most the new variable with what the source gives. -/
theorem optional_adds_or_is_undecodable (before after : List Declaration) (name : String)
    (source : Source) (v : Variables)
    (h : (ofDeclarations (before ++ after)).resolve source = .ok v) :
    (∀ bytes, source name = .undecodable bytes →
      (ofDeclarations (before ++ .optionally name :: after)).resolve source =
        .error (.configuration [.invalid name (Text.lossy bytes) "valid UTF-8"])) ∧
    ((∀ bytes, source name ≠ .undecodable bytes) →
      ∃ v', (ofDeclarations (before ++ .optionally name :: after)).resolve source = .ok v' ∧
        v'.environment = v.environment ∧
        (∀ key text, v.get? key = some text → v'.get? key = some text) ∧
        ∀ key text, v'.get? key = some text → v.get? key = some text ∨ key = name ∧
          source.Gives name text) := by
  obtain ⟨hsound, -, hresolved⟩ := resolve_eq_ok h
  refine ⟨fun bytes hreading => resolve_of_undecodable hsound hreading, fun htext => ?_⟩
  have hsound' : ¬ (ofDeclarations (before ++ .optionally name :: after)).Faulty source := by
    rw [faulty_insert_optionally]
    exact not_or.mpr ⟨fun ⟨bytes, hreading⟩ => htext bytes hreading, hsound⟩
  obtain ⟨v', h'⟩ := exists_resolve hsound'
  obtain ⟨-, -, hresolved'⟩ := resolve_eq_ok h'
  refine ⟨v', h', environment_insert_optionally h h', fun key text hget => ?_,
    fun key text hget => ?_⟩
  · obtain ⟨hdeclared, hgives⟩ := hresolved.get?_eq_some_iff.mp hget
    rw [hresolved'.get?_eq_some_iff, required_insert_optionally, mem_insert_optionally]
    exact ⟨hdeclared.imp_right .inr, hgives⟩
  · rw [hresolved'.get?_eq_some_iff, required_insert_optionally, mem_insert_optionally] at hget
    obtain ⟨hrequired | rfl | hoptional, hgives⟩ := hget
    · exact .inl (hresolved.get?_eq_some_iff.mpr ⟨.inl hrequired, hgives⟩)
    · exact .inr ⟨rfl, hgives⟩
    · exact .inl (hresolved.get?_eq_some_iff.mpr ⟨.inr hoptional, hgives⟩)

/-- A source that knows its environment and holds one thing more. -/
def proxySource (reading : Reading) : Source := fun name =>
  if name = Environment.key then .text "staging" else if name = "PROXY" then reading else .absent

theorem optional_adds_or_is_undecodable_proxy :
    (ofDeclarations [.optionally "PROXY", .optionally "REGION"]).resolve
        (proxySource (.undecodable [0x65, 0xff])) =
      .error (.configuration [.invalid "PROXY" "e\uFFFD" "valid UTF-8"]) ∧
    ∃ v, (ofDeclarations [.optionally "PROXY", .optionally "REGION"]).resolve
        (proxySource (.text " eu:80 ")) = .ok v ∧
      v.environment = .staging ∧ ∀ key text, v.get? key = some text → key = "PROXY" := by
  have hwithout : ∀ reading ∈ [Reading.undecodable [0x65, 0xff], .text " eu:80 "],
      (ofDeclarations [.optionally "REGION"]).resolve (proxySource reading) =
        .ok ⟨.staging, Dict.ofList []⟩ := by decide +kernel
  have hlossy : Text.lossy [0x65, 0xff] = "e\uFFFD" := by decide +kernel
  constructor
  · rw [← hlossy]
    exact (optional_adds_or_is_undecodable [] [.optionally "REGION"] "PROXY" _ _
      (hwithout _ List.mem_cons_self)).1 [0x65, 0xff] (by decide)
  · obtain ⟨v, hresolve, henvironment, -, hadded⟩ :=
      (optional_adds_or_is_undecodable [] [.optionally "REGION"] "PROXY" _ _
        (hwithout (.text " eu:80 ") (by decide))).2 (by simp [proxySource, Environment.key])
    refine ⟨v, hresolve, henvironment, fun key text hget => ?_⟩
    rcases hadded key text hget with hbefore | ⟨hname, -⟩
    · exact absurd hbefore (by simp [Variables.get?, Dict.get?_ofList, lastValue?])
    · exact hname

/-- An optional variable makes a run fail that succeeds without it. -/
theorem undecodable_optional_fails :
    (ofDeclarations []).resolve (proxySource (.undecodable [0xff])) = .ok ⟨.staging,
      Dict.ofList []⟩ ∧
      (ofDeclarations [.optionally "PROXY"]).resolve (proxySource (.undecodable [0xff])) =
        .error (.configuration [.invalid "PROXY" "\uFFFD" "valid UTF-8"]) ∧
      ¬ ∀ ds name source v, (ofDeclarations ds).resolve source = .ok v →
        ∃ v', ((ofDeclarations ds).optionally name).resolve source = .ok v' := by
  have hsucceeds : (ofDeclarations []).resolve (proxySource (.undecodable [0xff])) =
      .ok ⟨.staging, Dict.ofList []⟩ := by decide +kernel
  have hfails : (ofDeclarations [.optionally "PROXY"]).resolve (proxySource (.undecodable [0xff])) =
      .error (.configuration [.invalid "PROXY" "\uFFFD" "valid UTF-8"]) := by decide +kernel
  refine ⟨hsucceeds, hfails, fun hnever => ?_⟩
  obtain ⟨v', hresolve⟩ := hnever [] "PROXY" _ _ hsucceeds
  exact absurd (hfails.symm.trans hresolve) (by simp)

end Requirements

end AppRelease
