import AppRelease.Proofs.Declarations
import AppRelease.Proofs.Numeral
import AppRelease.Proofs.Readiness

/-!
# Errors that do not occur

Specification: three errors are there for cases that cannot come up. Resolving could find no
environment after it has found no problem, building could have no image after it has found no
problem with the tag, and assembling could be given the secrets of another application or
environment. None of them is ever reported (`fallbacks_never_reached`).

1. **Which errors there are.** Every stage is taken apart once: `Requirements.resolve_eq_error_iff`,
   `Secrets.Store.load_error_cases`, `Defaults.build_error_cases` and
   `Assembly.assemble_error_cases` list all ways to fail, and the three errors are not among them.
2. **What makes them impossible.** The requirement to name an environment is never lost, a tag that
   gives no image is a problem, and a bundle that is loaded is marked with the application and the
   environment that it was loaded for.
3. **The crux (`Error.endsIn_of_defaults`).** Errors are seen as texts, and defaults under any name
   may be faulty, so the name in the text could be worded like another error. But the last fault
   comes last in the text, and none ends in a letter that one of the two other errors ends in.
-/

namespace AppRelease

/-! ## Resolving -/

namespace Requirements

variable {r : Requirements} {source : Source} {p : Problem} {error : Error}

/-- Everything that is wrong with the variables, required ones first. -/
def problems (r : Requirements) (source : Source) : List Problem :=
  (r.outcomes source).filterMap Outcome.problem?

/-- The problems are those of faults. -/
theorem mem_problems : p ∈ r.problems source ↔
    (∃ q ∈ r.required, q.Fault source p) ∨ ∃ name ∈ r.optional, OptionalFault source name p := by
  rw [problems, outcomes, List.filterMap_append, List.mem_append, List.filterMap_map,
    List.filterMap_map, List.mem_filterMap, List.mem_filterMap]
  simp only [Function.comp_apply, Requirement.read_problem?, readOptional_problem?]

theorem problems_eq_nil_iff : r.problems source = [] ↔ ¬ r.Faulty source := by
  rw [List.eq_nil_iff_forall_not_mem]
  simp only [mem_problems]
  constructor
  · rintro hnone (⟨q, hq, p, hfault⟩ | ⟨name, hname, p, hfault⟩)
    · exact hnone p (.inl ⟨q, hq, hfault⟩)
    · exact hnone p (.inr ⟨name, hname, hfault⟩)
  · rintro hsound p (⟨q, hq, hfault⟩ | ⟨name, hname, hfault⟩)
    · exact hsound (.inl ⟨q, hq, p, hfault⟩)
    · exact hsound (.inr ⟨name, hname, p, hfault⟩)

/-- **Resolving fails only with the problems it has found**, as long as an environment has to be
named. -/
theorem resolve_eq_error_iff (henvironment : ⟨Environment.key, .environment⟩ ∈ r.required) :
    r.resolve source = .error error ↔
      r.problems source ≠ [] ∧ error = .configuration (r.problems source) := by
  by_cases hnone : r.problems source = []
  · obtain ⟨e, he⟩ := exists_environment henvironment (problems_eq_nil_iff.mp hnone)
    have hproblems : (r.outcomes source).filterMap Outcome.problem? = [] := hnone
    simp [resolve, hproblems, he, hnone]
  · have hproblems : ((r.outcomes source).filterMap Outcome.problem?).isEmpty = false :=
      List.isEmpty_eq_false_iff.mpr hnone
    simp only [resolve, hproblems, Bool.false_eq_true, if_false, Except.error.injEq]
    exact ⟨fun h => ⟨hnone, h.symm⟩, fun h => h.2.symm⟩

/-- Without a problem an environment is read, from a variable that is required to name one. -/
theorem exists_resolve_of_problems (ds : List Declaration)
    (hnone : (ofDeclarations ds).problems source = []) :
    ∃ v, (ofDeclarations ds).resolve source = .ok v ∧
      ∃ q ∈ (ofDeclarations ds).required, q.kind = .environment ∧
        source.Gives q.name v.environment.name := by
  obtain ⟨v, hv⟩ := exists_resolve (problems_eq_nil_iff.mp hnone)
  obtain ⟨q, hselector⟩ := exists_selector ds
  obtain ⟨hkind, before, after, hsplit, -⟩ := selector?_eq_some_iff.mp hselector
  exact ⟨v, hv, q, by simp [hsplit], hkind, environment_of_selector hselector hv⟩

end Requirements

/-! ## Loading, building and assembling -/

/-- The errors of reading a secrets file. -/
inductive Secrets.LoadError : Error → Prop
  | notFound (application environment path : String) :
      LoadError (.secretsFileNotFound application environment path)
  | io (fault : FileTree.Fault) : LoadError (.io fault)
  | malformed (path : String) (line column : Option Nat) (fault : Secrets.Fault) :
      LoadError (.secretsFile path line column fault)

theorem Secrets.Store.readPlain_error_cases {s : Store} {path content : String} {error : Error}
    (h : s.readPlain path content = .error error) : LoadError error := by
  rw [readPlain] at h
  split at h
  · split at h
    · exact absurd h (by simp)
    · cases h
      exact .malformed ..
  · split at h
    · cases h
      exact .malformed ..
    · split at h
      · exact absurd h (by simp)
      · cases h
        exact .malformed ..

/-- **What can go wrong with a secrets file.** -/
theorem Secrets.Store.load_error_cases {s : Store} {files : FileTree} {name : String}
    {e : Environment} {error : Error} (h : s.load files name e = .error error) :
    LoadError error := by
  rw [load_eq] at h
  split at h
  · rcases bind_eq_error_iff.mp h with hread | ⟨text, -, hrest⟩
    · cases hfault : files.readText (s.pathFor name e) with
      | ok text =>
        rw [hfault, mapError_eq_ok_iff.mpr rfl] at hread
        exact absurd hread (by simp)
      | error fault =>
        rw [hfault] at hread
        cases hread
        exact .io fault
    · rcases bind_eq_error_iff.mp hrest with hplain | ⟨entries, -, hlast⟩
      · exact readPlain_error_cases hplain
      · exact absurd hlast (by simp)
  · cases h
    exact .notFound ..

/-- **What can go wrong when a configuration is built.** -/
theorem Defaults.build_error_cases {d : Defaults} {known : Variables} {secrets : Secrets.Bundle}
    {error : Error} (h : d.build known secrets = .error error) :
    (d.faults ≠ [] ∧ error = .invalid (.defaults d.name d.faults)) ∨
      (¬ (secrets.application = d.name ∧ secrets.environment = known.environment) ∧
        error = .invalid (.foreignSecrets secrets.application secrets.environment d.name
          known.environment)) ∨
      (d.Acceptable ∧ d.variableProblems known secrets ≠ [] ∧
        error = .configuration (d.variableProblems known secrets)) ∨
      error = .missingSecrets d.name secrets.path (d.missingSecrets known secrets) := by
  by_cases hfaults : d.faults = []
  · by_cases hown : secrets.application = d.name ∧ secrets.environment = known.environment
    · have hacceptable := faults_eq_nil_iff.mp hfaults
      rcases build_eq_error_cases hacceptable hown h with ⟨hproblems, rfl⟩ | ⟨-, -, rfl⟩
      · exact .inr (.inr (.inl ⟨hacceptable, hproblems, rfl⟩))
      · exact .inr (.inr (.inr rfl))
    · rw [build_eq, if_neg (by simp [hfaults]),
        if_pos (Classical.not_and_iff_not_or_not.mp hown)] at h
      exact .inr (.inl ⟨hown, (Except.error.inj h).symm⟩)
  · rw [build_eq, if_pos hfaults] at h
    exact .inl ⟨hfaults, (Except.error.inj h).symm⟩

namespace Assembly

variable {a : Assembly} {files : FileTree} {d : Defaults} {error : Error}

/-- An application requires its image tag and its own variables, one after the other. -/
theorem requirements_eq_ofDeclarations (d : Defaults) :
    requirements d =
      Requirements.ofDeclarations (.requireImageTag d.name :: d.requiredEnv.map .require) := by
  rw [requirements, Requirements.ofDeclarations, List.foldl_cons, List.foldl_map]
  rfl

theorem resolve_eq_error_iff : a.resolve d = .error error ↔
    (requirements d).problems a.source ≠ [] ∧
      error = .configuration ((requirements d).problems a.source) := by
  apply Requirements.resolve_eq_error_iff
  rw [requirements_eq_ofDeclarations]
  exact Requirements.key_mem_required _

/-- A bundle that is loaded is marked with what it was loaded for. -/
theorem own_of_load {store : Secrets.Store} {name : String} {e : Environment}
    {secrets : Secrets.Bundle} (h : store.load files name e = .ok secrets) :
    secrets.application = name ∧ secrets.environment = e := by
  obtain ⟨-, content, entries, -, -, rfl⟩ := Secrets.Store.load_eq_ok_iff.mp h
  exact ⟨rfl, rfl⟩

/-- **What can go wrong when a configuration is assembled.** The secrets that are loaded are always
the right ones. -/
theorem assemble_error_cases (h : a.assemble files d = .error error) :
    ((requirements d).problems a.source ≠ [] ∧
      error = .configuration ((requirements d).problems a.source)) ∨
      Secrets.LoadError error ∨
      ∃ known secrets, a.resolve d = .ok known ∧
        a.store.load files d.name known.environment = .ok secrets ∧
        ((d.faults ≠ [] ∧ error = .invalid (.defaults d.name d.faults)) ∨
          (d.Acceptable ∧ d.variableProblems known secrets ≠ [] ∧
            error = .configuration (d.variableProblems known secrets)) ∨
          error = .missingSecrets d.name secrets.path (d.missingSecrets known secrets)) := by
  rcases bind_eq_error_iff.mp h with hresolve | ⟨known, hknown, hrest⟩
  · exact .inl (resolve_eq_error_iff.mp hresolve)
  rcases bind_eq_error_iff.mp hrest with hload | ⟨secrets, hsecrets, hrest⟩
  · exact .inr (.inl (Secrets.Store.load_error_cases hload))
  rcases bind_eq_error_iff.mp hrest with hbuild | ⟨c, -, hlast⟩
  · refine .inr (.inr ⟨known, secrets, hknown, hsecrets, ?_⟩)
    rcases Defaults.build_error_cases hbuild with hfaulty | ⟨hforeign, -⟩ | hproblems | hmissing
    · exact .inl hfaulty
    · -- a bundle is foreign by its marks, and these were made for this run
      exact absurd (own_of_load hsecrets) hforeign
    · exact .inr (.inl hproblems)
    · exact .inr (.inr hmissing)
  · exact absurd hlast (by simp [pure, Except.pure])

end Assembly

/-! ## What errors look like -/

/-- A text ends in a character with a property. -/
def Text.EndsIn (p : Char → Prop) (s : String) : Prop := ∃ c, s.toList.getLast? = some c ∧ p c

namespace Text.EndsIn

variable {p : Char → Prop} {s : String}

/-- What comes before does not matter. -/
theorem append (h : EndsIn p s) (before : String) : EndsIn p (before ++ s) := by
  obtain ⟨c, hlast, hc⟩ := h
  exact ⟨c, by simp [List.getLast?_append, hlast], hc⟩

theorem of_forall (hne : s.toList ≠ []) (h : ∀ c ∈ s.toList, p c) : EndsIn p s :=
  ⟨s.toList.getLast hne, List.getLast?_eq_some_getLast hne, h _ (List.getLast_mem hne)⟩

/-- Texts that are joined end as the last one does. -/
theorem joinWith {items : List String} (hne : items ≠ []) (h : ∀ item ∈ items, EndsIn p item)
    (separator : String) :
    EndsIn p (Text.joinWith separator items) := by
  induction items with
  | nil => exact absurd rfl hne
  | cons first rest ih =>
    cases rest with
    | nil => exact h first List.mem_cons_self
    | cons second rest =>
      rw [Text.joinWith]
      · exact (ih (List.cons_ne_nil _ _) fun item hitem =>
          h item (List.mem_cons_of_mem _ hitem)).append _
      · exact List.cons_ne_nil _ _

end Text.EndsIn

/-- The letters in which the name of an environment or the word for an image that is not resolved
ends. -/
def fallbackLetters : List Char := ['d', 'l', 't', 'g', 'n']

theorem not_mem_fallbackLetters_of_isDigit {c : Char} (h : c.isDigit = true) :
    c ∉ fallbackLetters := by
  intro hmem
  simp only [fallbackLetters, List.mem_cons, List.not_mem_nil, or_false] at hmem
  rcases hmem with rfl | rfl | rfl | rfl | rfl <;> exact absurd h (by decide)

theorem Numeral.endsIn_decimal (n : Nat) : Text.EndsIn (· ∉ fallbackLetters) (decimal n) :=
  .of_forall (toList_decimal_ne_nil n) fun _ hc =>
    not_mem_fallbackLetters_of_isDigit (isDigit_of_mem_decimal hc)

theorem Memory.endsIn_text (m : Memory) : Text.EndsIn (· ∉ fallbackLetters) m.text := by
  obtain ⟨magnitude, unit⟩ := m
  by_cases hbyte : unit = .byte
  · subst hbyte
    have htext : text ⟨magnitude, .byte⟩ = Numeral.decimal magnitude.toNat := String.append_empty
    rw [htext]
    exact Numeral.endsIn_decimal _
  · have hsuffix : Text.EndsIn (· ∉ fallbackLetters) unit.suffix := by
      cases unit with
      | byte => exact absurd rfl hbyte
      | _ => exact ⟨_, rfl, by decide⟩
    exact hsuffix.append _

theorem Cpu.endsIn_text (t : Cpu) : Text.EndsIn (· ∉ fallbackLetters) t.text :=
  Text.EndsIn.append ⟨'m', rfl, by decide⟩ _

/-- No fault ends in one of these letters. -/
theorem Defaults.Fault.endsIn_message (fault : Defaults.Fault) :
    Text.EndsIn (· ∉ fallbackLetters) fault.message := by
  cases fault with
  | name text => exact Text.EndsIn.append ⟨'\'', rfl, by decide⟩ _
  | nameSpace text => exact Text.EndsIn.append ⟨'\'', rfl, by decide⟩ _
  | registry => exact ⟨'y', by decide, by decide⟩
  | replicaCount => exact ⟨'0', by decide, by decide⟩
  | probePort => exact ⟨'0', by decide, by decide⟩
  | memory request limit => exact limit.endsIn_text.append _
  | cpu request limit => exact limit.endsIn_text.append _

namespace Error

/-- **Faulty defaults are told apart by the end of the text**, whatever name they have. -/
theorem endsIn_of_defaults {name : String} {faults : List Defaults.Fault} (hne : faults ≠ []) :
    Text.EndsIn (· ∉ fallbackLetters) (message (.invalid (.defaults name faults))) := by
  refine Text.EndsIn.append (Text.EndsIn.append (.joinWith ?_ ?_ _) _) _
  · simpa using hne
  · intro item hitem
    obtain ⟨fault, -, rfl⟩ := List.mem_map.mp hitem
    exact fault.endsIn_message

/-- Foreign secrets end in the name of an environment, which does not end in `d`. -/
theorem endsIn_of_foreignSecrets (owner user : String) (home place : Environment) :
    Text.EndsIn (fun c => c ∈ fallbackLetters ∧ c ≠ 'd')
      (message (.invalid (.foreignSecrets owner home user place))) := by
  refine Text.EndsIn.append (Text.EndsIn.append ?_ _) _
  cases place with
  | localMachine => exact ⟨'l', rfl, by decide⟩
  | development => exact ⟨'t', rfl, by decide⟩
  | staging => exact ⟨'g', rfl, by decide⟩
  | production => exact ⟨'n', rfl, by decide⟩

/-- An image that is not resolved ends in `d`. -/
theorem endsIn_of_imageUnresolved :
    Text.EndsIn (fun c => c ∈ fallbackLetters ∧ c = 'd') (message (.invalid .imageUnresolved)) :=
  Text.EndsIn.append ⟨'d', rfl, by decide⟩ _

/-- Texts with different ends are different. -/
theorem ne_of_endsIn {p q : Char → Prop} {s t : String} (hs : Text.EndsIn p s)
    (ht : Text.EndsIn q t) (h : ∀ c, p c → ¬ q c) : s ≠ t := by
  rintro rfl
  obtain ⟨c, hc, hp⟩ := hs
  obtain ⟨c', hc', hq⟩ := ht
  rw [hc, Option.some.injEq] at hc'
  exact h c hp (hc' ▸ hq)

/-- The letter in which the wording of an error starts. -/
def initial : Error → Char
  | configuration _ => 'C'
  | secretsFileNotFound _ _ _ => 'S'
  | secretsFile _ _ _ _ => 'S'
  | missingSecrets _ _ _ => 'M'
  | invalidQuantity _ => 'I'
  | invalid _ => 'V'
  | unknownApplication _ _ => 'U'
  | cluster _ => 'K'
  | io _ => 'I'
  | toml _ => 'T'
  | json _ => 'J'

theorem head?_append {s : String} {c : Char} (h : s.toList.head? = some c) (rest : String) :
    (s ++ rest).toList.head? = some c := by
  rw [String.toList_append, List.head?_append, h, Option.some_or]

theorem head?_message (error : Error) : error.message.toList.head? = some error.initial := by
  -- the longer wordings are written out, as the term alone does not show where they are put
  -- together
  cases error with
  | configuration problems => exact head?_append (head?_append (head?_append rfl _) _) _
  | secretsFileNotFound application environment path =>
    show ("Secrets file not found for '" ++ application ++ "' in " ++ environment ++ ": " ++
        path).toList.head? = _
    exact head?_append (head?_append (head?_append (head?_append (head?_append rfl _) _) _) _) _
  | secretsFile path line column fault =>
    show ("Secrets parse error in " ++ path ++ place line column ++ ": " ++
        fault.message).toList.head? = _
    exact head?_append (head?_append (head?_append (head?_append rfl _) _) _) _
  | missingSecrets application path keys =>
    show ("Missing secrets for '" ++ application ++ "' in " ++ path ++ ":" ++
        Text.bullets keys).toList.head? = _
    exact head?_append (head?_append (head?_append (head?_append (head?_append rfl _) _) _) _) _
  | invalidQuantity fault => exact head?_append rfl _
  | invalid what => exact head?_append rfl _
  | unknownApplication name known =>
    show ("Unknown application '" ++ name ++ "' (known: " ++ Text.joinWith ", " known ++
        ")").toList.head? = _
    exact head?_append (head?_append (head?_append (head?_append rfl _) _) _) _
  | cluster fault => exact head?_append rfl _
  | io fault => exact head?_append rfl _
  | toml fault => exact head?_append rfl _
  | json fault => exact head?_append rfl _

/-- Only what is not allowed is worded as such. -/
theorem message_ne_invalid {error : Error} (h : ∀ what, error ≠ .invalid what) (what : Invalid) :
    error.message ≠ message (.invalid what) := by
  intro heq
  have hinitial : some error.initial = some 'V' := by rw [← head?_message, heq, head?_message]; rfl
  cases error with
  | invalid other => exact h other rfl
  | _ => exact absurd hinitial (by simp [initial])

end Error

/-! ## Three errors that do not occur -/

/-- **No fallback is ever reached.** Whatever is declared and whatever the source holds, resolving
without a problem reads an environment; no error of building is worded as that of an image which
could not be resolved; and no error of assembling is worded as that of secrets which belong to
another application or environment. -/
theorem fallbacks_never_reached :
    (∀ (ds : List Declaration) (source : Source),
      ((Requirements.ofDeclarations ds).problems source = [] →
        ∃ v, (Requirements.ofDeclarations ds).resolve source = .ok v ∧
          ∃ q ∈ (Requirements.ofDeclarations ds).required, q.kind = .environment ∧
            source.Gives q.name v.environment.name) ∧
      ((Requirements.ofDeclarations ds).problems source ≠ [] →
        (Requirements.ofDeclarations ds).resolve source =
          .error (.configuration ((Requirements.ofDeclarations ds).problems source)))) ∧
    (∀ (d : Defaults) (known : Variables) (secrets : Secrets.Bundle) (error : Error),
      d.build known secrets = .error error →
        error.message ≠ Error.message (.invalid .imageUnresolved)) ∧
    ∀ (a : Assembly) (files : FileTree) (d : Defaults) (error : Error),
      a.assemble files d = .error error → ∀ owner home user place,
        error.message ≠ Error.message (.invalid (.foreignSecrets owner home user place)) := by
  refine ⟨fun ds source => ⟨Requirements.exists_resolve_of_problems ds, fun hproblems => ?_⟩,
    ?_, ?_⟩
  · exact (Requirements.resolve_eq_error_iff (Requirements.key_mem_required ds)).mpr
      ⟨hproblems, rfl⟩
  · intro d known secrets error hbuild
    rcases Defaults.build_error_cases hbuild with ⟨hfaults, rfl⟩ | ⟨-, rfl⟩ | ⟨-, -, rfl⟩ | rfl
    · -- these two start as the error in question does, so their ends are compared
      exact Error.ne_of_endsIn (Error.endsIn_of_defaults hfaults) Error.endsIn_of_imageUnresolved
        fun c hc hd => hc hd.1
    · exact Error.ne_of_endsIn
        (Error.endsIn_of_foreignSecrets _ _ _ _) Error.endsIn_of_imageUnresolved
        fun c hc hd => hc.2 hd.2
    · exact Error.message_ne_invalid (by simp) _
    · exact Error.message_ne_invalid (by simp) _
  · intro a files d error hassemble owner home user place
    rcases Assembly.assemble_error_cases hassemble with
      ⟨-, rfl⟩ | hload | ⟨known, secrets, -, -, ⟨hfaults, rfl⟩ | ⟨-, -, rfl⟩ | rfl⟩
    · exact Error.message_ne_invalid (by simp) _
    · refine Error.message_ne_invalid (fun what hwhat => ?_) _
      rw [hwhat] at hload
      cases hload
    · exact Error.ne_of_endsIn (Error.endsIn_of_defaults hfaults)
        (Error.endsIn_of_foreignSecrets _ _ _ _)
        fun c hc hd => hc hd.1
    · exact Error.message_ne_invalid (by simp) _
    · exact Error.message_ne_invalid (by simp) _

/-- A name that is worded as if secrets were foreign. -/
def wordedName : String := "Secrets bundle for 'web' in local cannot be used for 'web' in local"

/-- An application of that name, in whose source everything is set. -/
def wordedAssembly : Assembly where
  source := fun key => .text (if key = Environment.key then "local" else "v1")
  store := { root := "vault" }

/-- It has a secrets file. -/
def wordedFiles : FileTree where
  nodes := [(["vault"], .directory), (["vault", "local"], .directory),
    (["vault", "local", wordedName ++ ".env"], .file [])]

theorem fallbacks_never_reached_worded :
    ((Requirements.ofDeclarations Requirements.repeatedDeclarations).problems
        Requirements.fullSource = [] ∧
      ∃ v, (Requirements.ofDeclarations Requirements.repeatedDeclarations).resolve
        Requirements.fullSource = .ok v) ∧
    wordedAssembly.assemble wordedFiles { Defaults.vaultDefaults with name := wordedName } =
      .error (.invalid (.defaults wordedName [.name wordedName])) ∧
    ∀ owner home user place, Error.message (.invalid (.defaults wordedName [.name wordedName])) ≠
        Error.message (.invalid (.foreignSecrets owner home user place)) := by
  obtain ⟨hresolve, -, hassemble⟩ := fallbacks_never_reached
  have hnone : (Requirements.ofDeclarations Requirements.repeatedDeclarations).problems
      Requirements.fullSource = [] := by
    decide +kernel
  have hfailed :
      wordedAssembly.assemble wordedFiles { Defaults.vaultDefaults with name := wordedName } =
      .error (.invalid (.defaults wordedName [.name wordedName])) := by decide +kernel
  obtain ⟨v, hv, -⟩ := (hresolve _ _).1 hnone
  exact ⟨⟨hnone, v, hv⟩, hfailed, hassemble _ _ _ _ hfailed⟩

end AppRelease
