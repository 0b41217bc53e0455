import AppRelease.Proofs.Variables

/-!
# What is declared is resolved

Specification: a run declares the variables it needs one after the other, in any order and as often
as it likes. What it then requires is the first declaration of every name, in their order
(`FirstsOf`). Resolving reads all of it: it fails exactly when some variable has a fault
(`Requirement.Fault`, `OptionalFault`), and the error has one problem for each of them in order
(`Reports`); otherwise the values are those that the source gives (`Requirements.Resolved`).

1. **Declarations.** One declaration adds a name at the end or changes nothing
   (`Requirements.Lists.declare`), and so any number of them keeps the first of every name
   (`Requirements.lists_ofDeclarations`).
2. **One variable.** What can become of it is said once in terms of the source
   (`Requirement.read_cases`, `readOptional_cases`); its problem and its value follow.
3. **The crux (`Requirements.exists_environment`).** There is one more way to fail: no variable at
   all names an environment. It does not occur, as the one that does is always required, and has a
   fault if it names none.
-/

namespace AppRelease

/-! ## The first of every key -/

/-- A list holds the first member of every key, in the order in which the keys come up. -/
structure FirstsOf {α : Type} (key : α → String) (all firsts : List α) : Prop where
  mem_iff : ∀ a, a ∈ firsts ↔ all.find? (fun b => key b == key a) = some a
  ordered : firsts.Pairwise fun a b =>
    all.findIdx (fun c => key c == key a) < all.findIdx (fun c => key c == key b)

namespace FirstsOf

variable {α : Type} {key : α → String} {all firsts : List α} {a : α}

/-- No key comes twice. -/
theorem nodup (h : FirstsOf key all firsts) : (firsts.map key).Nodup := by
  rw [List.Nodup, List.pairwise_map]
  refine h.ordered.imp fun hlt heq => ?_
  rw [heq] at hlt
  exact Nat.lt_irrefl _ hlt

/-- The first member of all is the first of its key. -/
theorem head? (h : FirstsOf key (a :: all) firsts) : firsts.head? = some a := by
  have hmem : a ∈ firsts := (h.mem_iff a).mpr (by simp)
  have hordered := h.ordered
  cases firsts with
  | nil => exact absurd hmem (by simp)
  | cons first rest =>
    rcases List.mem_cons.mp hmem with rfl | hrest
    · rfl
    · -- nothing comes up before the first place
      have hlt := (List.pairwise_cons.mp hordered).1 a hrest
      simp [List.findIdx_cons] at hlt

/-- A key that comes up has a first member. -/
theorem find?_isSome (h : FirstsOf key all firsts) (b : α) :
    (all.find? fun c => key c == key b).isSome ↔ ∃ c ∈ firsts, key c = key b := by
  constructor
  · intro hsome
    obtain ⟨c, hc⟩ := Option.isSome_iff_exists.mp hsome
    have hkey : key c = key b := by simpa using List.find?_some hc
    exact ⟨c, (h.mem_iff c).mpr (by rw [hkey]; exact hc), hkey⟩
  · rintro ⟨c, hc, hkey⟩
    rw [← hkey, (h.mem_iff c).mp hc]
    rfl

/-- The place of a key stays where it is when more is declared. -/
theorem findIdx_append (h : FirstsOf key all firsts) {b : α} (hb : b ∈ firsts) (more : List α) :
    (all ++ more).findIdx (fun c => key c == key b) = all.findIdx (fun c => key c == key b) ∧
      all.findIdx (fun c => key c == key b) < all.length := by
  have hfound := (h.mem_iff b).mp hb
  have hmem : b ∈ all := List.mem_of_find?_eq_some hfound
  have hlt : all.findIdx (fun c => key c == key b) < all.length :=
    List.findIdx_lt_length.mpr ⟨b, hmem, by simp⟩
  exact ⟨by rw [List.findIdx_append, if_pos hlt], hlt⟩

/-- A member whose key came up before changes nothing. -/
theorem append_of_mem (h : FirstsOf key all firsts) (hkey : ∃ b ∈ firsts, key b = key a) :
    FirstsOf key (all ++ [a]) firsts := by
  constructor
  · intro b
    have hsame : (all ++ [a]).find? (fun c => key c == key b) =
        all.find? (fun c => key c == key b) := by
      rw [List.find?_append]
      by_cases hb : key a = key b
      · obtain ⟨first, hfirst⟩ := Option.isSome_iff_exists.mp ((h.find?_isSome a).mpr hkey)
        rw [← hb, hfirst, Option.some_or]
      · simp [hb]
    rw [hsame]
    exact h.mem_iff b
  · refine h.ordered.imp_of_mem fun hb hc hlt => ?_
    rw [(h.findIdx_append hb [a]).1, (h.findIdx_append hc [a]).1]
    exact hlt

/-- A member with a key of its own comes last. -/
theorem append_of_not_mem (h : FirstsOf key all firsts) (hkey : ¬ ∃ b ∈ firsts, key b = key a) :
    FirstsOf key (all ++ [a]) (firsts ++ [a]) := by
  have hnone : all.find? (fun c => key c == key a) = none :=
    Option.not_isSome_iff_eq_none.mp fun hsome => hkey ((h.find?_isSome a).mp hsome)
  constructor
  · intro b
    rw [List.find?_append, List.mem_append, List.mem_singleton, h.mem_iff b]
    by_cases hb : key a = key b
    · rw [← hb, hnone, Option.none_or]
      simp [hb, eq_comm]
    · have hne : b ≠ a := fun heq => hb (by rw [heq])
      simp [hb, hne]
  · rw [List.pairwise_append]
    refine ⟨?_, List.pairwise_singleton _ _, ?_⟩
    · refine h.ordered.imp_of_mem fun hb hc hlt => ?_
      rw [(h.findIdx_append hb [a]).1, (h.findIdx_append hc [a]).1]
      exact hlt
    · intro b hb c hc
      rw [List.mem_singleton.mp hc]
      obtain ⟨hplace, hlt⟩ := h.findIdx_append hb [a]
      -- a key that has not come up before gets the place after all others
      have hlast : (all ++ [a]).findIdx (fun c => key c == key a) = all.length := by
        rw [List.findIdx_append, if_neg]
        · simp [List.findIdx_cons]
        · rw [List.findIdx_lt_length]
          rintro ⟨d, hd, hsame⟩
          exact List.find?_eq_none.mp hnone d hd hsame
      rw [hplace, hlast]
      exact hlt

end FirstsOf

/-! ## Declarations -/

/-- What a run can declare about its variables. -/
inductive Declaration where
  | require (name : String)
  | requireImageTag (application : String)
  | addRequired (requirement : Requirement)
  | optionally (name : String)
  deriving DecidableEq, Repr

namespace Declaration

/-- The requirement that is declared, if one is. -/
def requirement? : Declaration → Option Requirement
  | require name => some ⟨name, .nonEmpty⟩
  | requireImageTag application => some ⟨imageTagKey application, .nonEmpty⟩
  | addRequired requirement => some requirement
  | optionally _ => none

/-- The optional variable that is declared, if one is. -/
def optional? : Declaration → Option String
  | optionally name => some name
  | _ => none

end Declaration

namespace Requirements

/-- Makes a declaration. -/
def declare (r : Requirements) : Declaration → Requirements
  | .require name => r.require name
  | .requireImageTag application => r.requireImageTag application
  | .addRequired requirement => r.addRequired requirement
  | .optionally name => r.optionally name

/-- What a run needs after its declarations, one after the other. -/
def ofDeclarations (ds : List Declaration) : Requirements := ds.foldl declare initial

/-- The requirements that were declared, with the one that every run starts with. -/
def declared (ds : List Declaration) : List Requirement :=
  ⟨Environment.key, .environment⟩ :: ds.filterMap Declaration.requirement?

/-- What a run needs is the first declaration of every name among these. -/
structure Lists (r : Requirements) (required : List Requirement)
    (optional : List String) : Prop where
  required : FirstsOf Requirement.name required r.required
  optional : FirstsOf id optional r.optional

variable {r : Requirements} {required : List Requirement} {optional : List String}

/-- A requirement is added unless its name was declared before. -/
theorem Lists.addRequired (h : r.Lists required optional) (q : Requirement) :
    (r.addRequired q).Lists (required ++ [q]) optional := by
  rw [Requirements.addRequired]
  by_cases hname : ∃ other ∈ r.required, other.name = q.name
  · rw [if_pos (by simpa using hname)]
    exact ⟨h.required.append_of_mem hname, h.optional⟩
  · rw [if_neg (by simpa using hname)]
    exact ⟨h.required.append_of_not_mem hname, h.optional⟩

/-- An optional variable is added unless it was declared before. -/
theorem Lists.optionally (h : r.Lists required optional) (name : String) :
    (r.optionally name).Lists required (optional ++ [name]) := by
  rw [Requirements.optionally]
  by_cases hname : name ∈ r.optional
  · rw [if_pos hname]
    exact ⟨h.required, h.optional.append_of_mem ⟨name, hname, rfl⟩⟩
  · rw [if_neg hname]
    refine ⟨h.required, h.optional.append_of_not_mem ?_⟩
    rintro ⟨other, hother, rfl⟩
    exact hname hother

/-- **One declaration** counts if it is the first of its name. -/
theorem Lists.declare (h : r.Lists required optional) (d : Declaration) :
    (r.declare d).Lists (required ++ d.requirement?.toList) (optional ++ d.optional?.toList) := by
  have hrequired : ∀ q, (r.addRequired q).Lists (required ++ [q]) (optional ++ []) := fun q => by
    rw [List.append_nil]
    exact h.addRequired q
  cases d with
  | require name => exact hrequired ⟨name, .nonEmpty⟩
  | requireImageTag application => exact hrequired ⟨imageTagKey application, .nonEmpty⟩
  | addRequired q => exact hrequired q
  | optionally name =>
    rw [Declaration.requirement?, Option.toList_none, List.append_nil]
    exact h.optionally name

/-- Any number of declarations. -/
theorem Lists.declareAll (h : r.Lists required optional) (ds : List Declaration) :
    (ds.foldl Requirements.declare r).Lists (required ++ ds.filterMap Declaration.requirement?)
      (optional ++ ds.filterMap Declaration.optional?) := by
  induction ds generalizing r required optional with
  | nil => simpa using h
  | cons d rest ih =>
    have hrest := ih (h.declare d)
    rw [List.append_assoc, List.append_assoc] at hrest
    cases d <;> exact hrest

/-- **Whatever is declared, the first declaration of every name counts.** -/
theorem lists_ofDeclarations (ds : List Declaration) :
    (ofDeclarations ds).Lists (declared ds) (ds.filterMap Declaration.optional?) := by
  have hinitial : initial.Lists [⟨Environment.key, .environment⟩] [] := by
    refine ⟨⟨fun q => ?_, List.pairwise_singleton _ _⟩, ⟨fun name => ?_, List.Pairwise.nil⟩⟩
    · show q ∈ [_] ↔ _
      rw [List.mem_singleton]
      by_cases hname : Environment.key = q.name
      · simp [hname, eq_comm]
      · have hne : q ≠ ⟨Environment.key, .environment⟩ := fun heq => hname (by rw [heq])
        simp [hname, hne]
    · show name ∈ [] ↔ _
      simp
  exact hinitial.declareAll ds

end Requirements

/-! ## What can be wrong with a variable -/

/-- What is wrong with a required variable, and the problem that tells of it. -/
inductive Requirement.Fault (source : Source) (q : Requirement) : Problem → Prop
  | absent (hreading : source q.name = .absent) : Fault source q (.missing q.name)
  | undecodable {bytes : List UInt8} (hreading : source q.name = .undecodable bytes) :
      Fault source q (.invalid q.name (Text.lossy bytes) "valid UTF-8")
  | blank {raw : String} (hreading : source q.name = .text raw) (hblank : Text.trim raw = "") :
      Fault source q (.empty q.name)
  | unknown {raw : String} (hreading : source q.name = .text raw) (hkind : q.kind = .environment)
      (hfull : Text.trim raw ≠ "") (hname : ∀ e : Environment, Text.trim raw ≠ e.name) :
      Fault source q (.invalid q.name (Text.trim raw)
        "one of local | development | staging | production")

/-- What is wrong with an optional variable: it is there, and it is no text. -/
inductive OptionalFault (source : Source) (name : String) : Problem → Prop
  | undecodable {bytes : List UInt8} (hreading : source name = .undecodable bytes) :
      OptionalFault source name (.invalid name (Text.lossy bytes) "valid UTF-8")

theorem Environment.ofName?_eq_none_iff {s : String} :
    Environment.ofName? s = none ↔ ∀ e : Environment, s ≠ e.name := by
  rw [Option.eq_none_iff_forall_ne_some]
  simp only [ne_eq, Environment.ofName?_eq_some_iff]

/-! ## One variable -/

theorem Outcome.problem?_eq_some_iff {o : Outcome} {p : Problem} : o.problem? = some p ↔
    o = .problem p := by
  cases o <;> simp [problem?]

theorem Outcome.value?_eq_some_iff {o : Outcome} {name text : String} :
    o.value? = some (name, text) ↔ o = .value name text := by
  cases o <;> simp [value?]

section OneVariable

variable {source : Source} {q : Requirement} {name key text : String} {p : Problem}

theorem Requirement.Fault.read_eq (h : q.Fault source p) : q.read source = .problem p := by
  cases h with
  | absent hreading => simp [Requirement.read, hreading]
  | undecodable hreading => simp [Requirement.read, hreading, undecodableProblem]
  | blank hreading hblank => simp [Requirement.read, hreading, hblank]
  | unknown hreading hkind hfull hname =>
    simp [Requirement.read, hreading, hkind, hfull, Environment.ofName?_eq_none_iff.mpr hname,
      Environment.unknown, Environment.expectation]

/-- **What becomes of a required variable**: it has a fault, it has a value, or it names an
environment. -/
theorem Requirement.read_cases (source : Source) (q : Requirement) :
    (∃ p, q.Fault source p) ∨
      (∃ text, q.kind = .nonEmpty ∧ source.Gives q.name text ∧ q.read source = .value q.name text) ∨
      ∃ e, q.kind = .environment ∧ source.Gives q.name e.name ∧ q.read source = .environment e := by
  cases hreading : source q.name with
  | absent => exact .inl ⟨_, .absent hreading⟩
  | undecodable bytes => exact .inl ⟨_, .undecodable hreading⟩
  | text raw =>
    by_cases hblank : Text.trim raw = ""
    · exact .inl ⟨_, .blank hreading hblank⟩
    cases hkind : q.kind with
    | nonEmpty =>
      exact .inr (.inl ⟨_, rfl, ⟨raw, hreading, rfl, hblank⟩,
        by simp [Requirement.read, hreading, hblank, hkind]⟩)
    | environment =>
      cases hname : Environment.ofName? (Text.trim raw) with
      | none =>
        exact .inl ⟨_, .unknown hreading hkind hblank (Environment.ofName?_eq_none_iff.mp hname)⟩
      | some e =>
        have heq := Environment.ofName?_eq_some_iff.mp hname
        exact .inr (.inr ⟨e, rfl, ⟨raw, hreading, heq.symm, e.name_ne_empty⟩,
          by simp [Requirement.read, hreading, hblank, hkind, hname]⟩)

/-- The problem of a required variable is that of its fault. -/
theorem Requirement.read_problem? : (q.read source).problem? = some p ↔ q.Fault source p := by
  rw [Outcome.problem?_eq_some_iff]
  constructor
  · intro h
    rcases q.read_cases source with ⟨p', hfault⟩ | ⟨text, -, -, hread⟩ | ⟨e, -, -, hread⟩
    · cases h.symm.trans hfault.read_eq
      exact hfault
    · cases h.symm.trans hread
    · cases h.symm.trans hread
  · exact Fault.read_eq

/-- The value of a required variable is what the source gives; one that names an environment has
none. -/
theorem Requirement.read_value? : (q.read source).value? = some (name, text) ↔
    q = ⟨name, .nonEmpty⟩ ∧ source.Gives name text := by
  rw [Outcome.value?_eq_some_iff]
  constructor
  · intro h
    rcases q.read_cases source with ⟨p, hfault⟩ | ⟨text', hkind, hgives, hread⟩ | ⟨e, -, -, hread⟩
    · cases h.symm.trans hfault.read_eq
    · cases h.symm.trans hread
      exact ⟨by rw [← hkind], hgives⟩
    · cases h.symm.trans hread
  · rintro ⟨rfl, raw, hreading, rfl, hfull⟩
    simp [Requirement.read, hreading, hfull]

theorem OptionalFault.read_eq (h : OptionalFault source name p) :
    readOptional source name = .problem p := by
  cases h with
  | undecodable hreading => simp [readOptional, hreading, undecodableProblem]

/-- **What becomes of an optional variable**: it has a fault, it has a value, or there is nothing to
read. -/
theorem readOptional_cases (source : Source) (name : String) :
    (∃ p, OptionalFault source name p) ∨
      (∃ text, source.Gives name text ∧ readOptional source name = .value name text) ∨
      readOptional source name = .nothing := by
  cases hreading : source name with
  | absent => exact .inr (.inr (by simp [readOptional, hreading]))
  | undecodable bytes => exact .inl ⟨_, .undecodable hreading⟩
  | text raw =>
    by_cases hblank : Text.trim raw = ""
    · exact .inr (.inr (by simp [readOptional, hreading, hblank]))
    · exact .inr (.inl ⟨_, ⟨raw, hreading, rfl, hblank⟩, by simp [readOptional, hreading, hblank]⟩)

/-- The problem of an optional variable is that of its fault. -/
theorem readOptional_problem? : (readOptional source name).problem? = some p ↔
    OptionalFault source name p := by
  rw [Outcome.problem?_eq_some_iff]
  constructor
  · intro h
    rcases readOptional_cases source name with ⟨p', hfault⟩ | ⟨text, -, hread⟩ | hread
    · cases h.symm.trans hfault.read_eq
      exact hfault
    · cases h.symm.trans hread
    · cases h.symm.trans hread
  · exact OptionalFault.read_eq

/-- The value of an optional variable is what the source gives. -/
theorem readOptional_value? : (readOptional source key).value? = some (name, text) ↔
    key = name ∧ source.Gives name text := by
  rw [Outcome.value?_eq_some_iff]
  constructor
  · intro h
    rcases readOptional_cases source key with ⟨p, hfault⟩ | ⟨text', hgives, hread⟩ | hread
    · cases h.symm.trans hfault.read_eq
    · cases h.symm.trans hread
      exact ⟨rfl, hgives⟩
    · cases h.symm.trans hread
  · rintro ⟨rfl, raw, hreading, rfl, hfull⟩
    simp [readOptional, hreading, hfull]

end OneVariable

/-! ## All variables -/

/-- One problem for each item that has a fault, in their order, and none for the others. -/
inductive Reports {α : Type} (fault : α → Problem → Prop) : List α → List Problem → Prop
  | nil : Reports fault [] []
  | sound {a : α} {rest : List α} {problems : List Problem} (hnone : ¬ ∃ p, fault a p)
      (hrest : Reports fault rest problems) : Reports fault (a :: rest) problems
  | faulty {a : α} {p : Problem} {rest : List α} {problems : List Problem} (hfault : fault a p)
      (hrest : Reports fault rest problems) : Reports fault (a :: rest) (p :: problems)

/-- Problems that are read off the items one by one are a report. -/
theorem reports_filterMap {α : Type} {fault : α → Problem → Prop} {f : α → Option Problem}
    (hf : ∀ a p, f a = some p ↔ fault a p) (items : List α) :
    Reports fault items (items.filterMap f) := by
  induction items with
  | nil => exact .nil
  | cons a rest ih =>
    cases hfa : f a with
    | none =>
      rw [List.filterMap_cons_none hfa]
      refine .sound ?_ ih
      rintro ⟨p, hp⟩
      rw [(hf a p).mpr hp] at hfa
      exact absurd hfa (by simp)
    | some p =>
      rw [List.filterMap_cons_some hfa]
      exact .faulty ((hf a p).mp hfa) ih

/-- A report is empty exactly when nothing has a fault. -/
theorem Reports.eq_nil_iff {α : Type} {fault : α → Problem → Prop} {items : List α}
    {problems : List Problem} (h : Reports fault items problems) :
    problems = [] ↔ ¬ ∃ a ∈ items, ∃ p, fault a p := by
  induction h with
  | nil => simp
  | sound hnone hrest ih => simp [ih, hnone]
  | faulty hfault hrest ih =>
    exact iff_of_false (List.cons_ne_nil _ _) fun hnone => hnone ⟨_, List.mem_cons_self, _, hfault⟩

namespace Requirements

/-- Some variable that is declared has a fault. -/
def Faulty (r : Requirements) (source : Source) : Prop :=
  (∃ q ∈ r.required, ∃ p, q.Fault source p) ∨ ∃ name ∈ r.optional, ∃ p, OptionalFault source name p

/-- The variables that were read: the required ones that do not name an environment and the optional
ones that the source gives, each with what the source gives. -/
structure Resolved (r : Requirements) (source : Source) (v : Variables) : Prop where
  names : ∀ name, name ∈ v.values.keys ↔
    ⟨name, .nonEmpty⟩ ∈ r.required ∨ (name ∈ r.optional ∧ ∃ text, source.Gives name text)
  values : ∀ name text, v.values.get? name = some text → source.Gives name text

variable {r : Requirements} {source : Source}

/-- The problems are those of the required variables and then those of the optional ones. -/
theorem exists_reports (r : Requirements) (source : Source) :
    ∃ required optional, (r.outcomes source).filterMap Outcome.problem? = required ++ optional ∧
      Reports (Requirement.Fault source) r.required required ∧
      Reports (OptionalFault source) r.optional optional := by
  refine ⟨_, _, ?_, reports_filterMap (fun q p => Requirement.read_problem?) r.required,
    reports_filterMap (fun name p => readOptional_problem?) r.optional⟩
  rw [outcomes, List.filterMap_append, List.filterMap_map, List.filterMap_map]
  rfl

/-- **Some variable names an environment**, as the one that does is required and has no fault. -/
theorem exists_environment (henvironment : ⟨Environment.key, .environment⟩ ∈ r.required)
    (hsound : ¬ r.Faulty source) :
    ∃ e, ((r.outcomes source).filterMap Outcome.environment?).getLast? = some e := by
  have hread : ∃ e, Requirement.read source ⟨Environment.key, .environment⟩ = .environment e := by
    rcases Requirement.read_cases source ⟨Environment.key, .environment⟩ with
      hfault | ⟨text, hkind, -⟩ | ⟨e, -, -, hread⟩
    · exact absurd (.inl ⟨_, henvironment, hfault⟩) hsound
    · exact absurd hkind (by simp)
    · exact ⟨e, hread⟩
  obtain ⟨e, he⟩ := hread
  have hmem : e ∈ (r.outcomes source).filterMap Outcome.environment? := by
    refine List.mem_filterMap.mpr ⟨.environment e, List.mem_append_left _ ?_, rfl⟩
    exact List.mem_map.mpr ⟨_, henvironment, he⟩
  exact Option.isSome_iff_exists.mp (List.getLast?_isSome.mpr (List.ne_nil_of_mem hmem))

/-- An entry of the values is a required variable or an optional one, with what the source gives. -/
theorem mem_values {name text : String} :
    (name, text) ∈ (r.outcomes source).filterMap Outcome.value? ↔
    (⟨name, .nonEmpty⟩ ∈ r.required ∨ name ∈ r.optional) ∧ source.Gives name text := by
  rw [outcomes, List.filterMap_append, List.mem_append, List.filterMap_map, List.filterMap_map,
    List.mem_filterMap, List.mem_filterMap]
  simp only [Function.comp_apply, Requirement.read_value?, readOptional_value?]
  constructor
  · rintro (⟨q, hq, rfl, hgives⟩ | ⟨key, hkey, rfl, hgives⟩)
    · exact ⟨.inl hq, hgives⟩
    · exact ⟨.inr hkey, hgives⟩
  · rintro ⟨hq | hkey, hgives⟩
    · exact .inl ⟨_, hq, rfl, hgives⟩
    · exact .inr ⟨name, hkey, rfl, hgives⟩

/-- Without a fault, the values that were read are those that the source gives. -/
theorem resolved_values (hsound : ¬ r.Faulty source) (e : Environment) :
    r.Resolved source ⟨e, Dict.ofList ((r.outcomes source).filterMap Outcome.value?)⟩ := by
  constructor
  case values =>
    intro name text hget
    rw [Dict.get?_ofList] at hget
    exact (mem_values.mp (mem_of_lastValue? hget)).2
  case names =>
    intro name
    rw [Dict.mem_keys_ofList]
    simp only [mem_values]
    constructor
    · rintro ⟨text, hq | hname, hgives⟩
      · exact .inl hq
      · exact .inr ⟨hname, text, hgives⟩
    · rintro (hq | ⟨hname, text, hgives⟩)
      · -- a required variable without a fault has a value
        rcases Requirement.read_cases source ⟨name, .nonEmpty⟩ with
          hfault | ⟨text, -, hgives, -⟩ | ⟨e, hkind, -⟩
        · exact absurd (.inl ⟨_, hq, hfault⟩) hsound
        · exact ⟨text, .inl hq, hgives⟩
        · exact absurd hkind (by simp)
      · exact ⟨text, .inr hname, hgives⟩

/-- **All problems or all values**: a run hears of every fault at once, or it has everything it
asked for. -/
theorem resolve_cases (henvironment : ⟨Environment.key, .environment⟩ ∈ r.required)
    (source : Source) :
    (r.Faulty source ∧ ∃ required optional, r.resolve source = .error
      (.configuration (required ++ optional)) ∧
        Reports (Requirement.Fault source) r.required required ∧
        Reports (OptionalFault source) r.optional optional) ∨
      (¬ r.Faulty source ∧ ∃ v, r.resolve source = .ok v ∧ r.Resolved source v) := by
  obtain ⟨required, optional, hproblems, hrequired, hoptional⟩ := exists_reports r source
  have hempty : required ++ optional = [] ↔ ¬ r.Faulty source := by
    rw [List.append_eq_nil_iff, hrequired.eq_nil_iff, hoptional.eq_nil_iff, Faulty, not_or]
  simp only [resolve, hproblems]
  -- the third way out, no environment among the outcomes, is closed by `exists_environment`
  by_cases hfaulty : r.Faulty source
  · have hne : (required ++ optional).isEmpty = false := by
      rw [List.isEmpty_eq_false_iff]
      exact fun hnil => hempty.mp hnil hfaulty
    exact .inl ⟨hfaulty, required, optional, by simp [hne], hrequired, hoptional⟩
  · obtain ⟨e, he⟩ := exists_environment henvironment hfaulty
    exact .inr ⟨hfaulty, _, by simp [hempty.mpr hfaulty, he], resolved_values hfaulty e⟩

/-- **What is declared is resolved**: whatever a run declares, it requires its environment and then
the first declaration of every name. Whatever the source holds, resolving fails exactly when one of
these variables has a fault; the error tells of every fault in order, and without one the values are
those that the source gives. -/
theorem declarations_resolved (ds : List Declaration) (source : Source) :
    (ofDeclarations ds).required.head? = some ⟨Environment.key, .environment⟩ ∧
      ((ofDeclarations ds).required.map Requirement.name).Nodup ∧
      (ofDeclarations ds).Lists (declared ds) (ds.filterMap Declaration.optional?) ∧
      ((∃ error, (ofDeclarations ds).resolve source = .error error) ↔
        (ofDeclarations ds).Faulty source) ∧
      (∀ error, (ofDeclarations ds).resolve source = .error error →
        ∃ required optional, error = .configuration (required ++ optional) ∧
          Reports (Requirement.Fault source) (ofDeclarations ds).required required ∧
          Reports (OptionalFault source) (ofDeclarations ds).optional optional) ∧
      ∀ v, (ofDeclarations ds).resolve source = .ok v → (ofDeclarations ds).Resolved source v := by
  have hlists := lists_ofDeclarations ds
  have hhead := hlists.required.head?
  refine ⟨hhead, hlists.required.nodup, hlists, ?_⟩
  rcases resolve_cases (List.mem_of_head? hhead) source with
    ⟨hfaulty, required, optional, hresolve, hrequired, hoptional⟩ | ⟨hsound, v, hresolve, hresolved⟩
  · rw [hresolve]
    refine ⟨iff_of_true ⟨_, rfl⟩ hfaulty, ?_, fun v hok => absurd hok (by simp)⟩
    intro error herror
    exact ⟨required, optional, (Except.error.inj herror).symm, hrequired, hoptional⟩
  · rw [hresolve]
    refine ⟨iff_of_false (by simp) hsound, fun error herror => absurd herror (by simp), ?_⟩
    intro v' hok
    rw [← Except.ok.inj hok]
    exact hresolved

/-- Declarations that repeat names, within a list and across the two. -/
def repeatedDeclarations : List Declaration :=
  [.require "REGION", .optionally "REGION", .addRequired ⟨"REGION", .environment⟩,
    .requireImageTag "web-app", .optionally "PROXY", .require Environment.key, .optionally "REGION"]

/-- A source with an unknown environment, a region that is no text, a blank proxy and no image
tag. -/
def brokenSource : Source := fun name =>
  if name = Environment.key then .text " prod "
  else if name = "REGION" then .undecodable [0x65, 0xff]
  else if name = "PROXY" then .text " "
  else .absent

/-- What is wrong there: a name in both lists counts twice, and a blank optional variable not at
all. -/
def brokenProblems : List Problem :=
  [.invalid "ENVIRONMENT" "prod" "one of local | development | staging | production",
    .invalid "REGION" "e\uFFFD" "valid UTF-8", .missing "IMAGE_TAG_WEB_APP",
    .invalid "REGION" "e\uFFFD" "valid UTF-8"]

/-- A source with a text for every variable, that of the proxy blank. -/
def fullSource : Source := fun name =>
  if name = Environment.key then .text "staging"
  else if name = "PROXY" then .text "\t"
  else .text " eu-1 "

theorem declarations_resolved_repeated :
    (ofDeclarations repeatedDeclarations).resolve brokenSource =
        .error (.configuration brokenProblems) ∧
      (ofDeclarations repeatedDeclarations).Faulty brokenSource ∧
      ∃ v, (ofDeclarations repeatedDeclarations).resolve fullSource = .ok v ∧
        v.values.keys = ["IMAGE_TAG_WEB_APP", "REGION"] ∧
        (ofDeclarations repeatedDeclarations).Resolved fullSource v := by
  have hbroken : (ofDeclarations repeatedDeclarations).resolve brokenSource =
      .error (.configuration brokenProblems) := by decide +kernel
  have hfull : (ofDeclarations repeatedDeclarations).resolve fullSource =
      .ok ⟨.staging, Dict.ofList [("REGION", "eu-1"), ("IMAGE_TAG_WEB_APP", "eu-1")]⟩ := by
    decide +kernel
  obtain ⟨-, -, -, hfails, -, -⟩ := declarations_resolved repeatedDeclarations brokenSource
  obtain ⟨-, -, -, -, -, hvalues⟩ := declarations_resolved repeatedDeclarations fullSource
  exact ⟨hbroken, hfails.mp ⟨_, hbroken⟩, _, hfull, by decide +kernel, hvalues _ hfull⟩

end Requirements

end AppRelease
