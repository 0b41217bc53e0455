import AppRelease.Proofs.Application
import AppRelease.Proofs.Overrides

/-!
# Overrides in several rounds

Program: overrides are applied to defaults, and others to what they leave. `Overrides.merge` puts
two sets of overrides together, and the later one counts where both have a value.

Specification: `Overrides.rounds_agree_with_merge`. Two rounds and one round of the merged overrides
leave the same defaults up to the order of new templates (`Defaults.SameButNew`), and every
configuration or error that comes of the one comes of the other.

1. **Fields.** What overrides choose decides every field (`Defaults.Overridden.agree`), and the
   choices of two rounds are those of the merged overrides (`value?_merge`).
2. **Templates.** Only the last value of a name matters, up to the order of what is new
   (`assign_agree`).
3. **The crux.** What is new is literals with distinct names. A literal never misses anything, so no
   report sees them, and a dictionary does not see the order of distinct names
   (`shortfalls_of_sameButOrder`, `settings_of_sameButOrder`).
-/

namespace AppRelease

/-! ## Fields -/

/-- Defaults that are the same except for the order of the templates from a place on. -/
structure Defaults.SameButNew (n : Nat) (d d' : Defaults) : Prop where
  fields : d' = { d with env := d'.env }
  env : SameButOrder n d.env d'.env

theorem ReadsAs32.unique {value : String} {a b : UInt32} (ha : ReadsAs32 value a)
    (hb : ReadsAs32 value b) : a = b := by
  rw [ReadsAs32] at ha hb
  rw [ha] at hb
  exact UInt32.toNat_inj.mp (Except.ok.inj hb)

theorem ReadsAs16.unique {value : String} {a b : UInt16} (ha : ReadsAs16 value a)
    (hb : ReadsAs16 value b) : a = b := by
  rw [ReadsAs16] at ha hb
  rw [ha] at hb
  exact UInt16.toNat_inj.mp (Except.ok.inj hb)

/-- Resources are decided by the values that are chosen. -/
theorem Resources.Overridden.unique {value? : Property → Option String} {r r₁ r₂ : Resources}
    (h₁ : r.Overridden value? r₁) (h₂ : r.Overridden value? r₂) : r₁ = r₂ := by
  have hmemory : ∀ {value : String} {a b : Memory}, Memory.parse value = .ok a →
      Memory.parse value = .ok b → a = b :=
    fun ha hb => Except.ok.inj (ha.symm.trans hb)
  have hcpu : ∀ {value : String} {a b : Cpu}, Cpu.parse value = .ok a →
      Cpu.parse value = .ok b → a = b :=
    fun ha hb => Except.ok.inj (ha.symm.trans hb)
  have hreplicas := h₁.replicas.unique h₂.replicas ReadsAs32.unique
  have hport := h₁.port.unique h₂.port ReadsAs16.unique
  have hrequestCpu := h₁.requestCpu.unique h₂.requestCpu hcpu
  have hlimitCpu := h₁.limitCpu.unique h₂.limitCpu hcpu
  have hrequestMemory := h₁.requestMemory.unique h₂.requestMemory hmemory
  have hlimitMemory := h₁.limitMemory.unique h₂.limitMemory hmemory
  have hhost := h₁.host.unique h₂.host (fun ha hb => ha.symm.trans hb)
  cases r₁
  cases r₂
  simp only [Resources.mk.injEq]
  exact ⟨hrequestMemory, hrequestCpu, hlimitMemory, hlimitCpu, hreplicas, hport, hhost⟩

/-- **Every field is decided by the values that are chosen**, the templates apart. -/
theorem Defaults.Overridden.agree {value? : Property → Option String} {d d₁ d₂ : Defaults}
    (h₁ : d.Overridden value? d₁) (h₂ : d.Overridden value? d₂) :
    d₂ = { d₁ with env := d₂.env } := by
  have hname := h₁.name.trans h₂.name.symm
  have hdomain := h₁.baseDomain.trans h₂.baseDomain.symm
  have hrequired := h₁.requiredEnv.trans h₂.requiredEnv.symm
  have hspace := h₁.nameSpace.unique h₂.nameSpace (fun ha hb => ha.symm.trans hb)
  have hregistry := h₁.registry.unique h₂.registry (fun ha hb => ha.symm.trans hb)
  have hresources := h₁.resources.unique h₂.resources
  cases d₁
  cases d₂
  simp only [Defaults.mk.injEq]
  exact ⟨hname.symm, hspace.symm, hregistry.symm, hdomain.symm, hresources.symm, trivial,
    hrequired.symm⟩

namespace Overrides

/-- Overrides and then others: where both have a value, the later one counts. -/
def merge (o later : Overrides) : Overrides := o.insertAll later.entries

variable {o later : Overrides} {d : Defaults}

theorem get?_merge (o later : Overrides) (key : String) :
    (o.merge later).get? key = (later.get? key).or (o.get? key) := by
  rw [merge, Dict.get?_insertAll, Dict.lastValue?_entries]

theorem value?_merge (o later : Overrides) :
    (o.merge later).value? = fun p => (later.value? p).or (o.value? p) := by
  funext p
  exact get?_merge o later p.key

/-- Merged overrides are valid if those that they were merged from are. -/
theorem valid_merge (ho : ∀ entry ∈ o.entries, Override.Valid entry)
    (hlater : ∀ entry ∈ later.entries, Override.Valid entry) :
    ∀ entry ∈ (o.merge later).entries, Override.Valid entry := by
  rintro ⟨key, value⟩ hentry
  rw [← Dict.get?_eq_some_iff, get?_merge, Option.or_eq_some_iff] at hentry
  rcases hentry with hvalue | ⟨-, hvalue⟩
  · exact hlater _ ((Dict.get?_eq_some_iff later).mp hvalue)
  · exact ho _ ((Dict.get?_eq_some_iff o).mp hvalue)

/-- **Two rounds leave what one round of the merged overrides leaves**, up to the order of what is
new. -/
theorem sameButNew_merge (ho : ∀ entry ∈ o.entries, Override.Valid entry)
    (hlater : ∀ entry ∈ later.entries, Override.Valid entry) (d : Defaults) :
    (later.effect (o.effect d)).SameButNew d.env.length ((o.merge later).effect d) := by
  have hmerged := valid_merge ho hlater
  constructor
  case fields =>
    have hrounds := (overridden_effect ho d).trans (overridden_effect hlater (o.effect d))
    have honce := overridden_effect hmerged d
    rw [value?_merge] at honce
    exact hrounds.agree honce
  case env =>
    rw [effect, effect, effect, env_foldl, env_foldl, env_foldl, ← assign_append]
    apply assign_agree
    intro name
    rw [lastValue?_append, lastValue?_assignments ho, lastValue?_assignments hlater,
      lastValue?_assignments hmerged, Dict.lastValue?_entries, Dict.lastValue?_entries,
      Dict.lastValue?_entries, get?_merge]

/-- **Overrides that were applied change nothing when they are applied again.** -/
theorem effect_effect (ho : ∀ entry ∈ o.entries, Override.Valid entry) (d : Defaults) :
    o.effect (o.effect d) = o.effect d := by
  have honce := overridden_effect ho d
  have htwice := honce.trans (overridden_effect ho (o.effect d))
  simp only [Option.or_self] at htwice
  have henv : (o.effect (o.effect d)).env = (o.effect d).env := by
    rw [effect, effect, env_foldl, env_foldl, assign_assign]
  rw [honce.agree htwice, henv]

end Overrides

/-! ## What is built -/

namespace Defaults

variable {n : Nat} {env env' : List (String × Template)} {d : Defaults} {known : Variables}
  {secrets : Secrets.Bundle}

/-- Literals miss nothing. -/
theorem shortfalls_of_literals (h : ∀ entry ∈ env, ∃ text, entry.2 = .literal text) :
    ({ d with env := env }).shortfalls known secrets = [] := by
  rw [shortfalls_eq_nil_iff]
  intro entry hentry
  obtain ⟨text, htext⟩ := h entry hentry
  exact ⟨.plain text, by rw [htext]; rfl⟩

/-- What is missing, template by template. -/
theorem shortfalls_append (d : Defaults) (known : Variables) (secrets : Secrets.Bundle)
    (front back : List (String × Template)) :
    ({ d with env := front ++ back }).shortfalls known secrets =
      ({ d with env := front }).shortfalls known secrets ++
        ({ d with env := back }).shortfalls known secrets := by
  simp only [shortfalls, results, List.map_append, List.filterMap_append]
  rfl

/-- What was found, template by template. -/
theorem found_append (d : Defaults) (known : Variables) (secrets : Secrets.Bundle)
    (front back : List (String × Template)) :
    ({ d with env := front ++ back }).found known secrets =
      ({ d with env := front }).found known secrets ++
        ({ d with env := back }).found known secrets := by
  simp only [found, results, List.map_append, List.filterMap_append]
  rfl

/-- What was found has the names of the templates, so distinct names stay distinct. -/
theorem nodup_found (h : (namesOf env).Nodup) :
    ((found { d with env := env } known secrets).map (·.1)).Nodup := by
  have hnames : env.Pairwise fun a b => a.1 ≠ b.1 := List.pairwise_map.mp h
  rw [found, results, List.filterMap_map]
  refine List.pairwise_map.mpr (List.pairwise_filterMap.mpr (hnames.imp ?_))
  intro a b hne x hx y hy
  obtain ⟨_, -, rfl⟩ := Option.map_eq_some_iff.mp hx
  obtain ⟨_, -, rfl⟩ := Option.map_eq_some_iff.mp hy
  exact hne

theorem shortfalls_of_sameButOrder (h : SameButOrder n env env') :
    ({ d with env := env }).shortfalls known secrets =
      ({ d with env := env' }).shortfalls known secrets := by
  have hliteral : ∀ entry ∈ env'.drop n, ∃ text, entry.2 = .literal text :=
    fun entry hentry => h.literal entry (h.perm.mem_iff.mpr hentry)
  rw [← List.take_append_drop n env, ← List.take_append_drop n env', shortfalls_append,
    shortfalls_append, shortfalls_of_literals h.literal, shortfalls_of_literals hliteral, h.front]

theorem settings_of_sameButOrder (h : SameButOrder n env env') :
    Dict.ofList (({ d with env := env }).found known secrets) =
      Dict.ofList (({ d with env := env' }).found known secrets) := by
  have hperm : (({ d with env := env.drop n }).found known secrets).Perm
      (({ d with env := env'.drop n }).found known secrets) := (h.perm.map _).filterMap _
  apply Dict.ext_get?
  intro name
  rw [Dict.get?_ofList, Dict.get?_ofList, ← List.take_append_drop n env,
    ← List.take_append_drop n env', found_append, found_append, lastValue?_append,
    lastValue?_append, h.front, lastValue?_of_perm (nodup_found h.nodup) hperm]

/-- **The order of new templates is not seen**: the same configuration is built, or the same error
is reported. -/
theorem SameButNew.build_eq {d d' : Defaults} (h : d.SameButNew n d') (known : Variables)
    (secrets : Secrets.Bundle) :
    d.build known secrets = d'.build known secrets := by
  have hshortfalls :
      d.shortfalls known secrets = ({ d with env := d'.env }).shortfalls known secrets :=
    shortfalls_of_sameButOrder h.env
  have hsettings : Dict.ofList (d.found known secrets) =
      Dict.ofList (({ d with env := d'.env }).found known secrets) :=
    settings_of_sameButOrder h.env
  have hproblems : d.variableProblems known secrets =
      ({ d with env := d'.env }).variableProblems known secrets := by
    rw [variableProblems, hshortfalls]
    rfl
  have hmissing : d.missingSecrets known secrets =
      ({ d with env := d'.env }).missingSecrets known secrets := by
    rw [missingSecrets, hshortfalls]
    rfl
  have hconfig : ∀ image, d.configWith known secrets image =
      ({ d with env := d'.env }).configWith known secrets image := by
    intro image
    rw [configWith, hsettings]
    rfl
  rw [h.fields, Defaults.build_eq, Defaults.build_eq, hproblems, hmissing]
  simp only [hconfig]
  rfl

end Defaults

/-! ## Rounds -/

namespace Overrides

/-- **Overrides compose.** Two rounds of valid overrides are accepted, and so are the merged
overrides. The defaults that are left agree, except perhaps in the order of new templates, and the
same is built from them. Overrides that were applied already change nothing. Names need not be
distinct for any of this. -/
theorem rounds_agree_with_merge (o later : Overrides) (d : Defaults)
    (ho : ∀ entry ∈ o.entries, Override.Valid entry)
    (hlater : ∀ entry ∈ later.entries, Override.Valid entry) :
    (∀ key, (o.merge later).get? key = (later.get? key).or (o.get? key)) ∧
    ∃ d₁ d₂ d', o.applyTo d = .ok d₁ ∧ later.applyTo d₁ = .ok d₂ ∧
      (o.merge later).applyTo d = .ok d' ∧
      d₂.SameButNew d.env.length d' ∧
      (∀ known secrets, d₂.build known secrets = d'.build known secrets) ∧
      o.applyTo d₁ = .ok d₁ := by
  have hsame := sameButNew_merge ho hlater d
  refine ⟨get?_merge o later, o.effect d, later.effect (o.effect d), (o.merge later).effect d, ?_,
    ?_, ?_, hsame, ?_, ?_⟩
  · exact applyTo_eq_ok_iff.mpr ⟨ho, rfl⟩
  · exact applyTo_eq_ok_iff.mpr ⟨hlater, rfl⟩
  · exact applyTo_eq_ok_iff.mpr ⟨valid_merge ho hlater, rfl⟩
  · exact fun known secrets => hsame.build_eq known secrets
  · exact applyTo_eq_ok_iff.mpr ⟨ho, (effect_effect ho d).symm⟩

/-- An application with one variable. -/
def tracedDefaults : Defaults :=
  { Defaults.plainDefaults with name := "traced", env := [("LEVEL", .literal "info")] }

/-- A port and a new variable. -/
def firstRound : Overrides := Dict.ofList [("app.port", "9000"), ("app.env.TRACE", "on")]

/-- Another port, another value for the variable that was there, and a new variable that is before
the other new one. -/
def secondRound : Overrides :=
  Dict.ofList [("app.port", "9001"), ("app.env.LEVEL", "debug"), ("app.env.COLOR", "off")]

/-- Two rounds put the new variables in another order than one round does, and the same is built. -/
theorem rounds_agree_with_merge_traced :
    ∃ d₁ d₂ d', firstRound.applyTo tracedDefaults = .ok d₁ ∧ secondRound.applyTo d₁ = .ok d₂ ∧
      (firstRound.merge secondRound).applyTo tracedDefaults = .ok d' ∧
      namesOf d₂.env = ["LEVEL", "TRACE", "COLOR"] ∧ namesOf d'.env = ["LEVEL", "COLOR", "TRACE"] ∧
      ∀ known secrets, d₂.build known secrets = d'.build known secrets := by
  have hfirst : ∀ entry ∈ firstRound.entries, Override.Valid entry := by decide +kernel
  have hsecond : ∀ entry ∈ secondRound.entries, Override.Valid entry := by decide +kernel
  obtain ⟨-, d₁, d₂, d', h₁, h₂, hmerged, -, hbuild, -⟩ :=
    rounds_agree_with_merge firstRound secondRound tracedDefaults hfirst hsecond
  refine ⟨d₁, d₂, d', h₁, h₂, hmerged, ?_, ?_, hbuild⟩
  · rw [(applyTo_eq_ok_iff.mp h₂).2, (applyTo_eq_ok_iff.mp h₁).2]
    decide +kernel
  · rw [(applyTo_eq_ok_iff.mp hmerged).2]
    decide +kernel

end Overrides

end AppRelease
