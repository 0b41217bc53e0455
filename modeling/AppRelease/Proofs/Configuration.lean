import AppRelease.Proofs.Application

/-!
# Which configuration is built

Specification: a configuration is built exactly when the defaults are acceptable, the secrets belong
to the application and the environment, the image tag is a tag, and nothing that a template asks for
is missing (`Defaults.Buildable`). It is then the one configuration that agrees with the defaults
and gives every name what the last template of that name denotes (`Defaults.Configures`).

1. **Templates.** `Template.Denotes` says what a template stands for, one rule for each kind and two
   for the address, which the environment decides. `Template.value` computes it (`value_eq_ok_iff`).
2. **Ends of texts.** The registry loses the strokes at its end and the domain the points at its
   start. `Text.IsWithoutEnd` and `Text.IsWithoutStart` say what is left without saying how it is
   found.
3. **The crux (`Configures.unique`).** `Configures` leaves no choice: two dictionaries that give
   every name what its last template denotes are the same, as a template denotes one value at most.
-/

namespace AppRelease

/-! ## Ends of texts -/

namespace Text

/-- What is left of a text without the characters `c` at its end: only such characters follow, and
none of them is left. -/
def IsWithoutEnd (c : Char) (s core : String) : Prop :=
  (∃ n, s.toList = core.toList ++ List.replicate n c) ∧ core.toList.getLast? ≠ some c

/-- What is left of a text without the characters `c` at its start. -/
def IsWithoutStart (c : Char) (s core : String) : Prop :=
  (∃ n, s.toList = List.replicate n c ++ core.toList) ∧ core.toList.head? ≠ some c

section Ends

variable {α : Type} {p : α → Bool}

/-- What is kept does not end in a member of `p`. -/
theorem of_mem_getLast?_dropEndWhile {l : List α} {a : α}
    (h : (dropEndWhile p l).getLast? = some a) : p a = false := by
  induction l with
  | nil => exact absurd h (by simp [dropEndWhile])
  | cons b rest ih =>
    rw [dropEndWhile] at h
    cases hkept : dropEndWhile p rest with
    | nil =>
      simp only [hkept] at h
      by_cases hb : p b = true
      · exact absurd h (by simp [hb])
      · rw [if_neg hb, List.getLast?_singleton, Option.some.injEq] at h
        subst h
        exact Bool.not_eq_true _ ▸ hb
    | cons first kept =>
      simp only [hkept, List.getLast?_cons_cons] at h
      exact ih (hkept ▸ h)

/-- Nothing is dropped from a list that does not end in a member of `p`. -/
theorem dropEndWhile_eq_self {l : List α} (h : ∀ a, l.getLast? = some a → p a = false) :
    dropEndWhile p l = l := by
  rcases List.eq_nil_or_concat l with rfl | ⟨front, a, rfl⟩
  · rfl
  · rw [List.concat_eq_append] at h ⊢
    exact dropEndWhile_append_of_neg front (h a (by simp))

end Ends

theorem dropEndWhile_append_replicate (c : Char) (l : List Char) (n : Nat) :
    dropEndWhile (· == c) (l ++ List.replicate n c) = dropEndWhile (· == c) l := by
  induction n with
  | zero => simp
  | succ n ih =>
    rw [List.replicate_succ', ← List.append_assoc, dropEndWhile_append_of_pos _ (by simp), ih]

theorem trimEnd_eq_iff {c : Char} {s core : String} : trimEnd c s = core ↔
    IsWithoutEnd c s core := by
  constructor
  · rintro rfl
    rw [IsWithoutEnd, trimEnd, String.toList_ofList]
    constructor
    · obtain ⟨dropped, hsplit, hdropped⟩ := exists_append_dropEndWhile (· == c) s.toList
      refine ⟨dropped.length, ?_⟩
      rw [← List.eq_replicate_of_mem fun a ha => by simpa using hdropped a ha]
      exact hsplit
    · intro hlast
      exact absurd (of_mem_getLast?_dropEndWhile hlast) (by simp)
  · rintro ⟨⟨n, hsplit⟩, hlast⟩
    rw [trimEnd, hsplit, dropEndWhile_append_replicate, dropEndWhile_eq_self, String.ofList_toList]
    intro a ha
    rw [ha, ne_eq, Option.some.injEq] at hlast
    simpa using hlast

theorem dropWhile_eq_iff {c : Char} {l core : List Char} :
    l.dropWhile (· == c) = core ↔ (∃ n, l = List.replicate n c ++ core) ∧ core.head? ≠ some c := by
  induction l with
  | nil =>
    constructor
    · rintro rfl
      exact ⟨⟨0, rfl⟩, by simp⟩
    · rintro ⟨⟨n, hsplit⟩, -⟩
      exact (List.append_eq_nil_iff.mp hsplit.symm).2.symm
  | cons a rest ih =>
    by_cases ha : a = c
    · subst ha
      rw [List.dropWhile_cons_of_pos (by simp), ih]
      refine and_congr_left fun hhead => ⟨fun ⟨n, hn⟩ => ⟨n + 1, by rw [hn]; rfl⟩, ?_⟩
      rintro ⟨n, hn⟩
      cases n with
      | zero =>
        rw [List.replicate_zero, List.nil_append] at hn
        exact absurd (by rw [← hn]; rfl) hhead
      | succ n => exact ⟨n, (List.cons.inj hn).2⟩
    · rw [List.dropWhile_cons_of_neg (by simpa using ha)]
      constructor
      · rintro rfl
        exact ⟨⟨0, rfl⟩, by simpa using ha⟩
      · rintro ⟨⟨n, hn⟩, -⟩
        cases n with
        | zero => exact hn
        | succ n => exact absurd (List.cons.inj hn).1 ha

theorem trimStart_eq_iff {c : Char} {s core : String} :
    trimStart c s = core ↔ IsWithoutStart c s core := by
  rw [IsWithoutStart, ← dropWhile_eq_iff, trimStart]
  constructor
  · rintro rfl
    rw [String.toList_ofList]
  · intro h
    rw [h, String.ofList_toList]

end Text

/-! ## What templates denote -/

namespace Template

/-- What a template of an application stands for, given the variables and the secrets. -/
inductive Denotes (known : Variables) (secrets : Secrets.Bundle) (d : Defaults) :
    Template → Setting → Prop
  | literal (text : String) : Denotes known secrets d (.literal text) (.plain text)
  | environment : Denotes known secrets d .environment (.plain known.environment.name)
  | host : Denotes known secrets d .host (.plain d.resources.host)
  | port : Denotes known secrets d .port (.plain (Numeral.decimal d.resources.probePort.toNat))
  | localUrl (hlocal : known.environment = .localMachine) :
    Denotes known secrets d .baseUrl
      (.plain ("http://localhost:" ++ Numeral.decimal d.resources.probePort.toNat))
  | publicUrl {inner domain : String} (hpublic : known.environment ≠ .localMachine)
      (hstart : Text.IsWithoutStart '.' d.baseDomain inner)
      (hend : Text.IsWithoutEnd '/' inner domain) :
    Denotes known secrets d .baseUrl
      (.plain ("https://" ++ known.environment.name ++ "." ++ domain))
  | resolved {key text : String} (hkey : known.get? key = some text) :
    Denotes known secrets d (.resolved key) (.plain text)
  | secret {key encoded : String} (hkey : secrets.get? key = some encoded) :
    Denotes known secrets d (.secret key) (.secret encoded)

variable {known : Variables} {secrets : Secrets.Bundle} {d : Defaults} {t : Template} {s : Setting}

theorem baseUrl_of_ne_localMachine {e : Environment} (h : e ≠ .localMachine) (port : UInt16)
    (domain : String) : e.baseUrl port domain =
      "https://" ++ e.name ++ "." ++ Text.trimEnd '/' (Text.trimStart '.' domain) := by
  cases e with
  | localMachine => exact absurd rfl h
  | development => rfl
  | staging => rfl
  | production => rfl

/-- **The value of a template is what it denotes.** -/
theorem value_eq_ok_iff : t.value known secrets d = .ok s ↔ t.Denotes known secrets d s := by
  constructor
  · intro h
    cases t with
    | literal text => cases h; exact .literal text
    | environment => cases h; exact .environment
    | host => cases h; exact .host
    | port => cases h; exact .port
    | baseUrl =>
      cases h
      by_cases hlocal : known.environment = .localMachine
      · rw [hlocal]
        exact .localUrl hlocal
      · rw [baseUrl_of_ne_localMachine hlocal]
        exact .publicUrl hlocal (Text.trimStart_eq_iff.mp rfl) (Text.trimEnd_eq_iff.mp rfl)
    | resolved key =>
      cases hkey : known.get? key with
      | none => simp [value, hkey] at h
      | some text =>
        simp only [value, hkey, Except.ok.injEq] at h
        exact h ▸ .resolved hkey
    | secret key =>
      cases hkey : secrets.get? key with
      | none => simp [value, hkey] at h
      | some encoded =>
        simp only [value, hkey, Except.ok.injEq] at h
        exact h ▸ .secret hkey
  · intro h
    cases h with
    | literal text => rfl
    | environment => rfl
    | host => rfl
    | port => rfl
    | localUrl hlocal => rw [value, hlocal]; rfl
    | publicUrl hpublic hstart hend =>
      rw [value, baseUrl_of_ne_localMachine hpublic, Text.trimStart_eq_iff.mpr hstart,
        Text.trimEnd_eq_iff.mpr hend]
    | resolved hkey => simp [value, hkey]
    | secret hkey => simp [value, hkey]

/-- A template denotes something unless it asks for what is not there. -/
theorem exists_denotes_iff : (∃ s, t.Denotes known secrets d s) ↔
    (∀ key, t = .resolved key → ∃ text, known.get? key = some text) ∧
      ∀ key, t = .secret key → ∃ encoded, secrets.get? key = some encoded := by
  constructor
  · rintro ⟨s, hs⟩
    constructor
    · rintro key rfl
      cases hs with
      | resolved hkey => exact ⟨_, hkey⟩
    · rintro key rfl
      cases hs with
      | secret hkey => exact ⟨_, hkey⟩
  · rintro ⟨hresolved, hsecret⟩
    cases t with
    | resolved key =>
      obtain ⟨text, htext⟩ := hresolved key rfl
      exact ⟨_, .resolved htext⟩
    | secret key =>
      obtain ⟨encoded, hencoded⟩ := hsecret key rfl
      exact ⟨_, .secret hencoded⟩
    | literal text => exact ⟨_, .literal text⟩
    | environment => exact ⟨_, .environment⟩
    | host => exact ⟨_, .host⟩
    | port => exact ⟨_, .port⟩
    | baseUrl => exact ⟨_, value_eq_ok_iff.mp rfl⟩

/-- A template denotes one value at most. -/
theorem Denotes.unique {s' : Setting} (h : t.Denotes known secrets d s)
    (h' : t.Denotes known secrets d s') : s = s' :=
  Except.ok.inj ((value_eq_ok_iff.mpr h).symm.trans (value_eq_ok_iff.mpr h'))

/-- Only templates for secrets denote secrets. -/
theorem Denotes.secret_iff (h : t.Denotes known secrets d s) :
    (∃ encoded, s = .secret encoded) ↔ ∃ key, t = .secret key := by
  cases h <;> simp

end Template

namespace Defaults

variable {d : Defaults} {known : Variables} {secrets : Secrets.Bundle} {c : AppConfig}

/-! ## When a configuration is built -/

/-- Defaults that can be released: names that a cluster takes, a registry, at least one replica, a
port, and no request above its limit. -/
structure Acceptable (d : Defaults) : Prop where
  name : isLabel d.name = true
  nameSpace : isLabel d.nameSpace = true
  registry : Text.isBlankText d.registry = false
  replicas : 0 < d.resources.replicaCount
  port : 0 < d.resources.probePort
  memory : d.resources.requestMemory.bytes ≤ d.resources.limitMemory.bytes
  cpu : d.resources.requestCpu.millis ≤ d.resources.limitCpu.millis

/-- Each check of `faults` is one condition. -/
theorem faults_eq_nil_iff : d.faults = [] ↔ d.Acceptable := by
  have hreplicas : ¬ d.resources.replicaCount = 0 ↔ 0 < d.resources.replicaCount :=
    UInt32.pos_iff_ne_zero.symm
  have hport : ¬ d.resources.probePort = 0 ↔ 0 < d.resources.probePort :=
    UInt16.pos_iff_ne_zero.symm
  have hif : ∀ {p : Prop} [Decidable p] (fault : Fault), (if p then [fault] else []) = [] ↔
      ¬ p := by
    intro p _ fault
    by_cases hp : p <;> simp [hp]
  have hif' : ∀ {p : Prop} [Decidable p] (fault : Fault), (if p then [] else [fault]) = [] ↔ p := by
    intro p _ fault
    by_cases hp : p <;> simp [hp]
  simp only [faults, List.append_eq_nil_iff, hif, hif', hreplicas, hport,
    Bool.not_eq_true, Nat.not_lt, UInt64.not_lt]
  constructor
  · rintro ⟨⟨⟨⟨⟨⟨hname, hnameSpace⟩, hregistry⟩, hreplicas⟩, hport⟩, hmemory⟩, hcpu⟩
    exact ⟨hname, hnameSpace, hregistry, hreplicas, hport, hmemory, hcpu⟩
  · rintro ⟨hname, hnameSpace, hregistry, hreplicas, hport, hmemory, hcpu⟩
    exact ⟨⟨⟨⟨⟨⟨hname, hnameSpace⟩, hregistry⟩, hreplicas⟩, hport⟩, hmemory⟩, hcpu⟩

/-- Everything that a configuration needs. -/
structure Buildable (d : Defaults) (known : Variables) (secrets : Secrets.Bundle) : Prop where
  acceptable : d.Acceptable
  application : secrets.application = d.name
  environment : secrets.environment = known.environment
  tag : ∃ tag, known.get? d.imageTagKey = some tag ∧ isImageTag tag = true
  /-- Every variable that a template asks for is known. -/
  variablesKnown : ∀ name key, (name, .resolved key) ∈ d.env → ∃ text, known.get? key = some text
  /-- Every secret that a template asks for is there. -/
  secretsKnown : ∀ name key, (name, .secret key) ∈ d.env →
    ∃ encoded, secrets.get? key = some encoded

/-- A configuration says what the defaults say: metadata and resources are copied, the image is put
together from the registry without the strokes at its end, the name and the tag, and every name
among the templates, and no other, is bound to what its last template denotes. -/
structure Configures (d : Defaults) (known : Variables) (secrets : Secrets.Bundle) (c : AppConfig) :
    Prop where
  name : c.name = d.name
  nameSpace : c.nameSpace = d.nameSpace
  resources : c.resources = d.resources
  image : ∃ registry tag, Text.IsWithoutEnd '/' d.registry registry ∧
    known.get? d.imageTagKey = some tag ∧ c.image = registry ++ "/" ++ d.name ++ ":" ++ tag
  names : ∀ name, name ∈ c.settings.keys ↔ ∃ template, (name, template) ∈ d.env
  values : ∀ name template, LastEntry d.env name template →
    ∃ setting, template.Denotes known secrets d setting ∧ c.settings.get? name = some setting
  /-- Secrets are the names whose last template asks for one. -/
  secrecy : ∀ name, (∃ encoded, c.settings.get? name = some (.secret encoded)) ↔
    ∃ key, LastEntry d.env name (.secret key)

/-- Nothing is missing when every variable and every secret that a template asks for is there. -/
theorem shortfalls_eq_nil_iff_known : d.shortfalls known secrets = [] ↔
    (∀ name key, (name, .resolved key) ∈ d.env → ∃ text, known.get? key = some text) ∧
      ∀ name key, (name, .secret key) ∈ d.env → ∃ encoded, secrets.get? key = some encoded := by
  rw [shortfalls_eq_nil_iff]
  simp only [Template.value_eq_ok_iff, Template.exists_denotes_iff]
  constructor
  · intro h
    exact ⟨fun name key hentry => (h _ hentry).1 key rfl,
      fun name key hentry => (h _ hentry).2 key rfl⟩
  · rintro ⟨hresolved, hsecret⟩ ⟨name, template⟩ hentry
    constructor
    · rintro key rfl
      exact hresolved name key hentry
    · rintro key rfl
      exact hsecret name key hentry

/-- There is an image exactly when the tag is there and is a tag. -/
theorem image_eq_ok_iff {image : String} : d.image known = .ok image ↔
    ∃ tag, known.get? d.imageTagKey = some tag ∧ isImageTag tag = true ∧ image = d.imageOf tag := by
  rw [Defaults.image]
  cases known.get? d.imageTagKey with
  | none => simp
  | some tag =>
    by_cases htag : isImageTag tag = true
    · simp only [htag, if_true, Except.ok.injEq, Option.some.injEq, exists_eq_left', true_and]
      exact eq_comm
    · simp [htag]

/-- The conditions of `build_eq_ok_iff` are those of `Buildable`. -/
theorem buildable_iff : d.Buildable known secrets ↔
    d.faults = [] ∧ (secrets.application = d.name ∧ secrets.environment = known.environment) ∧
      d.shortfalls known secrets = [] ∧ ∃ image, d.image known = .ok image := by
  rw [faults_eq_nil_iff, shortfalls_eq_nil_iff_known]
  simp only [image_eq_ok_iff]
  constructor
  · rintro ⟨hacceptable, happlication, henvironment, ⟨tag, htag, hvalid⟩, hresolved, hsecrets⟩
    exact ⟨hacceptable, ⟨happlication, henvironment⟩, ⟨hresolved, hsecrets⟩, _, tag, htag,
      hvalid, rfl⟩
  · rintro ⟨hacceptable, ⟨happlication, henvironment⟩, ⟨hresolved, hsecrets⟩, _, tag,
      htag, hvalid, -⟩
    exact ⟨hacceptable, happlication, henvironment, ⟨tag, htag, hvalid⟩, hresolved, hsecrets⟩

/-! ## Which configuration is built -/

/-- What is built configures the application. -/
theorem configures_of_build (hbuild : d.build known secrets = .ok c) :
    d.Configures known secrets c := by
  obtain ⟨-, -, hnone, image, himage, hc⟩ := build_eq_ok_iff.mp hbuild
  obtain ⟨tag, htag, -, rfl⟩ := image_eq_ok_iff.mp himage
  have hdenotes : ∀ name template, LastEntry d.env name template →
      ∃ setting, template.Denotes known secrets d setting ∧
        c.settings.get? name = some setting := by
    intro name template hlast
    have htemplate : d.template? name = some template := lastValue?_eq_some_iff.mpr hlast
    obtain ⟨setting, hsetting⟩ :=
      shortfalls_eq_nil_iff.mp hnone (name, template) (mem_of_lastValue? htemplate)
    refine ⟨setting, Template.value_eq_ok_iff.mp hsetting, ?_⟩
    rw [get?_settings hbuild, htemplate, Option.bind_some]
    exact toOption_eq_some_iff.mpr hsetting
  constructor
  case name => rw [hc]; rfl
  case nameSpace => rw [hc]; rfl
  case resources => rw [hc]; rfl
  case image =>
    exact ⟨Text.trimEnd '/' d.registry, tag, Text.trimEnd_eq_iff.mp rfl, htag, by rw [hc]; rfl⟩
  case values => exact hdenotes
  case names =>
    intro name
    rw [Dict.mem_keys_iff, Option.isSome_iff_exists]
    constructor
    · rintro ⟨setting, hsetting⟩
      rw [get?_settings hbuild, Option.bind_eq_some_iff] at hsetting
      obtain ⟨template, htemplate, -⟩ := hsetting
      exact ⟨template, mem_of_lastValue? htemplate⟩
    · rintro ⟨template, hentry⟩
      -- a name that has a template has a last one
      cases htemplate : d.template? name with
      | none => exact absurd rfl (lastValue?_eq_none_iff.mp htemplate _ hentry)
      | some last =>
        obtain ⟨setting, -, hsetting⟩ := hdenotes name last (lastValue?_eq_some_iff.mp htemplate)
        exact ⟨setting, hsetting⟩
  case secrecy =>
    intro name
    constructor
    · rintro ⟨encoded, hsecret⟩
      rw [get?_settings hbuild, Option.bind_eq_some_iff] at hsecret
      obtain ⟨template, htemplate, hvalue⟩ := hsecret
      obtain ⟨key, rfl, -⟩ := Template.value_eq_secret_iff.mp (toOption_eq_some_iff.mp hvalue)
      exact ⟨key, lastValue?_eq_some_iff.mp htemplate⟩
    · rintro ⟨key, hlast⟩
      obtain ⟨setting, hsetting, hget⟩ := hdenotes name _ hlast
      obtain ⟨encoded, rfl⟩ := hsetting.secret_iff.mpr ⟨key, rfl⟩
      exact ⟨encoded, hget⟩

/-- The names of a configuration are those of the templates, so a name without a template has no
value. -/
theorem Configures.get?_eq_none (h : d.Configures known secrets c) {name : String}
    (hname : d.template? name = none) : c.settings.get? name = none := by
  have hkeys : name ∉ c.settings.keys := by
    rw [h.names]
    rintro ⟨template, hentry⟩
    exact lastValue?_eq_none_iff.mp hname _ hentry rfl
  rw [Dict.mem_keys_iff, Option.not_isSome_iff_eq_none] at hkeys
  exact hkeys

/-- **There is one configuration at most** that says what the defaults say. -/
theorem Configures.unique {c' : AppConfig} (h : d.Configures known secrets c)
    (h' : d.Configures known secrets c') : c = c' := by
  have himage : c.image = c'.image := by
    obtain ⟨registry, tag, hregistry, htag, himage⟩ := h.image
    obtain ⟨registry', tag', hregistry', htag', himage'⟩ := h'.image
    rw [himage, himage', ← Text.trimEnd_eq_iff.mpr hregistry,
      ← Text.trimEnd_eq_iff.mpr hregistry', Option.some.inj (htag.symm.trans htag')]
  have hsettings : c.settings = c'.settings := by
    apply Dict.ext_get?
    intro name
    cases htemplate : d.template? name with
    | none => rw [h.get?_eq_none htemplate, h'.get?_eq_none htemplate]
    | some template =>
      have hlast := lastValue?_eq_some_iff.mp htemplate
      obtain ⟨setting, hsetting, hget⟩ := h.values name template hlast
      obtain ⟨setting', hsetting', hget'⟩ := h'.values name template hlast
      rw [hget, hget', hsetting.unique hsetting']
  have hname := h.name.trans h'.name.symm
  have hnameSpace := h.nameSpace.trans h'.nameSpace.symm
  have hresources := h.resources.trans h'.resources.symm
  obtain ⟨name, nameSpace, image, resources, settings⟩ := c
  simp only at hname hnameSpace himage hresources hsettings
  rw [hname, hnameSpace, himage, hresources, hsettings]

/-- **A configuration is built exactly when everything it needs is there, and it is the one that
says what the defaults say.** -/
theorem build_exactly_specified (d : Defaults) (known : Variables) (secrets : Secrets.Bundle) :
    ((∃ c, d.build known secrets = .ok c) ↔ d.Buildable known secrets) ∧
      ∀ c, d.build known secrets = .ok c ↔
        d.Buildable known secrets ∧ d.Configures known secrets c := by
  have hsuccess : (∃ c, d.build known secrets = .ok c) ↔ d.Buildable known secrets := by
    rw [buildable_iff]
    constructor
    · rintro ⟨c, hbuild⟩
      obtain ⟨hfaults, hown, hnone, image, himage, -⟩ := build_eq_ok_iff.mp hbuild
      exact ⟨hfaults, hown, hnone, image, himage⟩
    · rintro ⟨hfaults, hown, hnone, image, himage⟩
      exact ⟨_, build_eq_ok_iff.mpr ⟨hfaults, hown, hnone, image, himage, rfl⟩⟩
  refine ⟨hsuccess, fun c =>
    ⟨fun hbuild => ⟨hsuccess.mp ⟨c, hbuild⟩, configures_of_build hbuild⟩, ?_⟩⟩
  rintro ⟨hbuildable, hconfigures⟩
  -- something is built, and it is `c`, as both say what the defaults say
  obtain ⟨built, hbuilt⟩ := hsuccess.mpr hbuildable
  rw [hconfigures.unique (configures_of_build hbuilt)]
  exact hbuilt

end Defaults

end AppRelease
