import AppRelease.Overrides
import AppRelease.Proofs.Assignments

/-!
# What overrides do

Program: `Overrides.outcome` goes through overrides by ascending key. It answers with an error that
names `Overrides.rejections`, if there are any, and leaves `Overrides.effect` behind, also when it
fails.

Specification: `Overrides.judged_one_by_one`. An override is taken exactly when its key is that of a
property that accepts its value (`Override.Valid`). The error names the others, by ascending key,
and what is left is what those that are taken would leave alone.

1. **Keys.** `Property.key` writes a property, and `Property.ofKey?` reads it back
   (`ofKey?_eq_some_iff`).
2. **One override.** `Defaults.Overridden` says of every field whether a value is chosen for it, and
   then what it is. One property chooses a value for its own field
   (`Property.overridden_of_change`).
3. **All of them.** Choices compose as the last value of a key does (`Settles.trans`), so a run of
   overrides chooses for each field the last value of its key (`overridden_foldl`).
4. **The crux.** An override that is not taken changes nothing, so it can be left out
   (`effect_taken`).
-/

namespace AppRelease

/-! ## Keys -/

namespace Property

/-- How a property is written. -/
def key : Property → String
  | replicas => "app.replicas"
  | port => "app.port"
  | requestCpu => "app.request-cpu"
  | limitCpu => "app.limit-cpu"
  | requestMemory => "app.request-memory"
  | limitMemory => "app.limit-memory"
  | host => "app.host"
  | nameSpace => "app.namespace"
  | registry => "app.registry"
  | env name => "app.env." ++ name

variable {p q : Property}

/-- A key of its own does not start as the key of a variable. -/
theorem ne_env_of_mem_named {text : String} (h : (text, p) ∈ named) (name : String) :
    text ≠ (env name).key := by
  have hstarts : ∀ entry ∈ named, entry.1.toList.take 8 ≠ "app.env.".toList := by decide
  rintro rfl
  refine hstarts _ h ?_
  show ("app.env." ++ name).toList.take 8 = _
  rw [String.toList_append]
  rfl

/-- A variable with a name is read off its key. -/
theorem ofKey?_env {name : String} (hname : name ≠ "") :
    ofKey? (env name).key = some (env name) := by
  have hnamed : named.lookup (env name).key = none := by
    rw [List.lookup_eq_none_iff]
    rintro ⟨text, p⟩ hmem
    rw [bne_iff_ne]
    exact (ne_env_of_mem_named hmem name).symm
  have hafter : Text.after? envLead.toList (env name).key.toList = some name.toList :=
    Text.after?_eq_some_iff.mpr String.toList_append
  have hlist : name.toList ≠ [] := fun hnil => hname (String.toList_inj.mp hnil)
  obtain ⟨c, rest, hc⟩ := List.exists_cons_of_ne_nil hlist
  rw [ofKey?, hnamed, hafter, hc]
  simp only [← hc, String.ofList_toList]

/-- **A property is read off its key**, except a variable without a name. -/
theorem ofKey?_eq_some_iff {text : String} : ofKey? text = some p ↔ text = p.key ∧ p ≠ env "" := by
  constructor
  · intro h
    rw [ofKey?] at h
    cases hnamed : named.lookup text with
    | some own =>
      have hkeys : ∀ entry ∈ named, entry.1 = entry.2.key ∧ entry.2 ≠ env "" := by decide
      rw [hnamed, Option.some.injEq] at h
      subst h
      obtain ⟨before, after, hsplit, -⟩ := List.lookup_eq_some_iff.mp hnamed
      exact hkeys (text, own) (by rw [hsplit]; simp)
    | none =>
      simp only [hnamed] at h
      split at h
      next c rest hafter =>
        cases h
        have htext := Text.after?_eq_some_iff.mp hafter
        refine ⟨?_, ?_⟩
        · rw [← String.toList_inj, htext]
          simp [key, envLead]
        · simp
      next => exact absurd h (by simp)
  · rintro ⟨rfl, hp⟩
    cases p with
    | env name => exact ofKey?_env fun hname => hp (by rw [hname])
    | _ => rfl

/-- **Properties have different keys.** -/
theorem key_injective (h : p.key = q.key) : p = q := by
  have hread : ∀ p : Property, ofKey? p.key = if p = env "" then none else some p := by
    intro p
    by_cases hp : p = env ""
    · rw [hp]
      rfl
    · rw [if_neg hp, ofKey?_eq_some_iff]
      exact ⟨rfl, hp⟩
  have hsame := (hread p).symm.trans (h ▸ hread q)
  by_cases hp : p = env ""
  · by_cases hq : q = env ""
    · rw [hp, hq]
    · simp [hp, hq] at hsame
  · by_cases hq : q = env ""
    · simp [hp, hq] at hsame
    · simpa [hp, hq] using hsame

end Property

/-! ## Which overrides are taken -/

/-- The values that a property accepts: numbers of 32 and of 16 bits, quantities, or any text. A
variable has to have a name. -/
def Property.Accepts (value : String) : Property → Prop
  | replicas => ∃ n, Numeral.readBounded (UInt32.size - 1) value.toList = .ok n
  | port => ∃ n, Numeral.readBounded (UInt16.size - 1) value.toList = .ok n
  | requestCpu | limitCpu => ∃ q, Cpu.parse value = .ok q
  | requestMemory | limitMemory => ∃ q, Memory.parse value = .ok q
  | host | nameSpace | registry => True
  | env name => name ≠ ""

/-- An override of a property that accepts its value. -/
def Override.Valid (entry : String × String) : Prop :=
  ∃ p : Property, entry.1 = p.key ∧ p.Accepts entry.2

section Reading

variable {α : Type}

theorem Property.readNumber_eq_ok_iff {limit n : Nat} {value : String} :
    readNumber limit value = .ok n ↔ Numeral.readBounded limit value.toList = .ok n := by
  rw [readNumber]
  cases Numeral.readBounded limit value.toList <;> simp

theorem Property.readQuantity_eq_ok_iff {parsed : Except Quantity.Fault α} {q : α} :
    readQuantity parsed = .ok q ↔ parsed = .ok q := by
  cases parsed <;> simp [readQuantity]

/-- A property that reads its value first makes a change when the value can be read. -/
theorem exists_read_eq_ok_iff {ε β : Type} {read : Except ε α} {f : α → β} :
    (∃ b, (do let a ← read; return f a : Except ε β) = .ok b) ↔ ∃ a, read = .ok a := by
  cases read <;> simp [bind, Except.bind, pure, Except.pure]

end Reading

/-- A property makes a change exactly when it accepts the value. -/
theorem Property.exists_change_iff {p : Property} (hp : p ≠ .env "") {value : String} :
    (∃ f, p.change value = .ok f) ↔ p.Accepts value := by
  cases p with
  | replicas | port =>
    simp only [change, exists_read_eq_ok_iff, readNumber_eq_ok_iff, Accepts]
  | requestCpu | limitCpu | requestMemory | limitMemory =>
    simp only [change, exists_read_eq_ok_iff, readQuantity_eq_ok_iff, Accepts]
  | host | nameSpace | registry => simp [change, Accepts]
  | env name =>
    have hname : name ≠ "" := fun hname => hp (by rw [hname])
    simp [change, Accepts, hname]

namespace Override

variable {entry : String × String}

/-- **An override is taken exactly when it is valid.** -/
theorem valid_iff : Valid entry ↔ ∃ f, change entry.1 entry.2 = .ok f := by
  rw [change, Valid]
  cases hkey : Property.ofKey? entry.1 with
  | some p =>
    obtain ⟨hentry, hp⟩ := Property.ofKey?_eq_some_iff.mp hkey
    simp only [Property.exists_change_iff hp]
    constructor
    · rintro ⟨q, hq, haccepts⟩
      rwa [Property.key_injective (hentry.symm.trans hq)]
    · intro haccepts
      exact ⟨p, hentry, haccepts⟩
  | none =>
    simp only [reduceCtorEq, exists_false, iff_false, not_exists, not_and]
    intro q hq haccepts
    have hproper : q ≠ .env "" := by
      rintro rfl
      exact haccepts rfl
    rw [Property.ofKey?_eq_some_iff.mpr ⟨hq, hproper⟩] at hkey
    exact absurd hkey (by simp)

instance decidableValid (entry : String × String) : Decidable (Valid entry) :=
  decidable_of_iff ((change entry.1 entry.2).toOption.isSome = true) (by
    rw [valid_iff, Option.isSome_iff_exists]
    simp only [toOption_eq_some_iff])

theorem step_of_not_valid (h : ¬ Valid entry) (d : Defaults) : step d entry = d := by
  rw [valid_iff] at h
  rw [step]
  cases hchange : change entry.1 entry.2 with
  | ok f => exact absurd ⟨f, hchange⟩ h
  | error reason => rfl

/-- What is rejected names the override. -/
theorem rejection?_eq_some {r : Rejection} (h : rejection? entry = some r) :
    r.key = entry.1 ∧ r.value = entry.2 ∧ ¬ Valid entry := by
  rw [rejection?] at h
  rw [valid_iff]
  cases hchange : change entry.1 entry.2 with
  | ok f => simp [hchange] at h
  | error reason =>
    simp only [hchange, Option.some.injEq] at h
    subst h
    exact ⟨rfl, rfl, by simp⟩

theorem rejection?_eq_none_iff : rejection? entry = none ↔ Valid entry := by
  rw [rejection?, valid_iff]
  cases change entry.1 entry.2 <;> simp

end Override

/-! ## What is chosen for a field -/

/-- A field after overrides: what the chosen value says, and what it was when none is chosen. -/
def Settles {α : Type} (chosen : Option String) (reads : String → α → Prop) (old new : α) : Prop :=
  match chosen with
  | some value => reads value new
  | none => new = old

namespace Settles

variable {α : Type} {earlier later chosen : Option String} {reads : String → α → Prop}
  {old mid new new' : α}

/-- **Choices compose**, and the later one counts. -/
theorem trans (h : Settles earlier reads old mid) (h' : Settles later reads mid new) :
    Settles (later.or earlier) reads old new := by
  cases later with
  | some value => exact h'
  | none =>
    have heq : new = mid := h'
    rw [heq]
    exact h

/-- A choice leaves one value, if a text is read in one way. -/
theorem unique (h : Settles chosen reads old new) (h' : Settles chosen reads old new')
    (hreads : ∀ {value a b}, reads value a → reads value b → a = b) : new = new' := by
  cases chosen with
  | some value => exact hreads h h'
  | none => exact Eq.trans h (Eq.symm h')

end Settles

/-- A text that states a number of 32 bits. -/
def ReadsAs32 (value : String) (n : UInt32) : Prop :=
  Numeral.readBounded (UInt32.size - 1) value.toList = .ok n.toNat

/-- A text that states a number of 16 bits. -/
def ReadsAs16 (value : String) (n : UInt16) : Prop :=
  Numeral.readBounded (UInt16.size - 1) value.toList = .ok n.toNat

/-- Resources after overrides, where `value?` says which value is chosen for a property. -/
structure Resources.Overridden (value? : Property → Option String) (r r' : Resources) : Prop where
  replicas : Settles (value? .replicas) ReadsAs32 r.replicaCount r'.replicaCount
  port : Settles (value? .port) ReadsAs16 r.probePort r'.probePort
  requestCpu : Settles (value? .requestCpu) (Cpu.parse · = .ok ·) r.requestCpu r'.requestCpu
  limitCpu : Settles (value? .limitCpu) (Cpu.parse · = .ok ·) r.limitCpu r'.limitCpu
  requestMemory :
    Settles (value? .requestMemory) (Memory.parse · = .ok ·) r.requestMemory r'.requestMemory
  limitMemory : Settles (value? .limitMemory) (Memory.parse · = .ok ·) r.limitMemory r'.limitMemory
  host : Settles (value? .host) (· = ·) r.host r'.host

/-- Defaults after overrides. Their templates are a matter of their own. -/
structure Defaults.Overridden (value? : Property → Option String) (d d' : Defaults) : Prop where
  name : d'.name = d.name
  baseDomain : d'.baseDomain = d.baseDomain
  requiredEnv : d'.requiredEnv = d.requiredEnv
  nameSpace : Settles (value? .nameSpace) (· = ·) d.nameSpace d'.nameSpace
  registry : Settles (value? .registry) (· = ·) d.registry d'.registry
  resources : d.resources.Overridden value? d'.resources

/-- **Overrides in two rounds**: the value of the later round counts. -/
theorem Defaults.Overridden.trans {earlier? later? : Property → Option String}
    {d d' d'' : Defaults} (h : d.Overridden earlier? d') (h' : d'.Overridden later? d'') :
    d.Overridden (fun p => (later? p).or (earlier? p)) d'' where
  name := h'.name.trans h.name
  baseDomain := h'.baseDomain.trans h.baseDomain
  requiredEnv := h'.requiredEnv.trans h.requiredEnv
  nameSpace := h.nameSpace.trans h'.nameSpace
  registry := h.registry.trans h'.registry
  resources := {
    replicas := h.resources.replicas.trans h'.resources.replicas
    port := h.resources.port.trans h'.resources.port
    requestCpu := h.resources.requestCpu.trans h'.resources.requestCpu
    limitCpu := h.resources.limitCpu.trans h'.resources.limitCpu
    requestMemory := h.resources.requestMemory.trans h'.resources.requestMemory
    limitMemory := h.resources.limitMemory.trans h'.resources.limitMemory
    host := h.resources.host.trans h'.resources.host }

/-- Without a choice nothing changes. -/
theorem Defaults.overridden_refl (d : Defaults) : d.Overridden (fun _ => none) d :=
  ⟨rfl, rfl, rfl, rfl, rfl, rfl, rfl, rfl, rfl, rfl, rfl, rfl⟩

/-! ## One override -/

/-- A number that was read is within the limit. -/
theorem Numeral.le_of_readBounded {limit n : Nat} {cs : List Char}
    (h : readBounded limit cs = .ok n) : n ≤ limit := by
  unfold readBounded at h
  split at h
  · exact absurd h (by simp)
  · exact absurd h (by simp)
  · exact le_of_readDigits (Nat.zero_le limit) h
  · exact le_of_readDigits (Nat.zero_le limit) h

/-- **What one property does**: it chooses a value for its own field. -/
theorem Property.overridden_of_change {p : Property} {value : String} {f : Defaults → Defaults}
    (h : p.change value = .ok f) (d : Defaults) :
    d.Overridden (fun q => if q = p then some value else none) (f d) := by
  have hrefl := d.overridden_refl
  have hresources := hrefl.resources
  cases p with
  | replicas =>
    obtain ⟨n, hread, hf⟩ := bind_eq_ok_iff.mp h
    cases hf
    rw [readNumber_eq_ok_iff] at hread
    have hn : n < UInt32.size := Nat.lt_of_le_pred (by decide) (Numeral.le_of_readBounded hread)
    have hfield : ReadsAs32 value (UInt32.ofNat n) := by
      rw [ReadsAs32, UInt32.toNat_ofNat_of_lt' hn, hread]
    exact { hrefl with resources := { hresources with replicas := hfield } }
  | port =>
    obtain ⟨n, hread, hf⟩ := bind_eq_ok_iff.mp h
    cases hf
    rw [readNumber_eq_ok_iff] at hread
    have hn : n < UInt16.size := Nat.lt_of_le_pred (by decide) (Numeral.le_of_readBounded hread)
    have hfield : ReadsAs16 value (UInt16.ofNat n) := by
      rw [ReadsAs16, UInt16.toNat_ofNat_of_lt' hn, hread]
    exact { hrefl with resources := { hresources with port := hfield } }
  | requestCpu =>
    obtain ⟨q, hread, hf⟩ := bind_eq_ok_iff.mp h
    cases hf
    exact { hrefl with
      resources := { hresources with requestCpu := readQuantity_eq_ok_iff.mp hread } }
  | limitCpu =>
    obtain ⟨q, hread, hf⟩ := bind_eq_ok_iff.mp h
    cases hf
    exact { hrefl with
      resources := { hresources with limitCpu := readQuantity_eq_ok_iff.mp hread } }
  | requestMemory =>
    obtain ⟨q, hread, hf⟩ := bind_eq_ok_iff.mp h
    cases hf
    exact { hrefl with
      resources := { hresources with requestMemory := readQuantity_eq_ok_iff.mp hread } }
  | limitMemory =>
    obtain ⟨q, hread, hf⟩ := bind_eq_ok_iff.mp h
    cases hf
    exact { hrefl with
      resources := { hresources with limitMemory := readQuantity_eq_ok_iff.mp hread } }
  | host =>
    cases h
    exact { hrefl with resources := { hresources with host := rfl } }
  | nameSpace =>
    cases h
    exact { hrefl with nameSpace := rfl, resources := { hresources with } }
  | registry =>
    cases h
    exact { hrefl with registry := rfl, resources := { hresources with } }
  | env name =>
    cases h
    exact { hrefl with resources := { hresources with } }

/-- The variable that an override assigns a value to. -/
def Override.assignment? (entry : String × String) : Option (String × String) :=
  match Property.ofKey? entry.1 with
  | some (.env name) => some (name, entry.2)
  | _ => none

theorem Override.assignment?_eq_some_iff {entry : String × String} {name value : String} :
    assignment? entry = some (name, value) ↔ entry = ((Property.env name).key, value) ∧
      name ≠ "" := by
  obtain ⟨key, text⟩ := entry
  have hkey : Property.ofKey? key = some (.env name) ↔
      key = (Property.env name).key ∧ Property.env name ≠ .env "" :=
    Property.ofKey?_eq_some_iff
  rw [assignment?, Prod.mk.injEq]
  constructor
  · intro h
    split at h
    next other hother =>
      obtain ⟨rfl, rfl⟩ := Prod.mk.inj (Option.some.inj h)
      obtain ⟨hentry, hne⟩ := hkey.mp hother
      exact ⟨⟨hentry, rfl⟩, fun hname => hne (by rw [hname])⟩
    next => exact absurd h (by simp)
  · rintro ⟨⟨hentry, rfl⟩, hname⟩
    rw [hkey.mpr ⟨hentry, by simpa using hname⟩]

/-- What an override that is taken does to the templates. -/
theorem Override.env_step {entry : String × String} (d : Defaults) :
    (step d entry).env = assign (assignment? entry).toList d.env := by
  rw [step, change, assignment?]
  cases hkey : Property.ofKey? entry.1 with
  | none => rfl
  | some p =>
    cases p with
    | env name => rfl
    | host | nameSpace | registry => rfl
    | replicas | port | requestCpu | limitCpu | requestMemory | limitMemory =>
      simp only [Property.change]
      split
      next f hf =>
        obtain ⟨read, -, hf⟩ := bind_eq_ok_iff.mp hf
        cases hf
        rfl
      next => rfl

/-- **What one override does**, if it is taken. -/
theorem Override.overridden_step {entry : String × String} (h : Valid entry) (d : Defaults) :
    d.Overridden (fun p => if entry.1 = p.key then some entry.2 else none) (step d entry) := by
  obtain ⟨f, hchange⟩ := valid_iff.mp h
  have hstep : step d entry = f d := by rw [step, hchange]
  rw [change] at hchange
  cases hkey : Property.ofKey? entry.1 with
  | none => simp [hkey] at hchange
  | some p =>
    simp only [hkey] at hchange
    have hentry := (Property.ofKey?_eq_some_iff.mp hkey).1
    have hchosen : (fun q : Property => if entry.1 = q.key then some entry.2 else none) =
        fun q => if q = p then some entry.2 else none := by
      funext q
      by_cases hq : q = p
      · simp [hq, hentry]
      · rw [if_neg hq, if_neg]
        intro heq
        exact hq (Property.key_injective (heq.symm.trans hentry))
    rw [hstep, hchosen]
    exact Property.overridden_of_change hchange d

/-! ## All overrides -/

section Runs

variable {entries : List (String × String)}

/-- **What overrides do**, if they are all taken: for each field the last value of its key is
chosen. -/
theorem overridden_foldl (hvalid : ∀ entry ∈ entries, Override.Valid entry) (d : Defaults) :
    d.Overridden (fun p => lastValue? p.key entries) (entries.foldl Override.step d) := by
  induction entries generalizing d with
  | nil => exact d.overridden_refl
  | cons entry rest ih =>
    have hfirst := Override.overridden_step (hvalid entry List.mem_cons_self) d
    exact hfirst.trans (ih (fun other hother => hvalid other (List.mem_cons_of_mem _ hother))
      (Override.step d entry))

/-- The templates after overrides: the variables are assigned in the order of the overrides. -/
theorem env_foldl (d : Defaults) :
    (entries.foldl Override.step d).env =
      assign (entries.filterMap Override.assignment?) d.env := by
  induction entries generalizing d with
  | nil => rfl
  | cons entry rest ih =>
    have hsplit : (entry :: rest).filterMap Override.assignment? =
        (Override.assignment? entry).toList ++ rest.filterMap Override.assignment? := by
      rw [List.filterMap_cons]
      cases Override.assignment? entry <;> rfl
    rw [List.foldl_cons, ih, Override.env_step, hsplit, assign_append]

/-- The last value that a variable is assigned is that of its key. A key without a name is not
taken. -/
theorem lastValue?_assignments (hvalid : ∀ entry ∈ entries, Override.Valid entry) (name : String) :
    lastValue? name (entries.filterMap Override.assignment?) =
      lastValue? (Property.env name).key entries := by
  induction entries with
  | nil => rfl
  | cons entry rest ih =>
    obtain ⟨key, value⟩ := entry
    have hrest := ih fun other hother => hvalid other (List.mem_cons_of_mem _ hother)
    have hname : key = (Property.env name).key → name ≠ "" := by
      rintro rfl rfl
      obtain ⟨p, hp, haccepts⟩ := hvalid _ List.mem_cons_self
      have hlead : (Property.env "").key = p.key := hp
      rw [← Property.key_injective hlead] at haccepts
      exact haccepts rfl
    rw [List.filterMap_cons, lastValue?]
    cases hassign : Override.assignment? (key, value) with
    | none =>
      have hkey : key ≠ (Property.env name).key := by
        intro heq
        rw [Override.assignment?_eq_some_iff.mpr ⟨by rw [heq], hname heq⟩] at hassign
        exact absurd hassign (by simp)
      rw [hrest, if_neg hkey, Option.or_none]
    | some assignment =>
      obtain ⟨other, assigned⟩ := assignment
      obtain ⟨heq, -⟩ := Override.assignment?_eq_some_iff.mp hassign
      obtain ⟨rfl, rfl⟩ := Prod.mk.inj heq
      rw [lastValue?, hrest]
      by_cases hother : other = name
      · simp [hother]
      · have hkey : (Property.env other).key ≠ (Property.env name).key := fun h =>
          hother (Property.env.inj (Property.key_injective h))
        simp [hother, hkey]

end Runs

namespace Overrides

/-- The value that overrides choose for a property. -/
def value? (o : Overrides) (p : Property) : Option String := o.get? p.key

/-- The overrides that are taken. -/
def taken (o : Overrides) : Overrides :=
  ⟨o.entries.filter fun entry => Override.Valid entry, o.sorted.filter _⟩

variable {o : Overrides} {d d' : Defaults} {key value : String}

theorem get?_taken : o.taken.get? key = some value ↔
    o.get? key = some value ∧ Override.Valid (key, value) := by
  rw [Dict.get?_eq_some_iff, Dict.get?_eq_some_iff, taken, List.mem_filter, decide_eq_true_eq]

theorem valid_of_mem_taken : ∀ entry ∈ o.taken.entries, Override.Valid entry := by
  intro entry hentry
  exact of_decide_eq_true (List.mem_filter.mp hentry).2

/-- **Overrides that are not taken can be left out.** -/
theorem effect_taken (o : Overrides) (d : Defaults) : o.taken.effect d = o.effect d := by
  rw [effect, effect, taken, List.foldl_filter]
  congr 1
  funext d entry
  by_cases hvalid : Override.Valid entry
  · simp [hvalid]
  · simp [hvalid, Override.step_of_not_valid hvalid]

theorem rejections_eq_nil_iff_valid : o.rejections = [] ↔
    ∀ entry ∈ o.entries, Override.Valid entry := by
  simp only [rejections, List.filterMap_eq_nil_iff, Override.rejection?_eq_none_iff]

/-- **When a call is accepted.** -/
theorem fst_outcome_eq_ok_iff :
    (o.outcome d).1 = .ok () ↔ ∀ entry ∈ o.entries, Override.Valid entry := by
  rw [← rejections_eq_nil_iff_valid, outcome, check]
  cases o.rejections with
  | nil => simp
  | cons r rest => simp

/-- Who goes on only without an error goes on with the defaults that are left behind. -/
theorem applyTo_eq_ok_iff_outcome : o.applyTo d = .ok d' ↔ o.outcome d = (.ok (), d') := by
  rw [applyTo, bind_eq_ok_iff, Prod.ext_iff]
  constructor
  · rintro ⟨⟨⟩, hanswer, hleft⟩
    exact ⟨hanswer, pure_eq_ok_iff.mp hleft⟩
  · rintro ⟨hanswer, hleft⟩
    exact ⟨(), hanswer, pure_eq_ok_iff.mpr hleft⟩

theorem applyTo_eq_error_iff {error : Error} :
    o.applyTo d = .error error ↔ (o.outcome d).1 = .error error := by
  rw [applyTo, bind_eq_error_iff]
  simp [pure, Except.pure]

/-- **When overrides are accepted**, and what they leave. -/
theorem applyTo_eq_ok_iff : o.applyTo d = .ok d' ↔
    (∀ entry ∈ o.entries, Override.Valid entry) ∧ d' = o.effect d := by
  rw [applyTo_eq_ok_iff_outcome, Prod.ext_iff, fst_outcome_eq_ok_iff, outcome, eq_comm (a := d')]

/-- What overrides leave of fields with one value, if they are all taken. -/
theorem overridden_effect (hvalid : ∀ entry ∈ o.entries, Override.Valid entry) (d : Defaults) :
    d.Overridden o.value? (o.effect d) := by
  have hvalue : o.value? = fun p => lastValue? p.key o.entries := by
    funext p
    rw [value?, Dict.lastValue?_entries]
  rw [hvalue]
  exact overridden_foldl hvalid d

/-! ## What is reported and what is left -/

/-- An error that names the overrides that are not taken, each as `key=value`, by ascending key. -/
def Reports (o : Overrides) (error : Error) : Prop :=
  ∃ rejections : List Override.Rejection,
    error.message = "Validation error: Invalid dynamic properties:" ++
      Text.bullets (rejections.map fun r => r.key ++ "=" ++ r.value ++ ": " ++ r.reason.message) ∧
    (rejections.map (·.key)).Pairwise (· < ·) ∧
    ∀ key value, (∃ r ∈ rejections, r.key = key ∧ r.value = value) ↔
      o.get? key = some value ∧ ¬ Override.Valid (key, value)

/-- What overrides leave, whether they are all taken or not. Every template that was there has its
place, and the first of a name has the value that was chosen for the name. New names follow, by
ascending key. -/
structure Leaves (o : Overrides) (d d' : Defaults) : Prop where
  name : d'.name = d.name
  baseDomain : d'.baseDomain = d.baseDomain
  requiredEnv : d'.requiredEnv = d.requiredEnv
  kept : ∀ i name template, d.env[i]? = some (name, template) → d'.env[i]? = some (name,
    if name ∈ namesOf (d.env.take i) then template
    else ((o.taken.value? (.env name)).map .literal).getD template)
  order : ((d'.env.drop d.env.length).map fun entry => (Property.env entry.1).key).Pairwise (· < ·)
  added : ∀ name template, (name, template) ∈ d'.env.drop d.env.length ↔
    name ∉ namesOf d.env ∧ ∃ value, o.taken.value? (.env name) = some value ∧
      template = .literal value

/-- What is rejected is reported. -/
theorem exists_reports (hinvalid : ¬ ∀ entry ∈ o.entries, Override.Valid entry) :
    ∃ error, (o.outcome d).1 = .error error ∧ o.Reports error := by
  refine ⟨.invalid (.overrides o.rejections), ?_, o.rejections, rfl, ?_, ?_⟩
  · rw [← rejections_eq_nil_iff_valid] at hinvalid
    rw [outcome, check, if_neg (by simpa using hinvalid)]
  · rw [rejections, List.pairwise_map, List.pairwise_filterMap]
    refine o.sorted.imp ?_
    intro a b hlt r hr r' hr'
    rwa [(Override.rejection?_eq_some hr).1, (Override.rejection?_eq_some hr').1]
  · intro key value
    rw [Dict.get?_eq_some_iff, ← Override.rejection?_eq_none_iff]
    constructor
    · rintro ⟨r, hr, rfl, rfl⟩
      obtain ⟨entry, hentry, hrejected⟩ := List.mem_filterMap.mp hr
      obtain ⟨hkey, hvalue, -⟩ := Override.rejection?_eq_some hrejected
      rw [hkey, hvalue, hrejected]
      exact ⟨hentry, by simp⟩
    · rintro ⟨hentry, hrejected⟩
      obtain ⟨r, hr⟩ := Option.ne_none_iff_exists'.mp hrejected
      obtain ⟨hkey, hvalue, -⟩ := Override.rejection?_eq_some hr
      exact ⟨r, List.mem_filterMap.mpr ⟨_, hentry, hr⟩, hkey, hvalue⟩

/-- What overrides leave. -/
theorem leaves_effect (o : Overrides) (d : Defaults) : o.Leaves d (o.effect d) := by
  have hvalid : ∀ entry ∈ o.taken.entries, Override.Valid entry := valid_of_mem_taken
  have hfields := overridden_effect hvalid d
  obtain ⟨added, hassign, hadded⟩ :=
    assign_cases (o.taken.entries.filterMap Override.assignment?) d.env
  have henv : (o.taken.effect d).env = _ := (env_foldl d).trans hassign
  have hvalue : ∀ name, lastValue? name (o.taken.entries.filterMap Override.assignment?) =
      o.taken.value? (.env name) := by
    intro name
    rw [lastValue?_assignments hvalid, Dict.lastValue?_entries, value?]
  simp only [hvalue] at henv
  rw [effect_taken] at hfields henv
  have hdrop : (o.effect d).env.drop d.env.length = added := by
    rw [henv]
    exact List.drop_left' length_reassign
  constructor
  case name => exact hfields.name
  case baseDomain => exact hfields.baseDomain
  case requiredEnv => exact hfields.requiredEnv
  case kept =>
    intro i name template hentry
    obtain ⟨hi, -⟩ := List.getElem?_eq_some_iff.mp hentry
    rw [henv, List.getElem?_append_left (by rwa [length_reassign]), getElem?_reassign hentry]
  case order =>
    -- the keys ascend in the overrides, so they do among the assignments and in every part of them
    have hkeys : ((o.taken.entries.filterMap Override.assignment?).map (·.1)).Pairwise
        fun a b => (Property.env a).key < (Property.env b).key := by
      rw [List.pairwise_map, List.pairwise_filterMap]
      refine o.taken.sorted.imp ?_
      rintro a b hlt ⟨n, v⟩ ha ⟨n', v'⟩ hb
      rwa [(Override.assignment?_eq_some_iff.mp ha).1,
        (Override.assignment?_eq_some_iff.mp hb).1] at hlt
    have hnames : (added.map (·.1)).Pairwise
        fun a b => (Property.env a).key < (Property.env b).key :=
      hkeys.sublist hadded.order
    rw [List.pairwise_map] at hnames
    rw [hdrop, List.pairwise_map]
    exact hnames
  case added =>
    intro name template
    rw [hdrop, hadded.mem_iff, hvalue]

/-- **Every override is judged on its own.** A call is accepted exactly when each override is valid.
Otherwise its error names those that are not. In both cases it leaves behind what a call with the
valid ones alone would leave, and that is accepted. Who goes on only without an error goes on with
these defaults. -/
theorem judged_one_by_one (o : Overrides) (d : Defaults) :
    ((o.outcome d).1 = .ok () ↔ ∀ entry ∈ o.entries, Override.Valid entry) ∧
    ((¬ ∀ entry ∈ o.entries, Override.Valid entry) →
      ∃ error, (o.outcome d).1 = .error error ∧ o.Reports error) ∧
    (∀ key value, o.taken.get? key = some value ↔
      o.get? key = some value ∧ Override.Valid (key, value)) ∧
    o.taken.outcome d = (.ok (), (o.outcome d).2) ∧
    o.Leaves d (o.outcome d).2 ∧
    (∀ d', o.applyTo d = .ok d' ↔ o.outcome d = (.ok (), d')) ∧
    ∀ error, o.applyTo d = .error error ↔ (o.outcome d).1 = .error error := by
  have htaken : o.taken.outcome d = (.ok (), (o.outcome d).2) :=
    Prod.ext (fst_outcome_eq_ok_iff.mpr valid_of_mem_taken) (effect_taken o d)
  exact ⟨fst_outcome_eq_ok_iff, exists_reports, fun key value => get?_taken, htaken,
    leaves_effect o d, fun d' => applyTo_eq_ok_iff_outcome, fun error => applyTo_eq_error_iff⟩

end Overrides

end AppRelease
